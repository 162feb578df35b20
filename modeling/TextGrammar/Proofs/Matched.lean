import TextGrammar.Proofs.Reports

/-! Matches by the rules of a grammar. Alternatives that failed, limits and the rules that are being
matched leave no trace in a match, so what a match says about the source follows from its tree, the
form and the rules alone. -/

namespace TextGrammar.Grammar

variable {source : List Char}

inductive Matched (grammar : Grammar) :
    Form Pattern → Cursor source → MatchTree → Cursor source → Prop
  | literal {text cursor} (present : text.toList <+: cursor.rest) :
      Matched grammar (.literal text) cursor (Form.takeText cursor text.toList.length).1
        (cursor.advance text.toList.length)
  | pattern {pattern cursor taken} (found : pattern.match? cursor.rest = some taken) :
      Matched grammar (.leaf pattern) cursor (Form.takeText cursor taken.length).1
        (cursor.advance taken.length)
  | sequence_nil {cursor} :
      Matched grammar (.sequence []) cursor (.sequence cursor.position cursor.position []) cursor
  | sequence_cons {form rest cursor tree behind start stop others last}
      (first : Matched grammar form cursor tree behind)
      (following : Matched grammar (.sequence rest) behind (.sequence start stop others) last) :
      Matched grammar (.sequence (form :: rest)) cursor
        (.sequence cursor.position last.position (tree :: others)) last
  | oneOf {forms form cursor tree behind} (member : form ∈ forms)
      (inside : Matched grammar form cursor tree behind) :
      Matched grammar (.oneOf forms) cursor tree behind
  | manyOf_once {form cursor tree behind} (once : Matched grammar form cursor tree behind) :
      Matched grammar (.manyOf form) cursor
        (.repetition cursor.position behind.position [tree]) behind
  | manyOf_more {form cursor tree behind start stop others last}
      (once : Matched grammar form cursor tree behind)
      (moved : cursor.position.offset < behind.position.offset)
      (again : Matched grammar (.manyOf form) behind (.repetition start stop others) last) :
      Matched grammar (.manyOf form) cursor
        (.repetition cursor.position last.position (tree :: others)) last
  | optional_some {form cursor tree behind} (inside : Matched grammar form cursor tree behind) :
      Matched grammar (.optional form) cursor tree behind
  | optional_none {form cursor} :
      Matched grammar (.optional form) cursor (.empty cursor.position cursor.position) cursor
  | rule {name form cursor body behind} (found : grammar.form? name = some form)
      (inside : Matched grammar form cursor body behind) :
      Matched grammar (.reference name) cursor
        (.rule cursor.position behind.position name body) behind
  | except {form exclusions cursor tree behind}
      (inside : Matched grammar form cursor tree behind)
      (allowed : String.ofList (cursor.textTo behind) ∉ exclusions) :
      Matched grammar (.except form exclusions) cursor tree behind

variable {grammar : Grammar} {cursor behind : Cursor source} {tree : MatchTree}

theorem Matched.sequence_shape {forms : List (Form Pattern)}
    (matched : grammar.Matched (.sequence forms) cursor tree behind) :
    ∃ start stop, tree = .sequence start stop tree.children := by
  cases matched <;> exact ⟨_, _, rfl⟩

theorem Matched.manyOf_shape {form : Form Pattern}
    (matched : grammar.Matched (.manyOf form) cursor tree behind) :
    ∃ start stop, tree = .repetition start stop tree.children := by
  cases matched <;> exact ⟨_, _, rfl⟩

theorem matched_of_matchWith (goal : Goal source)
    (matched : goal.form.matchWith (grammar.matchRule goal.active) goal.cursor =
      .ok (tree, behind)) : grammar.Matched goal.form goal.cursor tree behind := by
  induction goal using (grammar.calls_wellFounded source).induction generalizing tree behind
    with | _ goal ih
  have called {inner : Goal source} {part : MatchTree} {place : Cursor source}
      (call : grammar.Calls goal inner)
      (matched : inner.form.matchWith (grammar.matchRule inner.active) inner.cursor =
        .ok (part, place)) : grammar.Matched inner.form inner.cursor part place :=
    ih inner call matched
  obtain ⟨active, form, cursor⟩ := goal
  dsimp only at matched ⊢
  cases form with
  | literal text =>
      rw [Form.matchWith] at matched
      split at matched <;> cases matched
      rename_i present
      exact .literal (List.isPrefixOf_iff_prefix.mp present)
  | leaf pattern =>
      rw [Form.matchWith] at matched
      split at matched <;> cases matched
      rename_i found
      exact .pattern found
  | sequence forms =>
      cases forms with
      | nil =>
          rw [Form.matchWith_sequence_nil] at matched
          cases matched
          exact .sequence_nil
      | cons form rest =>
          rw [Form.matchWith_sequence_cons] at matched
          split at matched
          · cases matched
          · rename_i head
            split at matched <;> cases matched
            rename_i tail
            have first := called .sequence_first head
            have following := called (.sequence_others head) tail
            obtain ⟨start, stop, shape⟩ := following.sequence_shape
            rw [shape] at following
            exact .sequence_cons first following
  | oneOf forms =>
      cases forms with
      | nil =>
          rw [Form.matchWith_oneOf_nil] at matched
          cases matched
      | cons form rest =>
          rw [Form.matchWith_oneOf_cons] at matched
          split at matched
          · rename_i head
            cases matched
            exact .oneOf List.mem_cons_self (called .oneOf_first head)
          · rename_i head
            split at matched
            · cases matched
            · rename_i mild
              split at matched
              · rename_i tail
                cases matched
                cases called (.oneOf_others head mild) tail with
                | oneOf member inside => exact .oneOf (List.mem_cons_of_mem _ member) inside
              · split at matched <;> cases matched
  | manyOf form =>
      rw [Form.matchWith_manyOf] at matched
      split at matched
      · split at matched <;> cases matched
      · rename_i head
        have once := called .manyOf_once head
        split at matched
        · rename_i moved
          split at matched
          · split at matched <;> cases matched
            exact .manyOf_once once
          · rename_i tail
            cases matched
            have again := called (.manyOf_again head moved) tail
            obtain ⟨start, stop, shape⟩ := again.manyOf_shape
            rw [shape] at again
            exact .manyOf_more once moved again
        · cases matched
          exact .manyOf_once once
  | optional form =>
      rw [Form.matchWith] at matched
      split at matched
      · rename_i head
        cases matched
        exact .optional_some (called .optional head)
      · split at matched <;> cases matched
        exact .optional_none
  | reference name =>
      rw [Form.matchWith] at matched
      split at matched <;> cases matched
      rename_i rule
      rcases grammar.matchRule_cases active name cursor with missing | ⟨body, found, taken⟩ |
        ⟨body, limit, found, fresh, limited, full⟩ | ⟨body, found, fresh, room⟩
      · rw [matchRule_undefined missing] at rule
        cases rule
      · rw [matchRule_circular found taken] at rule
        cases rule
      · rw [matchRule_limited found fresh limited full] at rule
        cases rule
      · rw [matchRule_entered found fresh room] at rule
        exact .rule found (called (.reference found fresh room) (ok_of_mapError_eq_ok rule))
  | except form exclusions =>
      rw [Form.matchWith] at matched
      split at matched
      · cases matched
      · rename_i head
        split at matched <;> cases matched
        rename_i allowed
        exact .except (called .except head) fun excluded =>
          allowed (List.contains_iff_mem.mpr excluded)

theorem exists_matched_of_matchForm {form : Form Pattern} {source : String} {position : Position}
    (matched : grammar.matchForm form source position = .ok tree) :
    ∃ cursor behind : Cursor source.toList,
      cursor.position = position ∧ grammar.Matched form cursor tree behind := by
  rcases exists_cursor_of_matchForm matched with ⟨cursor, behind, located, outcome⟩
  exact ⟨cursor, behind, located, matched_of_matchWith ⟨[], form, cursor⟩ outcome⟩

theorem exists_matched_of_parse {source : String} {node : Node}
    (parsed : grammar.parse source = .ok node) :
    ∃ (body : MatchTree) (behind : Cursor source.toList),
      grammar.Matched (.reference grammar.root) (.atStart source.toList)
        (.rule .start behind.position grammar.root body) behind ∧
      behind.rest = [] ∧ node = ⟨grammar.root, body.asValue, .start, behind.position⟩ := by
  rw [parse_eq_finish] at parsed
  cases outcome : grammar.matchRule [] grammar.root (.atStart source.toList) with
  | error error =>
      rw [outcome] at parsed
      cases parsed
  | ok pair =>
      obtain ⟨body, behind⟩ := pair
      rw [outcome, finish] at parsed
      split at parsed <;> cases parsed
      rename_i done
      refine ⟨body, behind, ?_, List.isEmpty_iff.mp done, rfl⟩
      apply matched_of_matchWith ⟨[], .reference grammar.root, .atStart source.toList⟩
      rw [Form.matchWith, outcome]
      rfl

end TextGrammar.Grammar
