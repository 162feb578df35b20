import Mathlib.Logic.Relation
import TextGrammar.Grammar.Matching
import TextGrammar.Proofs.CutShort
import TextGrammar.Proofs.Results

/-! The course of a match. A goal is a form to be matched at a cursor while rules are being matched,
and it calls for further goals. The relation covers the alternatives that are given up later, and a
loop over forms or rounds calls for what is left of it. No chain of calls goes on for ever. -/

namespace TextGrammar

structure Goal (source : List Char) where
  active : List ActiveRule
  form : Form Pattern
  cursor : Cursor source

namespace Grammar

variable {source : List Char}

def HasRoom (grammar : Grammar) (active : List ActiveRule) : Prop :=
  ∀ limit, grammar.depthLimit = some limit → active.length < limit

section Rules

variable {grammar : Grammar} {active : List ActiveRule} {name : String} {cursor : Cursor source}
  {body : Form Pattern}

theorem filter_depthLimit_eq_some_iff {limit : Nat} :
    grammar.depthLimit.filter (· ≤ active.length) = some limit ↔
      grammar.depthLimit = some limit ∧ limit ≤ active.length := by
  rw [Option.filter_eq_some_iff, decide_eq_true_iff]

theorem filter_depthLimit_eq_none_iff :
    grammar.depthLimit.filter (· ≤ active.length) = none ↔ grammar.HasRoom active := by
  simp only [Option.filter_eq_none_iff, decide_eq_true_iff, Nat.not_le, HasRoom]

theorem matchRule_undefined (missing : grammar.form? name = none) :
    grammar.matchRule active name cursor =
      .error ⟨none, .undefinedRule name, cursor.position⟩ := by
  rw [matchRule]
  split
  · rfl
  · rename_i found
    rw [missing] at found
    cases found

theorem matchRule_circular (found : grammar.form? name = some body)
    (taken : ⟨name, cursor.position.offset⟩ ∈ active) :
    grammar.matchRule active name cursor =
      .error ⟨none, .circular active.reverse, cursor.position⟩ := by
  rw [matchRule]
  split
  · rename_i missing
    rw [found] at missing
    cases missing
  · rw [dif_pos taken]

theorem matchRule_limited {limit : Nat} (found : grammar.form? name = some body)
    (fresh : ⟨name, cursor.position.offset⟩ ∉ active) (limited : grammar.depthLimit = some limit)
    (full : limit ≤ active.length) :
    grammar.matchRule active name cursor =
      .error ⟨none, .depthLimit limit, cursor.position⟩ := by
  rw [matchRule]
  split
  · rename_i missing
    rw [found] at missing
    cases missing
  · rw [dif_neg fresh, filter_depthLimit_eq_some_iff.mpr ⟨limited, full⟩]

theorem matchRule_entered (found : grammar.form? name = some body)
    (fresh : ⟨name, cursor.position.offset⟩ ∉ active) (room : grammar.HasRoom active) :
    grammar.matchRule active name cursor =
      (body.matchWith (grammar.matchRule (⟨name, cursor.position.offset⟩ :: active))
        cursor).mapError (·.within name) := by
  rw [matchRule]
  split
  · rename_i missing
    rw [found] at missing
    cases missing
  · rename_i form same
    rw [found] at same
    cases same
    rw [dif_neg fresh, filter_depthLimit_eq_none_iff.mpr room]

theorem le_of_matchRule {tree : MatchTree} {behind : Cursor source}
    (matched : grammar.matchRule active name cursor = .ok (tree, behind)) : cursor ≤ behind := by
  fun_induction grammar.matchRule active name cursor generalizing tree behind with
  | case1 => cases matched
  | case2 => cases matched
  | case3 => cases matched
  | case4 =>
      rename_i ih
      have inside := ok_of_mapError_eq_ok matched
      exact Form.le_of_matchWith (fun inner later _ _ => ih inner later) inside

theorem matchRule_cases (grammar : Grammar) (active : List ActiveRule) (name : String)
    (cursor : Cursor source) :
    grammar.form? name = none ∨
    (∃ body, grammar.form? name = some body ∧ ⟨name, cursor.position.offset⟩ ∈ active) ∨
    (∃ body limit, grammar.form? name = some body ∧ ⟨name, cursor.position.offset⟩ ∉ active ∧
      grammar.depthLimit = some limit ∧ limit ≤ active.length) ∨
    (∃ body, grammar.form? name = some body ∧ ⟨name, cursor.position.offset⟩ ∉ active ∧
      grammar.HasRoom active) := by
  cases found : grammar.form? name with
  | none => exact .inl rfl
  | some body =>
      by_cases taken : ⟨name, cursor.position.offset⟩ ∈ active
      · exact .inr (.inl ⟨body, rfl, taken⟩)
      · by_cases room : grammar.HasRoom active
        · exact .inr (.inr (.inr ⟨body, rfl, taken, room⟩))
        · simp only [HasRoom, not_forall] at room
          obtain ⟨limit, limited, full⟩ := room
          exact .inr (.inr (.inl ⟨body, limit, rfl, taken, limited, Nat.le_of_not_lt full⟩))

end Rules

/-- The goals that a goal calls for. Where forms follow one another, the goal of the others depends
on the outcome of the first. -/
inductive Calls (grammar : Grammar) : Goal source → Goal source → Prop
  | sequence_first {active form rest cursor} :
      Calls grammar ⟨active, .sequence (form :: rest), cursor⟩ ⟨active, form, cursor⟩
  | sequence_others {active form rest cursor tree behind}
      (first : form.matchWith (grammar.matchRule active) cursor = .ok (tree, behind)) :
      Calls grammar ⟨active, .sequence (form :: rest), cursor⟩ ⟨active, .sequence rest, behind⟩
  | oneOf_first {active form rest cursor} :
      Calls grammar ⟨active, .oneOf (form :: rest), cursor⟩ ⟨active, form, cursor⟩
  | oneOf_others {active form rest cursor error}
      (first : form.matchWith (grammar.matchRule active) cursor = .error error)
      (mild : ¬ error.reason.isFatal) :
      Calls grammar ⟨active, .oneOf (form :: rest), cursor⟩ ⟨active, .oneOf rest, cursor⟩
  | manyOf_once {active form cursor} :
      Calls grammar ⟨active, .manyOf form, cursor⟩ ⟨active, form, cursor⟩
  | manyOf_again {active form cursor tree behind}
      (once : form.matchWith (grammar.matchRule active) cursor = .ok (tree, behind))
      (moved : cursor.position.offset < behind.position.offset) :
      Calls grammar ⟨active, .manyOf form, cursor⟩ ⟨active, .manyOf form, behind⟩
  | optional {active form cursor} :
      Calls grammar ⟨active, .optional form, cursor⟩ ⟨active, form, cursor⟩
  | reference {active name cursor body} (found : grammar.form? name = some body)
      (fresh : ⟨name, cursor.position.offset⟩ ∉ active) (room : grammar.HasRoom active) :
      Calls grammar ⟨active, .reference name, cursor⟩
        ⟨⟨name, cursor.position.offset⟩ :: active, body, cursor⟩
  | except {active form exclusions cursor} :
      Calls grammar ⟨active, .except form exclusions, cursor⟩ ⟨active, form, cursor⟩

/-- What a goal has left: the pairs of a rule and an offset that are not taken up, the size of its
form, and the rest of the source. -/
noncomputable def measure (grammar : Grammar) (goal : Goal source) : Nat × Nat × Nat :=
  ((grammar.vacant (Text.byteLength source) goal.active).length, sizeOf goal.form,
    Text.byteLength source - goal.cursor.position.offset)

theorem calls_wellFounded (grammar : Grammar) (source : List Char) :
    WellFounded fun inner outer : Goal source => grammar.Calls outer inner := by
  have ordered : WellFounded
      (InvImage (Prod.Lex (· < ·) (Prod.Lex (· < ·) (· < ·)))
        fun goal : Goal source => grammar.measure goal) :=
    InvImage.wf _ (Nat.lt_wfRel.wf.prod_lex (Nat.lt_wfRel.wf.prod_lex Nat.lt_wfRel.wf))
  refine Subrelation.wf ?_ ordered
  intro inner outer call
  cases call with
  | sequence_first | sequence_others | oneOf_first | oneOf_others =>
      refine .right _ (.left _ _ ?_)
      simp only [Form.sequence.sizeOf_spec, Form.oneOf.sizeOf_spec, List.cons.sizeOf_spec]
      omega
  | manyOf_once | optional | except =>
      refine .right _ (.left _ _ ?_)
      simp only [Form.manyOf.sizeOf_spec, Form.optional.sizeOf_spec, Form.except.sizeOf_spec]
      omega
  | manyOf_again once moved =>
      rename_i behind
      have inside := behind.offset_le
      refine .right _ (.right _ ?_)
      simp only
      omega
  | reference found fresh room =>
      rename_i cursor _
      exact .left _ _ (length_vacant_cons_lt (mem_ruleNames_of_form? found) cursor.offset_le fresh)

abbrev Reaches (grammar : Grammar) : Goal source → Goal source → Prop :=
  Relation.ReflTransGen grammar.Calls

/-- The reasons for which a goal may fail other than that a goal that it calls for fails. -/
inductive Raises (grammar : Grammar) : Goal source → Reason (Form Pattern) → Prop
  | expected {active form cursor} : Raises grammar ⟨active, form, cursor⟩ (.expected form)
  | undefined {active name cursor} (missing : grammar.form? name = none) :
      Raises grammar ⟨active, .reference name, cursor⟩ (.undefinedRule name)
  | circular {active name cursor body} (found : grammar.form? name = some body)
      (taken : ⟨name, cursor.position.offset⟩ ∈ active) :
      Raises grammar ⟨active, .reference name, cursor⟩ (.circular active.reverse)
  | depthLimit {active name cursor body limit} (found : grammar.form? name = some body)
      (fresh : ⟨name, cursor.position.offset⟩ ∉ active)
      (limited : grammar.depthLimit = some limit) (full : limit ≤ active.length) :
      Raises grammar ⟨active, .reference name, cursor⟩ (.depthLimit limit)

section Course

variable {grammar : Grammar}

theorem Calls.cursor_le {outer inner : Goal source} (call : grammar.Calls outer inner) :
    outer.cursor ≤ inner.cursor := by
  have forward (active : List ActiveRule) (name : String) (cursor : Cursor source)
      (tree : MatchTree) (behind : Cursor source)
      (matched : grammar.matchRule active name cursor = .ok (tree, behind)) : cursor ≤ behind :=
    le_of_matchRule matched
  cases call with
  | sequence_others first => exact Form.le_of_matchWith (forward _) first
  | manyOf_again once moved => exact Cursor.le_of_offset_lt moved
  | _ => exact le_rfl

theorem Reaches.cursor_le {outer inner : Goal source} (reached : grammar.Reaches outer inner) :
    outer.cursor ≤ inner.cursor := by
  induction reached with
  | refl => exact le_rfl
  | tail _ call ih => exact ih.trans call.cursor_le

/-- Every failure is raised by a goal that comes up, at the cursor of that goal. -/
theorem exists_raises_of_error (goal : Goal source) {error : MatchError (Form Pattern)}
    (failed : goal.form.matchWith (grammar.matchRule goal.active) goal.cursor = .error error) :
    ∃ origin, grammar.Reaches goal origin ∧ grammar.Raises origin error.reason ∧
      error.position = origin.cursor.position := by
  induction goal using (grammar.calls_wellFounded source).induction generalizing error
    with | _ goal ih
  have called {inner : Goal source} (call : grammar.Calls goal inner)
      (failed : inner.form.matchWith (grammar.matchRule inner.active) inner.cursor = .error error) :
      ∃ origin, grammar.Reaches goal origin ∧ grammar.Raises origin error.reason ∧
        error.position = origin.cursor.position := by
    obtain ⟨origin, reached, raised, place⟩ := ih inner call failed
    exact ⟨origin, .head call reached, raised, place⟩
  have own (reason : grammar.Raises goal error.reason)
      (place : error.position = goal.cursor.position) :
      ∃ origin, grammar.Reaches goal origin ∧ grammar.Raises origin error.reason ∧
        error.position = origin.cursor.position := ⟨goal, .refl, reason, place⟩
  obtain ⟨active, form, cursor⟩ := goal
  dsimp only at failed
  cases form with
  | literal text =>
      rw [Form.matchWith] at failed
      split at failed <;> cases failed
      exact own .expected rfl
  | leaf pattern =>
      rw [Form.matchWith] at failed
      split at failed <;> cases failed
      exact own .expected rfl
  | sequence forms =>
      cases forms with
      | nil =>
          rw [Form.matchWith_sequence_nil] at failed
          cases failed
      | cons form rest =>
          rw [Form.matchWith_sequence_cons] at failed
          split at failed
          · rename_i first
            cases failed
            exact called .sequence_first first
          · rename_i first
            split at failed <;> cases failed
            rename_i others
            exact called (.sequence_others first) others
  | oneOf forms =>
      cases forms with
      | nil =>
          rw [Form.matchWith_oneOf_nil] at failed
          cases failed
          exact own .expected rfl
      | cons form rest =>
          rw [Form.matchWith_oneOf_cons] at failed
          split at failed
          · cases failed
          · rename_i first
            split at failed
            · cases failed
              exact called .oneOf_first first
            · rename_i mild
              split at failed
              · cases failed
              · rename_i others
                split at failed <;> cases failed
                · exact called (.oneOf_others first mild) others
                · exact own .expected rfl
  | manyOf form =>
      rw [Form.matchWith_manyOf] at failed
      split at failed
      · rename_i once
        split at failed <;> cases failed
        · exact called .manyOf_once once
        · exact own .expected rfl
      · rename_i once
        split at failed
        · rename_i moved
          split at failed
          · rename_i again
            split at failed <;> cases failed
            exact called (.manyOf_again once moved) again
          · cases failed
        · cases failed
  | optional form =>
      rw [Form.matchWith] at failed
      split at failed
      · cases failed
      · rename_i inside
        split at failed <;> cases failed
        exact called .optional inside
  | reference name =>
      rw [Form.matchWith] at failed
      split at failed <;> cases failed
      rename_i rule
      rcases grammar.matchRule_cases active name cursor with missing | ⟨body, found, taken⟩ |
        ⟨body, limit, found, fresh, limited, full⟩ | ⟨body, found, fresh, room⟩
      · rw [matchRule_undefined missing] at rule
        cases rule
        exact own (.undefined missing) rfl
      · rw [matchRule_circular found taken] at rule
        cases rule
        exact own (.circular found taken) rfl
      · rw [matchRule_limited found fresh limited full] at rule
        cases rule
        exact own (.depthLimit found fresh limited full) rfl
      · rw [matchRule_entered found fresh room] at rule
        obtain ⟨inner, inside, rfl⟩ := error_of_mapError_eq_error rule
        have call : grammar.Calls _ _ := .reference found fresh room
        obtain ⟨origin, reached, raised, place⟩ := ih _ call inside
        exact ⟨origin, .head call reached, raised, place⟩
  | except form exclusions =>
      rw [Form.matchWith] at failed
      split at failed
      · rename_i inside
        cases failed
        exact called .except inside
      · split at failed <;> cases failed
        exact own .expected rfl

end Course

end Grammar

end TextGrammar
