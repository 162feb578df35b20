import TextGrammar.Proofs.DepthLimit

/-! Plain ordered choice: what a form comes to by the clauses of its parts alone, with no record of
the rules that are being matched. An evaluation is finite, so left recursion has none. -/

namespace TextGrammar.Grammar

variable {source : List Char}

/-- The outcome of a form at a cursor by plain ordered choice. A sequence goes on with the sequence
of its other forms, a choice with the choice of its other forms, and a repetition with itself. -/
inductive Evaluates (grammar : Grammar) : Form Pattern → Cursor source → Outcome source → Prop
  | literal {text cursor} (present : text.toList <+: cursor.rest) :
      Evaluates grammar (.literal text) cursor (.ok (Form.takeText cursor text.toList.length))
  | literal_fails {text cursor} (absent : ¬ text.toList <+: cursor.rest) :
      Evaluates grammar (.literal text) cursor (.error (Form.expected (.literal text) cursor))
  | pattern {pattern cursor taken} (found : pattern.match? cursor.rest = some taken) :
      Evaluates grammar (.leaf pattern) cursor (.ok (Form.takeText cursor taken.length))
  | pattern_fails {pattern cursor} (absent : pattern.match? cursor.rest = none) :
      Evaluates grammar (.leaf pattern) cursor (.error (Form.expected (.leaf pattern) cursor))
  | sequence_nil {cursor} :
      Evaluates grammar (.sequence []) cursor
        (.ok (.sequence cursor.position cursor.position [], cursor))
  | sequence_cons {form rest cursor tree behind others last}
      (first : Evaluates grammar form cursor (.ok (tree, behind)))
      (following : Evaluates grammar (.sequence rest) behind (.ok (others, last))) :
      Evaluates grammar (.sequence (form :: rest)) cursor
        (.ok (.sequence cursor.position last.position (tree :: others.children), last))
  | sequence_first_fails {form rest cursor error}
      (first : Evaluates grammar form cursor (.error error)) :
      Evaluates grammar (.sequence (form :: rest)) cursor (.error error)
  | sequence_others_fail {form rest cursor tree behind error}
      (first : Evaluates grammar form cursor (.ok (tree, behind)))
      (following : Evaluates grammar (.sequence rest) behind (.error error)) :
      Evaluates grammar (.sequence (form :: rest)) cursor (.error error)
  | oneOf_nil {cursor} :
      Evaluates grammar (.oneOf []) cursor (.error (Form.expected (.oneOf []) cursor))
  | oneOf_first {form rest cursor matched}
      (first : Evaluates grammar form cursor (.ok matched)) :
      Evaluates grammar (.oneOf (form :: rest)) cursor (.ok matched)
  | oneOf_other {form rest cursor error matched}
      (first : Evaluates grammar form cursor (.error error))
      (others : Evaluates grammar (.oneOf rest) cursor (.ok matched)) :
      Evaluates grammar (.oneOf (form :: rest)) cursor (.ok matched)
  | oneOf_fails {form rest cursor error other}
      (first : Evaluates grammar form cursor (.error error))
      (others : Evaluates grammar (.oneOf rest) cursor (.error other)) :
      Evaluates grammar (.oneOf (form :: rest)) cursor
        (.error (Form.expected (.oneOf (form :: rest)) cursor))
  | manyOf_fails {form cursor error} (once : Evaluates grammar form cursor (.error error)) :
      Evaluates grammar (.manyOf form) cursor (.error (Form.expected (.manyOf form) cursor))
  | manyOf_still {form cursor tree behind}
      (once : Evaluates grammar form cursor (.ok (tree, behind)))
      (still : ¬ cursor.position.offset < behind.position.offset) :
      Evaluates grammar (.manyOf form) cursor
        (.ok (.repetition cursor.position behind.position [tree], behind))
  | manyOf_last {form cursor tree behind error}
      (once : Evaluates grammar form cursor (.ok (tree, behind)))
      (moved : cursor.position.offset < behind.position.offset)
      (again : Evaluates grammar (.manyOf form) behind (.error error)) :
      Evaluates grammar (.manyOf form) cursor
        (.ok (.repetition cursor.position behind.position [tree], behind))
  | manyOf_more {form cursor tree behind others last}
      (once : Evaluates grammar form cursor (.ok (tree, behind)))
      (moved : cursor.position.offset < behind.position.offset)
      (again : Evaluates grammar (.manyOf form) behind (.ok (others, last))) :
      Evaluates grammar (.manyOf form) cursor
        (.ok (.repetition cursor.position last.position (tree :: others.children), last))
  | optional_some {form cursor matched} (inside : Evaluates grammar form cursor (.ok matched)) :
      Evaluates grammar (.optional form) cursor (.ok matched)
  | optional_none {form cursor error} (inside : Evaluates grammar form cursor (.error error)) :
      Evaluates grammar (.optional form) cursor
        (.ok (.empty cursor.position cursor.position, cursor))
  | undefined {name cursor} (missing : grammar.form? name = none) :
      Evaluates grammar (.reference name) cursor
        (.error ⟨none, .undefinedRule name, cursor.position⟩)
  | rule {name cursor form body behind} (found : grammar.form? name = some form)
      (inside : Evaluates grammar form cursor (.ok (body, behind))) :
      Evaluates grammar (.reference name) cursor
        (.ok (.rule cursor.position behind.position name body, behind))
  | rule_fails {name cursor form error} (found : grammar.form? name = some form)
      (inside : Evaluates grammar form cursor (.error error)) :
      Evaluates grammar (.reference name) cursor (.error (error.within name))
  | except {form exclusions cursor tree behind}
      (inside : Evaluates grammar form cursor (.ok (tree, behind)))
      (allowed : String.ofList (cursor.textTo behind) ∉ exclusions) :
      Evaluates grammar (.except form exclusions) cursor (.ok (tree, behind))
  | except_excluded {form exclusions cursor tree behind}
      (inside : Evaluates grammar form cursor (.ok (tree, behind)))
      (excluded : String.ofList (cursor.textTo behind) ∈ exclusions) :
      Evaluates grammar (.except form exclusions) cursor
        (.error (Form.expected (.except form exclusions) cursor))
  | except_fails {form exclusions cursor error}
      (inside : Evaluates grammar form cursor (.error error)) :
      Evaluates grammar (.except form exclusions) cursor (.error error)

/-- A rule matched with no record of the rules that are being matched. It is given up where rules
nest deeper than so many. -/
def unguardedRule (grammar : Grammar) : Nat → String → Cursor source → Outcome source
  | 0, _, cursor => .error ⟨none, .depthLimit 0, cursor.position⟩
  | depth + 1, name, cursor =>
    match grammar.form? name with
    | none => .error ⟨none, .undefinedRule name, cursor.position⟩
    | some body =>
      (body.matchWith (grammar.unguardedRule depth) cursor).mapError (·.within name)

variable {grammar : Grammar} {form : Form Pattern} {cursor : Cursor source}
  {outcome : Outcome source}

theorem le_of_unguardedRule {depth : Nat} {name : String} {tree : MatchTree}
    {behind : Cursor source}
    (matched : grammar.unguardedRule depth name cursor = .ok (tree, behind)) :
    cursor ≤ behind := by
  induction depth generalizing name cursor tree behind with
  | zero => cases matched
  | succ depth ih =>
      rw [unguardedRule] at matched
      split at matched
      · cases matched
      · have inside := ok_of_mapError_eq_ok matched
        exact Form.le_of_matchWith (fun _ _ _ _ => ih) inside

theorem unguardedRule_cutShort_succ (depth : Nat) (name : String) (cursor : Cursor source) :
    CutShort (grammar.unguardedRule depth name cursor)
      (grammar.unguardedRule (depth + 1) name cursor) := by
  induction depth generalizing name cursor with
  | zero => exact .fatal rfl
  | succ depth ih =>
      rw [unguardedRule, unguardedRule]
      split
      · exact .refl _
      · refine (Form.matchWith_cutShort ?_ fun inner later _ => ih inner later).within name
        exact fun _ _ _ _ matched => le_of_unguardedRule matched

theorem unguardedRule_cutShort {depth deeper : Nat} (deep : depth ≤ deeper) (name : String)
    (cursor : Cursor source) :
    CutShort (grammar.unguardedRule depth name cursor)
      (grammar.unguardedRule deeper name cursor) := by
  induction deep with
  | refl => exact .refl _
  | step _ ih => exact ih.trans (unguardedRule_cutShort_succ _ name cursor)

theorem Evaluates.not_fatal (evaluated : grammar.Evaluates form cursor outcome)
    {error : MatchError (Form Pattern)} (failed : outcome = .error error) :
    ¬ error.reason.isFatal := by
  induction evaluated generalizing error with
  | sequence_first_fails _ ih => exact ih failed
  | sequence_others_fail _ _ _ ih => exact ih failed
  | rule_fails _ _ ih =>
      cases failed
      have mild := ih rfl
      exact mild
  | except_fails _ ih => exact ih failed
  | literal_fails | pattern_fails | oneOf_nil | oneOf_fails | manyOf_fails | undefined
  | except_excluded =>
      cases failed
      exact Bool.false_ne_true
  | _ => cases failed

/-- An evaluation has some depth, and matching to at least this depth has its outcome. -/
theorem Evaluates.exists_depth (evaluated : grammar.Evaluates form cursor outcome) :
    ∃ depth, ∀ deeper, depth ≤ deeper →
      form.matchWith (grammar.unguardedRule deeper) cursor = outcome := by
  induction evaluated with
  | literal present =>
      refine ⟨0, fun deeper _ => ?_⟩
      rw [Form.matchWith, if_pos (List.isPrefixOf_iff_prefix.mpr present)]
  | literal_fails absent =>
      refine ⟨0, fun deeper _ => ?_⟩
      rw [Form.matchWith, if_neg fun present => absent (List.isPrefixOf_iff_prefix.mp present)]
  | pattern found =>
      refine ⟨0, fun deeper _ => ?_⟩
      rw [Form.matchWith, found]
  | pattern_fails absent =>
      refine ⟨0, fun deeper _ => ?_⟩
      rw [Form.matchWith, absent]
  | sequence_nil => exact ⟨0, fun deeper _ => Form.matchWith_sequence_nil _⟩
  | sequence_cons _ _ first following =>
      obtain ⟨depth, first⟩ := first
      obtain ⟨other, following⟩ := following
      refine ⟨max depth other, fun deeper enough => ?_⟩
      rw [Form.matchWith_sequence_cons, first deeper (by omega)]
      simp only [following deeper (by omega)]
  | sequence_first_fails _ first =>
      obtain ⟨depth, first⟩ := first
      refine ⟨depth, fun deeper enough => ?_⟩
      rw [Form.matchWith_sequence_cons, first deeper enough]
  | sequence_others_fail _ _ first following =>
      obtain ⟨depth, first⟩ := first
      obtain ⟨other, following⟩ := following
      refine ⟨max depth other, fun deeper enough => ?_⟩
      rw [Form.matchWith_sequence_cons, first deeper (by omega)]
      simp only [following deeper (by omega)]
  | oneOf_nil => exact ⟨0, fun deeper _ => Form.matchWith_oneOf_nil _⟩
  | oneOf_first _ first =>
      obtain ⟨depth, first⟩ := first
      refine ⟨depth, fun deeper enough => ?_⟩
      rw [Form.matchWith_oneOf_cons, first deeper enough]
  | oneOf_other first _ ih others =>
      have mild := first.not_fatal rfl
      obtain ⟨depth, first⟩ := ih
      obtain ⟨other, others⟩ := others
      refine ⟨max depth other, fun deeper enough => ?_⟩
      rw [Form.matchWith_oneOf_cons, first deeper (by omega)]
      simp only [mild, others deeper (by omega)]
      rfl
  | oneOf_fails first others ih ihOthers =>
      have mild := first.not_fatal rfl
      have otherMild := others.not_fatal rfl
      obtain ⟨depth, first⟩ := ih
      obtain ⟨other, others⟩ := ihOthers
      refine ⟨max depth other, fun deeper enough => ?_⟩
      rw [Form.matchWith_oneOf_cons, first deeper (by omega)]
      simp only [mild, others deeper (by omega), otherMild]
      rfl
  | manyOf_fails once ih =>
      have mild := once.not_fatal rfl
      obtain ⟨depth, once⟩ := ih
      refine ⟨depth, fun deeper enough => ?_⟩
      rw [Form.matchWith_manyOf, once deeper enough]
      simp only [mild]
      rfl
  | manyOf_still _ still once =>
      obtain ⟨depth, once⟩ := once
      refine ⟨depth, fun deeper enough => ?_⟩
      rw [Form.matchWith_manyOf, once deeper enough]
      simp only [still, if_false]
  | manyOf_last _ moved again once ih =>
      have mild := again.not_fatal rfl
      obtain ⟨depth, once⟩ := once
      obtain ⟨other, again⟩ := ih
      refine ⟨max depth other, fun deeper enough => ?_⟩
      rw [Form.matchWith_manyOf, once deeper (by omega)]
      simp only [moved, if_true, again deeper (by omega), mild]
      rfl
  | manyOf_more _ moved _ once again =>
      obtain ⟨depth, once⟩ := once
      obtain ⟨other, again⟩ := again
      refine ⟨max depth other, fun deeper enough => ?_⟩
      rw [Form.matchWith_manyOf, once deeper (by omega)]
      simp only [moved, if_true, again deeper (by omega)]
  | optional_some _ inside =>
      obtain ⟨depth, inside⟩ := inside
      refine ⟨depth, fun deeper enough => ?_⟩
      rw [Form.matchWith, inside deeper enough]
  | optional_none inside ih =>
      have mild := inside.not_fatal rfl
      obtain ⟨depth, inside⟩ := ih
      refine ⟨depth, fun deeper enough => ?_⟩
      rw [Form.matchWith, inside deeper enough]
      simp only [mild]
      rfl
  | undefined missing =>
      refine ⟨1, fun deeper enough => ?_⟩
      obtain ⟨depth, rfl⟩ := Nat.exists_eq_add_of_le' enough
      rw [Form.matchWith, unguardedRule, missing]
  | rule found _ inside =>
      obtain ⟨depth, inside⟩ := inside
      refine ⟨depth + 1, fun deeper enough => ?_⟩
      obtain ⟨more, rfl⟩ := Nat.exists_eq_add_of_le' enough
      rw [Form.matchWith, ← Nat.add_assoc, unguardedRule, found]
      simp only [inside (more + depth) (by omega)]
      rfl
  | rule_fails found _ inside =>
      obtain ⟨depth, inside⟩ := inside
      refine ⟨depth + 1, fun deeper enough => ?_⟩
      obtain ⟨more, rfl⟩ := Nat.exists_eq_add_of_le' enough
      rw [Form.matchWith, ← Nat.add_assoc, unguardedRule, found]
      simp only [inside (more + depth) (by omega)]
      rfl
  | except _ allowed inside =>
      obtain ⟨depth, inside⟩ := inside
      refine ⟨depth, fun deeper enough => ?_⟩
      rw [Form.matchWith, inside deeper enough]
      simp [allowed]
  | except_excluded _ excluded inside =>
      obtain ⟨depth, inside⟩ := inside
      refine ⟨depth, fun deeper enough => ?_⟩
      rw [Form.matchWith, inside deeper enough]
      simp [excluded]
  | except_fails _ inside =>
      obtain ⟨depth, inside⟩ := inside
      refine ⟨depth, fun deeper enough => ?_⟩
      rw [Form.matchWith, inside deeper enough]

/-- Rules whose evaluation needs more depth than this, at the offsets where they were entered and
from some cursor on. -/
def Unfinished (grammar : Grammar) (depth : Nat) (start : Cursor source)
    (active : List ActiveRule) : Prop :=
  ∀ entry ∈ active, ∀ later, start ≤ later → later.position.offset = entry.offset →
    ∃ error, grammar.unguardedRule depth entry.rule later = .error error ∧ error.reason.isFatal

theorem Unfinished.mono {depth deeper : Nat} {start later : Cursor source}
    {active : List ActiveRule} (unfinished : grammar.Unfinished deeper start active)
    (deep : depth ≤ deeper) (after : start ≤ later) : grammar.Unfinished depth later active := by
  intro entry member beyond next same
  have failed := unfinished entry member beyond (after.trans next) same
  exact (unguardedRule_cutShort deep entry.rule beyond).fatal_of_fatal failed

/-- A rule that comes up again at the cursor where it was entered needs the depth that it needs
there, so its evaluation is unfinished at any smaller one. -/
theorem Unfinished.cons {depth : Nat} {start : Cursor source} {active : List ActiveRule}
    {name : String} (unfinished : grammar.Unfinished depth start active)
    (needed : ∃ error, grammar.unguardedRule depth name start = .error error ∧
      error.reason.isFatal) :
    grammar.Unfinished depth start (⟨name, start.position.offset⟩ :: active) := by
  intro entry member later after same
  rcases List.mem_cons.mp member with rfl | member
  · obtain rfl := Cursor.eq_of_le_of_offset_eq after same
    exact needed
  · exact unfinished entry member later after same

theorem exists_needed_depth {depth : Nat} {name : String}
    (lasting : ∀ error, grammar.unguardedRule depth name cursor = .error error →
      ¬ error.reason.isFatal) :
    ∃ needed, needed < depth ∧
      (∃ error, grammar.unguardedRule needed name cursor = .error error ∧
        error.reason.isFatal) ∧
      grammar.unguardedRule (needed + 1) name cursor = grammar.unguardedRule depth name cursor := by
  induction depth with
  | zero => exact absurd rfl (lasting _ rfl)
  | succ depth ih =>
      by_cases early : ∀ error, grammar.unguardedRule depth name cursor = .error error →
          ¬ error.reason.isFatal
      · have same := (unguardedRule_cutShort_succ depth name cursor).eq_of_not_fatal early
        obtain ⟨needed, less, failed, found⟩ := ih early
        exact ⟨needed, Nat.lt_succ_of_lt less, failed, found.trans same⟩
      · simp only [not_forall, not_not] at early
        obtain ⟨error, failed, fatal⟩ := early
        exact ⟨depth, Nat.lt_succ_self depth, ⟨error, failed, fatal⟩, rfl⟩

/-- The record of the rules that are being matched makes no difference to a rule whose evaluation
ends, as long as those rules are unfinished. -/
theorem unguardedRule_cutShort_matchRule (unlimited : grammar.depthLimit = none) {depth : Nat}
    {active : List ActiveRule} {name : String}
    (unfinished : grammar.Unfinished depth cursor active) :
    CutShort (grammar.unguardedRule depth name cursor) (grammar.matchRule active name cursor) := by
  -- The body is compared at the least depth that the rule needs. Less than this is not enough for
  -- the rule itself, so it joins the unfinished ones there, and it cannot be one of them already.
  induction depth using Nat.strong_induction_on generalizing active name cursor with | _ depth ih
  by_cases lasting : ∀ error, grammar.unguardedRule depth name cursor = .error error →
      ¬ error.reason.isFatal
  · obtain ⟨needed, less, failed, same⟩ := exists_needed_depth lasting
    have fresh : ⟨name, cursor.position.offset⟩ ∉ active := by
      intro taken
      obtain ⟨error, again, fatal⟩ := unfinished _ taken cursor le_rfl rfl
      exact lasting error again fatal
    have room : grammar.HasRoom active := by
      intro limit limited
      rw [unlimited] at limited
      cases limited
    rw [← same, unguardedRule]
    cases found : grammar.form? name with
    | none =>
        rw [matchRule_undefined found]
        exact .refl _
    | some body =>
        rw [matchRule_entered found fresh room]
        refine (Form.matchWith_cutShort ?_ fun inner later after => ?_).within name
        · exact fun _ _ _ _ matched => le_of_unguardedRule matched
        · have entered := (unfinished.mono (Nat.le_of_lt less) le_rfl).cons failed
          exact ih needed less (entered.mono (Nat.le_refl needed) after)
  · simp only [not_forall, not_not] at lasting
    obtain ⟨error, failed, fatal⟩ := lasting
    exact .inr ⟨error, failed, fatal⟩

/-- An evaluation has the outcome of the match. -/
theorem Evaluates.matchAt_eq (unlimited : grammar.depthLimit = none)
    (evaluated : grammar.Evaluates form cursor outcome) :
    grammar.matchAt form cursor = outcome := by
  obtain ⟨depth, reached⟩ := evaluated.exists_depth
  have same := reached depth (Nat.le_refl depth)
  have short : CutShort (form.matchWith (grammar.unguardedRule depth) cursor)
      (grammar.matchAt form cursor) := by
    refine Form.matchWith_cutShort ?_ fun name later _ => ?_
    · exact fun _ _ _ _ matched => le_of_unguardedRule matched
    · refine unguardedRule_cutShort_matchRule unlimited ?_
      exact fun entry member => absurd member List.not_mem_nil
  rw [← short.eq_of_not_fatal, same]
  intro error failed
  exact evaluated.not_fatal (same.symm.trans failed)

/-- Whether in the course of a goal, be it in an alternative that is given up, a rule is entered
again at the offset where it is being matched. -/
def DetectsCycle (grammar : Grammar) (goal : Goal source) : Prop :=
  ∃ origin chain, grammar.Reaches goal origin ∧ grammar.Raises origin (.circular chain)

theorem DetectsCycle.of_calls {outer inner : Goal source} (call : grammar.Calls outer inner)
    (detected : grammar.DetectsCycle inner) : grammar.DetectsCycle outer := by
  obtain ⟨origin, chain, reached, raised⟩ := detected
  exact ⟨origin, chain, .head call reached, raised⟩

theorem not_isFatal_of_unlimited (unlimited : grammar.depthLimit = none) (goal : Goal source)
    {error : MatchError (Form Pattern)}
    (failed : goal.form.matchWith (grammar.matchRule goal.active) goal.cursor = .error error) :
    ¬ error.reason.isFatal := by
  intro fatal
  obtain ⟨origin, _, raised, _⟩ := exists_raises_of_error goal failed
  generalize error.reason = reason at raised fatal
  cases raised with
  | depthLimit found fresh limited full =>
      rw [unlimited] at limited
      cases limited
  | _ => cases fatal

/-- A course without a cycle is an evaluation. -/
theorem evaluates_of_not_detectsCycle (unlimited : grammar.depthLimit = none)
    (goal : Goal source) (undetected : ¬ grammar.DetectsCycle goal) :
    grammar.Evaluates goal.form goal.cursor
      (goal.form.matchWith (grammar.matchRule goal.active) goal.cursor) := by
  induction goal using (grammar.calls_wellFounded source).induction with | _ goal ih
  have called {inner : Goal source} (call : grammar.Calls goal inner) :
      grammar.Evaluates inner.form inner.cursor
        (inner.form.matchWith (grammar.matchRule inner.active) inner.cursor) :=
    ih inner call fun detected => undetected (.of_calls call detected)
  obtain ⟨active, form, cursor⟩ := goal
  have mild (form : Form Pattern) (place : Cursor source) {error : MatchError (Form Pattern)}
      (failed : form.matchWith (grammar.matchRule active) place = .error error) :
      ¬ error.reason.isFatal := not_isFatal_of_unlimited unlimited ⟨active, form, place⟩ failed
  dsimp only
  cases form with
  | literal text =>
      rw [Form.matchWith]
      split
      · rename_i present
        exact .literal (List.isPrefixOf_iff_prefix.mp present)
      · rename_i absent
        exact .literal_fails fun present => absent (List.isPrefixOf_iff_prefix.mpr present)
  | leaf pattern =>
      rw [Form.matchWith]
      split
      · rename_i found
        exact .pattern found
      · rename_i absent
        exact .pattern_fails absent
  | sequence forms =>
      cases forms with
      | nil =>
          rw [Form.matchWith_sequence_nil]
          exact .sequence_nil
      | cons form rest =>
          have first := called .sequence_first
          rw [Form.matchWith_sequence_cons]
          split
          · rename_i head
            exact .sequence_first_fails (head ▸ first)
          · rename_i head
            have following := called (.sequence_others head)
            split
            · rename_i tail
              exact .sequence_others_fail (head ▸ first) (tail ▸ following)
            · rename_i tail
              exact .sequence_cons (head ▸ first) (tail ▸ following)
  | oneOf forms =>
      cases forms with
      | nil =>
          rw [Form.matchWith_oneOf_nil]
          exact .oneOf_nil
      | cons form rest =>
          have first := called .oneOf_first
          rw [Form.matchWith_oneOf_cons]
          split
          · rename_i head
            exact .oneOf_first (head ▸ first)
          · rename_i head
            have others := called (.oneOf_others head (mild _ _ head))
            rw [if_neg (mild _ _ head)]
            split
            · rename_i tail
              exact .oneOf_other (head ▸ first) (tail ▸ others)
            · rename_i tail
              rw [if_neg (mild _ _ tail)]
              exact .oneOf_fails (head ▸ first) (tail ▸ others)
  | manyOf form =>
      have once := called .manyOf_once
      rw [Form.matchWith_manyOf]
      split
      · rename_i head
        rw [if_neg (mild _ _ head)]
        exact .manyOf_fails (head ▸ once)
      · rename_i head
        split
        · rename_i moved
          have again := called (.manyOf_again head moved)
          split
          · rename_i tail
            rw [if_neg (mild _ _ tail)]
            exact .manyOf_last (head ▸ once) moved (tail ▸ again)
          · rename_i tail
            exact .manyOf_more (head ▸ once) moved (tail ▸ again)
        · rename_i still
          exact .manyOf_still (head ▸ once) still
  | optional form =>
      have inside := called .optional
      rw [Form.matchWith]
      split
      · rename_i head
        exact .optional_some (head ▸ inside)
      · rename_i head
        rw [if_neg (mild _ _ head)]
        exact .optional_none (head ▸ inside)
  | reference name =>
      rw [Form.matchWith]
      rcases grammar.matchRule_cases active name cursor with missing | ⟨body, found, taken⟩ |
        ⟨body, limit, found, fresh, limited, full⟩ | ⟨body, found, fresh, room⟩
      · rw [matchRule_undefined missing]
        exact .undefined missing
      · exact absurd ⟨_, _, .refl, .circular found taken⟩ undetected
      · rw [unlimited] at limited
        cases limited
      · have inside := called (.reference found fresh room)
        rw [matchRule_entered found fresh room]
        dsimp only at inside
        cases outcome : body.matchWith
            (grammar.matchRule (⟨name, cursor.position.offset⟩ :: active)) cursor with
        | error error => exact .rule_fails found (outcome ▸ inside)
        | ok matched => exact .rule found (outcome ▸ inside)
  | except form exclusions =>
      have inside := called .except
      rw [Form.matchWith]
      split
      · rename_i head
        exact .except_fails (head ▸ inside)
      · rename_i head
        split
        · rename_i excluded
          exact .except_excluded (head ▸ inside) (List.contains_iff_mem.mp excluded)
        · rename_i allowed
          exact .except (head ▸ inside) fun excluded =>
            allowed (List.contains_iff_mem.mpr excluded)

/-- The record of the rules that are being matched does not show. What a form evaluates to is what
it matches, and a match in whose course no cycle is detected is an evaluation. -/
theorem cycle_guard_transparent (grammar : Grammar) (unlimited : grammar.depthLimit = none)
    (form : Form Pattern) (source : String) (cursor : Cursor source.toList) :
    (∀ outcome, grammar.Evaluates form cursor outcome →
      grammar.matchForm form source cursor.position = outcome.report) ∧
    (¬ grammar.DetectsCycle ⟨[], form, cursor⟩ → ∃ outcome,
      grammar.Evaluates form cursor outcome ∧
        grammar.matchForm form source cursor.position = outcome.report) := by
  constructor
  · intro outcome evaluated
    rw [matchForm_position, evaluated.matchAt_eq unlimited]
  · intro undetected
    have evaluated := evaluates_of_not_detectsCycle unlimited ⟨[], form, cursor⟩ undetected
    exact ⟨grammar.matchAt form cursor, evaluated, grammar.matchForm_position form source cursor⟩

def letters : Grammar :=
  ⟨[⟨"Root", .oneOf [.sequence [.literal "a", .reference "Root"], .literal ""]⟩], "Root", none⟩

theorem cycle_guard_transparent_letters :
    letters.depthLimit = none ∧
      letters.matchForm (.reference "Root") "a" .start =
        .ok (.rule ⟨0, 0, 0⟩ ⟨1, 0, 1⟩ "Root"
          (.sequence ⟨0, 0, 0⟩ ⟨1, 0, 1⟩ [.text ⟨0, 0, 0⟩ ⟨1, 0, 1⟩ "a",
            .rule ⟨1, 0, 1⟩ ⟨1, 0, 1⟩ "Root" (.text ⟨1, 0, 1⟩ ⟨1, 0, 1⟩ "")])) := by
  refine ⟨rfl, ?_⟩
  refine (cycle_guard_transparent letters rfl (.reference "Root") "a" (.atStart _)).1 _
    (.rule rfl (.oneOf_first (.sequence_cons (.literal ?_) (.sequence_cons (.rule rfl
      (.oneOf_other (.sequence_first_fails (.literal_fails ?_)) (.oneOf_first (.literal ?_))))
        .sequence_nil))))
  · decide
  · decide
  · decide

end TextGrammar.Grammar
