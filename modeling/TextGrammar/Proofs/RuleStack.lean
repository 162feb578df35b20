import TextGrammar.Proofs.Calls

/-! Matching with a stack. One stack of the rules that are being matched is used for the whole
match: a rule is put on it when it is entered and taken off when it is left, whether its form
matched or not, and whatever comes next is matched with the stack that is left behind. The outcome
is that of matching where each form is given the rules around it, and the stack is then what it was
before. -/

namespace TextGrammar

variable {source : List Char}

/-- A computation with a stack of rules, innermost first. It has no result if it is given up. -/
abbrev Stacked (α : Type) := StateT (List ActiveRule) Option α

namespace Form

def repeatAttempt (step : Cursor source → Stacked (Outcome source)) (cursor : Cursor source) :
    Stacked (Outcomes source) := do
  match ← step cursor with
  | .error error => if error.reason.isFatal then return .error error else return .ok ([], cursor)
  | .ok (tree, behind) =>
    if cursor.position.offset < behind.position.offset then
      match ← repeatAttempt step behind with
      | .error error => return .error error
      | .ok (trees, last) => return .ok (tree :: trees, last)
    else return .ok ([tree], behind)
termination_by Text.byteLength source - cursor.position.offset
decreasing_by
  have := behind.offset_le
  omega

mutual

def attemptWith (resolve : String → Cursor source → Stacked (Outcome source)) :
    Form Pattern → Cursor source → Stacked (Outcome source)
  | .literal text, cursor =>
    if text.toList.isPrefixOf cursor.rest then return .ok (takeText cursor text.toList.length)
    else return .error (expected (.literal text) cursor)
  | .leaf pattern, cursor =>
    match pattern.match? cursor.rest with
    | some taken => return .ok (takeText cursor taken.length)
    | none => return .error (expected (.leaf pattern) cursor)
  | .sequence forms, cursor => do
    match ← attemptAll resolve forms cursor with
    | .error error => return .error error
    | .ok (trees, behind) => return .ok (.sequence cursor.position behind.position trees, behind)
  | .oneOf forms, cursor => do
    match ← attemptFirst resolve forms cursor with
    | some outcome => return outcome
    | none => return .error (expected (.oneOf forms) cursor)
  | .manyOf form, cursor => do
    match ← repeatAttempt (form.attemptWith resolve) cursor with
    | .error error => return .error error
    | .ok ([], _) => return .error (expected (.manyOf form) cursor)
    | .ok (trees, behind) => return .ok (.repetition cursor.position behind.position trees, behind)
  | .optional form, cursor => do
    match ← form.attemptWith resolve cursor with
    | .ok matched => return .ok matched
    | .error error =>
      if error.reason.isFatal then return .error error
      else return .ok (.empty cursor.position cursor.position, cursor)
  | .reference name, cursor => do
    match ← resolve name cursor with
    | .error error => return .error error
    | .ok (body, behind) => return .ok (.rule cursor.position behind.position name body, behind)
  | .except form exclusions, cursor => do
    match ← form.attemptWith resolve cursor with
    | .error error => return .error error
    | .ok (tree, behind) =>
      if exclusions.contains (String.ofList (cursor.textTo behind)) then
        return .error (expected (.except form exclusions) cursor)
      else return .ok (tree, behind)

def attemptAll (resolve : String → Cursor source → Stacked (Outcome source)) :
    List (Form Pattern) → Cursor source → Stacked (Outcomes source)
  | [], cursor => return .ok ([], cursor)
  | form :: rest, cursor => do
    match ← form.attemptWith resolve cursor with
    | .error error => return .error error
    | .ok (tree, behind) =>
      match ← attemptAll resolve rest behind with
      | .error error => return .error error
      | .ok (trees, last) => return .ok (tree :: trees, last)

def attemptFirst (resolve : String → Cursor source → Stacked (Outcome source)) :
    List (Form Pattern) → Cursor source → Stacked (Option (Outcome source))
  | [], _ => return none
  | form :: rest, cursor => do
    match ← form.attemptWith resolve cursor with
    | .ok matched => return some (.ok matched)
    | .error error =>
      if error.reason.isFatal then return some (.error error)
      else attemptFirst resolve rest cursor

end

end Form

namespace Grammar

def enter (grammar : Grammar) (name : String) (cursor : Cursor source) :
    Stacked (Option (MatchError (Form Pattern))) := do
  let active ← get
  if ⟨name, cursor.position.offset⟩ ∈ active then
    return some ⟨none, .circular active.reverse, cursor.position⟩
  else
    match grammar.depthLimit.filter (· ≤ active.length) with
    | some limit => return some ⟨none, .depthLimit limit, cursor.position⟩
    | none =>
      set (⟨name, cursor.position.offset⟩ :: active)
      return none

def leave : Stacked Unit := modify List.tail

/-- Matches the form of a rule, with the rule on the stack for the while. It is given up where rules
nest deeper than so many. -/
def attemptRule (grammar : Grammar) : Nat → String → Cursor source → Stacked (Outcome source)
  | 0, _, _ => failure
  | depth + 1, name, cursor =>
    match grammar.form? name with
    | none => return .error ⟨none, .undefinedRule name, cursor.position⟩
    | some form => do
      match ← grammar.enter name cursor with
      | some error => return .error error
      | none =>
        let outcome ← form.attemptWith (grammar.attemptRule depth) cursor
        leave
        return outcome.mapError (·.within name)

def attempt (grammar : Grammar) (form : Form Pattern) (cursor : Cursor source) :
    Stacked (Outcome source) :=
  -- No rule is twice on the stack at one place, so the stack is never longer than this.
  let depth := (grammar.vacant (Text.byteLength source) []).length + 1
  form.attemptWith (grammar.attemptRule depth) cursor

end Grammar

def Yields {α : Type} (step : Stacked α) (stack : List ActiveRule) (value : α) : Prop :=
  step.run stack = some (value, stack)

section

variable {α β : Type} {stack left : List ActiveRule} {value : α} {result : β} {step : Stacked α}
  {next : α → Stacked β}

theorem yields_pure (stack : List ActiveRule) (value : α) : Yields (pure value) stack value := rfl

theorem Yields.ite {other : Stacked α} {otherwise : α} {choice : Prop} [Decidable choice]
    (first : Yields step stack value) (second : Yields other stack otherwise) :
    Yields (if choice then step else other) stack (if choice then value else otherwise) := by
  by_cases holds : choice
  · rw [if_pos holds, if_pos holds]
    exact first
  · rw [if_neg holds, if_neg holds]
    exact second

theorem run_bind_of_run (ended : step.run stack = some (value, left)) :
    (step >>= next).run stack = (next value).run left := by
  rw [StateT.run_bind, ended]
  rfl

theorem Yields.bind (first : Yields step stack value) (second : Yields (next value) stack result) :
    Yields (step >>= next) stack result :=
  (run_bind_of_run first).trans second

end

variable {stack : List ActiveRule}

namespace Form

def ResolvesAs (stacked : String → Cursor source → Stacked (Outcome source))
    (stack : List ActiveRule) (resolve : String → Cursor source → Outcome source) : Prop :=
  ∀ name cursor, Yields (stacked name cursor) stack (resolve name cursor)

variable {stacked : String → Cursor source → Stacked (Outcome source)}
  {resolve : String → Cursor source → Outcome source}

theorem repeatAttempt_yields {form : Form Pattern}
    (each : ∀ cursor : Cursor source,
      Yields (form.attemptWith stacked cursor) stack (form.matchWith resolve cursor))
    (cursor : Cursor source) :
    Yields (repeatAttempt (form.attemptWith stacked) cursor) stack
      (repeatMatch (form.matchWith resolve) cursor) := by
  rw [repeatAttempt, repeatMatch]
  apply (each cursor).bind
  rcases form.matchWith resolve cursor with error | ⟨tree, behind⟩
  · exact .ite (yields_pure stack _) (yields_pure stack _)
  · by_cases moved : cursor.position.offset < behind.position.offset
    · simp only [moved, if_true]
      apply (repeatAttempt_yields each behind).bind
      rcases repeatMatch (form.matchWith resolve) behind with error | ⟨trees, last⟩
      · exact yields_pure stack _
      · exact yields_pure stack _
    · simp only [moved, if_false]
      exact yields_pure stack _
termination_by Text.byteLength source - cursor.position.offset
decreasing_by
  have := behind.offset_le
  omega

mutual

theorem attemptWith_yields (rules : ResolvesAs stacked stack resolve) :
    ∀ (form : Form Pattern) (cursor : Cursor source),
      Yields (form.attemptWith stacked cursor) stack (form.matchWith resolve cursor)
  | .literal text, cursor => by
      rw [attemptWith, matchWith]
      exact .ite (yields_pure stack _) (yields_pure stack _)
  | .leaf pattern, cursor => by
      rw [attemptWith, matchWith]
      cases pattern.match? cursor.rest with
      | none => exact yields_pure stack _
      | some taken => exact yields_pure stack _
  | .sequence forms, cursor => by
      have parts := attemptAll_yields rules forms cursor
      rw [attemptWith, matchWith]
      apply parts.bind
      rcases matchAll resolve forms cursor with error | ⟨trees, behind⟩
      · exact yields_pure stack _
      · exact yields_pure stack _
  | .oneOf forms, cursor => by
      have first := attemptFirst_yields rules forms cursor
      rw [attemptWith, matchWith]
      apply first.bind
      cases matchFirst resolve forms cursor with
      | none => exact yields_pure stack _
      | some outcome => exact yields_pure stack _
  | .manyOf form, cursor => by
      have rounds := repeatAttempt_yields (attemptWith_yields rules form) cursor
      rw [attemptWith, matchWith]
      apply rounds.bind
      rcases repeatMatch (form.matchWith resolve) cursor with error | ⟨_ | _, behind⟩
      · exact yields_pure stack _
      · exact yields_pure stack _
      · exact yields_pure stack _
  | .optional form, cursor => by
      have inside := attemptWith_yields rules form cursor
      rw [attemptWith, matchWith]
      apply inside.bind
      cases form.matchWith resolve cursor with
      | ok matched => exact yields_pure stack _
      | error error => exact .ite (yields_pure stack _) (yields_pure stack _)
  | .reference name, cursor => by
      have inside := rules name cursor
      rw [attemptWith, matchWith]
      apply inside.bind
      rcases resolve name cursor with error | ⟨body, behind⟩
      · exact yields_pure stack _
      · exact yields_pure stack _
  | .except form exclusions, cursor => by
      have inside := attemptWith_yields rules form cursor
      rw [attemptWith, matchWith]
      apply inside.bind
      rcases form.matchWith resolve cursor with error | ⟨tree, behind⟩
      · exact yields_pure stack _
      · exact .ite (yields_pure stack _) (yields_pure stack _)

theorem attemptAll_yields (rules : ResolvesAs stacked stack resolve) :
    ∀ (forms : List (Form Pattern)) (cursor : Cursor source),
      Yields (attemptAll stacked forms cursor) stack (matchAll resolve forms cursor)
  | [], cursor => by
      rw [attemptAll, matchAll]
      exact yields_pure stack _
  | form :: rest, cursor => by
      have first := attemptWith_yields rules form cursor
      rw [attemptAll, matchAll]
      apply first.bind
      rcases form.matchWith resolve cursor with error | ⟨tree, behind⟩
      · exact yields_pure stack _
      · apply (attemptAll_yields rules rest behind).bind
        dsimp only
        rcases matchAll resolve rest behind with error | ⟨trees, last⟩
        · exact yields_pure stack _
        · exact yields_pure stack _

theorem attemptFirst_yields (rules : ResolvesAs stacked stack resolve) :
    ∀ (forms : List (Form Pattern)) (cursor : Cursor source),
      Yields (attemptFirst stacked forms cursor) stack (matchFirst resolve forms cursor)
  | [], cursor => by
      rw [attemptFirst, matchFirst]
      exact yields_pure stack _
  | form :: rest, cursor => by
      have first := attemptWith_yields rules form cursor
      rw [attemptFirst, matchFirst]
      apply first.bind
      cases form.matchWith resolve cursor with
      | ok matched => exact yields_pure stack _
      | error error => exact .ite (yields_pure stack _) (attemptFirst_yields rules rest cursor)

end

end Form

namespace Grammar

variable {grammar : Grammar} {name : String} {cursor : Cursor source}

theorem enter_of_mem (taken : ⟨name, cursor.position.offset⟩ ∈ stack) :
    Yields (grammar.enter name cursor) stack
      (some ⟨none, .circular stack.reverse, cursor.position⟩) := by
  rw [Yields, enter, run_bind_of_run (StateT.run_get stack), if_pos taken]
  rfl

theorem enter_of_full {limit : Nat} (fresh : ⟨name, cursor.position.offset⟩ ∉ stack)
    (full : grammar.depthLimit.filter (· ≤ stack.length) = some limit) :
    Yields (grammar.enter name cursor) stack
      (some ⟨none, .depthLimit limit, cursor.position⟩) := by
  rw [Yields, enter, run_bind_of_run (StateT.run_get stack), if_neg fresh, full]
  rfl

theorem run_enter (fresh : ⟨name, cursor.position.offset⟩ ∉ stack)
    (room : grammar.depthLimit.filter (· ≤ stack.length) = none) :
    (grammar.enter name cursor).run stack =
      some (none, ⟨name, cursor.position.offset⟩ :: stack) := by
  rw [enter, run_bind_of_run (StateT.run_get stack), if_neg fresh, room]
  rfl

theorem length_vacant_le (grammar : Grammar) (bytes : Nat) (active : List ActiveRule) :
    (grammar.vacant bytes active).length ≤ (grammar.vacant bytes []).length := by
  have narrower : grammar.vacant bytes active =
      (grammar.vacant bytes []).filter fun entry => !active.contains entry := by
    simp [vacant]
  rw [narrower]
  exact List.length_filter_le _ _

/-- A rule that was entered is taken off the stack again, since its form leaves the stack as it was
with the rule on top of it. Rules nest no deeper than there are pairs left to enter. -/
theorem attemptRule_yields {depth : Nat}
    (enough : (grammar.vacant (Text.byteLength source) stack).length < depth) (name : String)
    (cursor : Cursor source) :
    Yields (grammar.attemptRule depth name cursor) stack (grammar.matchRule stack name cursor) := by
  obtain ⟨below, rfl⟩ := Nat.exists_eq_add_one_of_ne_zero (Nat.ne_zero_of_lt enough)
  fun_induction grammar.matchRule stack name cursor generalizing below with
  | case1 stack name cursor missing =>
      rw [attemptRule, missing]
      exact yields_pure stack _
  | case2 stack name cursor _ body found taken =>
      rw [attemptRule, found]
      exact (enter_of_mem taken).bind (yields_pure stack _)
  | case3 stack name cursor _ body found fresh limit full =>
      rw [attemptRule, found]
      exact (enter_of_full fresh full).bind (yields_pure stack _)
  | case4 stack name cursor entry body found fresh room ih =>
      have fewer := length_vacant_cons_lt (mem_ruleNames_of_form? found) cursor.offset_le fresh
      obtain ⟨further, rfl⟩ := Nat.exists_eq_add_one_of_ne_zero (show below ≠ 0 by omega)
      have inside := Form.attemptWith_yields
        (fun inner later => ih inner later further (by omega)) body cursor
      rw [attemptRule, found, Yields]
      dsimp only
      rw [run_bind_of_run (run_enter fresh room)]
      dsimp only
      rw [run_bind_of_run inside]
      rfl

/-- Matching with the stack is never given up. It has the outcome of the form where the rules on the
stack are being matched, and leaves the stack as it was. -/
theorem run_attempt (grammar : Grammar) (form : Form Pattern) (cursor : Cursor source)
    (stack : List ActiveRule) :
    (grammar.attempt form cursor).run stack =
      some (form.matchWith (grammar.matchRule stack) cursor, stack) := by
  have enough := grammar.length_vacant_le (Text.byteLength source) stack
  exact Form.attemptWith_yields
    (fun name later => attemptRule_yields (Nat.lt_succ_of_le enough) name later) form cursor

end Grammar

end TextGrammar
