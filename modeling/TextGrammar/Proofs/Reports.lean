import TextGrammar.Proofs.Calls

/-! What is reported of a match: its tree, or its failure with the form that was expected written
out. The outcome at a cursor says all of it, and so does that of the root for a parse. -/

namespace TextGrammar

section

variable {ε δ : Type} {f : ε → δ} {reason : Reason ε}

@[simp] theorem Reason.map_eq_expected_iff {text : δ} :
    reason.map f = .expected text ↔ ∃ what, reason = .expected what ∧ f what = text := by
  cases reason <;> simp [map]

@[simp] theorem Reason.map_eq_circular_iff {chain : List ActiveRule} :
    reason.map f = .circular chain ↔ reason = .circular chain := by
  cases reason <;> simp [map]

@[simp] theorem Reason.map_eq_trailing_iff {rule : String} :
    reason.map f = .trailing rule ↔ reason = .trailing rule := by
  cases reason <;> simp [map]

@[simp] theorem Reason.map_eq_depthLimit_iff {limit : Nat} :
    reason.map f = .depthLimit limit ↔ reason = .depthLimit limit := by
  cases reason <;> simp [map]

@[simp] theorem Reason.map_eq_undefinedRule_iff {name : String} :
    reason.map f = .undefinedRule name ↔ reason = .undefinedRule name := by
  cases reason <;> simp [map]

end

def MatchError.report (error : MatchError (Form Pattern)) : MatchError String :=
  error.map fun form => form.sources.rendering

@[simp] theorem MatchError.report_rule (error : MatchError (Form Pattern)) :
    error.report.rule = error.rule := rfl

@[simp] theorem MatchError.report_position (error : MatchError (Form Pattern)) :
    error.report.position = error.position := rfl

def Outcome.report {source : List Char} (outcome : Outcome source) :
    Except (MatchError String) MatchTree :=
  match outcome with
  | .error error => .error error.report
  | .ok (tree, _) => .ok tree

theorem MatchError.isFatal_of_report {error : MatchError (Form Pattern)} {limit : Nat}
    (reason : error.report.reason = .depthLimit limit) : error.reason.isFatal := by
  obtain ⟨rule, original, position⟩ := error
  cases original with
  | depthLimit limit => rfl
  | _ => cases reason

theorem Outcome.error_of_report_eq_error {source : List Char} {outcome : Outcome source}
    {error : MatchError String} (reported : outcome.report = .error error) :
    ∃ original, outcome = .error original ∧ error = original.report := by
  cases outcome with
  | error original =>
      cases reported
      exact ⟨original, rfl, rfl⟩
  | ok matched => cases reported

namespace Grammar

theorem matchForm_position (grammar : Grammar) (form : Form Pattern) (source : String)
    (cursor : Cursor source.toList) :
    grammar.matchForm form source cursor.position = (grammar.matchAt form cursor).report := by
  rw [matchForm, matchChars, Cursor.at?_position]
  dsimp only
  cases grammar.matchAt form cursor with
  | error error => rfl
  | ok matched => rfl

theorem matchForm_of_at?_eq_none (grammar : Grammar) (form : Form Pattern) {source : String}
    {position : Position} (outside : Cursor.at? source.toList position = none) :
    grammar.matchForm form source position =
      .error ⟨none, .expected form.sources.rendering, position⟩ := by
  rw [matchForm, matchChars, outside]
  rfl

/-- A match that is reported was made at the cursor of its position. -/
theorem exists_cursor_of_matchForm {grammar : Grammar} {form : Form Pattern} {source : String}
    {position : Position} {tree : MatchTree}
    (matched : grammar.matchForm form source position = .ok tree) :
    ∃ cursor behind : Cursor source.toList, cursor.position = position ∧
      grammar.matchAt form cursor = .ok (tree, behind) := by
  cases found : Cursor.at? source.toList position with
  | none =>
      rw [matchForm_of_at?_eq_none _ _ found] at matched
      cases matched
  | some cursor =>
      have located := Cursor.eq_of_at?_eq_some found
      rw [← located, matchForm_position] at matched
      cases outcome : grammar.matchAt form cursor with
      | error error =>
          rw [outcome] at matched
          cases matched
      | ok pair =>
          rw [outcome] at matched
          cases matched
          exact ⟨cursor, pair.2, located, outcome⟩

/-- What becomes of a parse once the root has matched or failed. -/
def finish (root : String) {source : List Char} (outcome : Outcome source) :
    Except (MatchError String) Node :=
  match outcome with
  | .error error => .error error.report
  | .ok (body, behind) =>
    if behind.rest.isEmpty then .ok ⟨root, body.asValue, .start, behind.position⟩
    else .error ⟨some root, .trailing root, behind.position⟩

/-- The end of a match fails for source that is left over, and for nothing else of its own. -/
theorem error_of_finish_eq_error {root : String} {source : List Char} {outcome : Outcome source}
    {error : MatchError String} (failed : finish root outcome = .error error) :
    (∃ original, outcome = .error original ∧ error = original.report) ∨
      ∃ body behind, outcome = .ok (body, behind) ∧ behind.rest ≠ [] ∧
        error = ⟨some root, .trailing root, behind.position⟩ := by
  cases outcome with
  | error original =>
      cases failed
      exact .inl ⟨original, rfl, rfl⟩
  | ok matched =>
      rw [finish] at failed
      split at failed <;> cases failed
      rename_i left
      exact .inr ⟨_, _, rfl, fun none => left (List.isEmpty_iff.mpr none), rfl⟩

theorem error_of_finish_eq_depthLimit {root : String} {source : List Char}
    {outcome : Outcome source} {error : MatchError String} {limit : Nat}
    (failed : finish root outcome = .error error) (reason : error.reason = .depthLimit limit) :
    ∃ original, outcome = .error original ∧ error = original.report := by
  rcases error_of_finish_eq_error failed with inside | ⟨_, _, _, _, rfl⟩
  · exact inside
  · cases reason

theorem matchAt_reference_of_error {grammar : Grammar} {name : String} {source : List Char}
    {cursor : Cursor source} {error : MatchError (Form Pattern)}
    (failed : grammar.matchRule [] name cursor = .error error) :
    grammar.matchAt (.reference name) cursor = .error error := by
  rw [matchAt, Form.matchWith, failed]

theorem parse_eq_finish (grammar : Grammar) (source : String) :
    grammar.parse source =
      finish grammar.root (grammar.matchRule [] grammar.root (.atStart source.toList)) := by
  rw [parse, parseChars]
  cases grammar.matchRule [] grammar.root (.atStart source.toList) with
  | error error => rfl
  | ok matched =>
      obtain ⟨body, behind⟩ := matched
      by_cases done : behind.rest.isEmpty <;> simp [finish, done] <;> rfl

end Grammar

end TextGrammar
