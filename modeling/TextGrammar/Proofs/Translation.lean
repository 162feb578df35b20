import TextGrammar.Proofs.Correspondence
import TextGrammar.Proofs.LeftRecursion

/-! Matching is invariant under translation. What is matched behind a text is what is matched
without that text, with all positions counted from where it ends. So nothing in front of a cursor
has an influence on a match. -/

namespace TextGrammar

namespace MatchTree

mutual

def shift (origin : Position) : MatchTree → MatchTree
  | .text start stop content => .text (origin.shift start) (origin.shift stop) content
  | .empty start stop => .empty (origin.shift start) (origin.shift stop)
  | .sequence start stop children =>
    .sequence (origin.shift start) (origin.shift stop) (shiftAll origin children)
  | .repetition start stop children =>
    .repetition (origin.shift start) (origin.shift stop) (shiftAll origin children)
  | .rule start stop name body =>
    .rule (origin.shift start) (origin.shift stop) name (body.shift origin)

def shiftAll (origin : Position) : List MatchTree → List MatchTree
  | [] => []
  | child :: rest => child.shift origin :: shiftAll origin rest

end

theorem eq_shiftAll {origin : Position} {children images : List MatchTree}
    (each : List.Forall₂ (fun child image => image = child.shift origin) children images) :
    images = shiftAll origin children := by
  induction each with
  | nil => rfl
  | cons first _ ih => rw [shiftAll, first, ih]

end MatchTree

/-- Forms are their own images, and matches are images of those that are counted from the start. -/
def translation (origin : Position) : Correspondence where
  origin := origin
  form := id
  tree tree image := image = tree.shift origin

theorem translation_lawful (origin : Position) : (translation origin).Lawful where
  literal _ := rfl
  leaf _ := rfl
  sequence forms := by
    refine .inl ⟨by simp [translation], ?_⟩
    intro start stop trees images each
    change _ = MatchTree.sequence _ _ _
    rw [MatchTree.eq_shiftAll each]
    rfl
  oneOf _ := by simp [translation]
  manyOf _ := rfl
  optional _ := rfl
  reference _ := rfl
  except _ _ := rfl
  text _ _ _ := rfl
  empty _ _ := rfl
  repetition start stop trees images each := by
    change _ = MatchTree.repetition _ _ _
    rw [MatchTree.eq_shiftAll each]
    rfl
  rule start stop name body image same := by
    change _ = MatchTree.rule _ _ _ _
    rw [same]
    rfl

theorem report_of_answers {source other : List Char} {origin : Position} {first : Outcome source}
    {second : Outcome other} (answers : (translation origin).Answers (translation origin).tree
      first second) :
    second.report = (first.report.map (·.shift origin)).mapError (·.shift origin) := by
  cases answers with
  | failed error =>
      rcases error with ⟨rule, reason, position⟩
      cases reason <;> rfl
  | matched same moved => exact congrArg Except.ok same

namespace Grammar

theorem between_translation (grammar : Grammar) (origin : Position) :
    (translation origin).Between grammar grammar where
  forms name := by simp [translation]
  limits := rfl

/-- A form matches at a position as it matches at the start of what is left of the source there,
with all positions in the match or in the failure counted from that position. -/
theorem matching_is_translation_invariant (grammar : Grammar) (form : Form Pattern)
    {source : String} {position : Position} {before rest : List Char}
    (boundary : Text.splitAt? position.offset source.toList = some (before, rest)) :
    grammar.matchForm form source position =
      ((grammar.matchForm form (String.ofList rest) .start).map (·.shift position)).mapError
        (·.shift position) := by
  have located := Text.splitAt?_eq_some_iff.mp boundary
  let cursor : Cursor source.toList := ⟨position, rest, before, located⟩
  let first : Cursor (String.ofList rest).toList := .atStart _
  have shifted : first.Shifted position cursor :=
    ⟨(position.shift_start).symm, String.toList_ofList.symm⟩
  have answers := (grammar.between_translation position).matchAt_answers
    (translation_lawful position) form shifted
  calc
    grammar.matchForm form source position = (grammar.matchAt form cursor).report :=
      grammar.matchForm_position form source cursor
    _ = ((grammar.matchAt form first).report.map (·.shift position)).mapError
        (·.shift position) := report_of_answers answers
    _ = _ := by rw [← grammar.matchForm_position form _ first]; rfl

theorem matching_is_translation_invariant_second_line :
    Text.splitAt? 3 "é\nx!\ny".toList = some ("é\n".toList, "x!\ny".toList) ∧
      lists.matchForm (.sequence [.literal "x!", .literal "\ny"]) "é\nx!\ny" ⟨3, 1, 4⟩ =
        .ok (.sequence ⟨3, 1, 4⟩ ⟨7, 2, 1⟩
          [.text ⟨3, 1, 4⟩ ⟨5, 1, 6⟩ "x!", .text ⟨5, 1, 6⟩ ⟨7, 2, 1⟩ "\ny"]) ∧
      lists.matchForm (.reference "Root") "é\nx!\ny" ⟨3, 1, 4⟩ =
        .error ⟨some "List", .circular [⟨"Root", 3⟩, ⟨"List", 5⟩], ⟨5, 1, 6⟩⟩ := by
  have boundary : Text.splitAt? (⟨3, 1, 4⟩ : Position).offset "é\nx!\ny".toList =
      some ("é\n".toList, "x!\ny".toList) := by decide
  refine ⟨boundary, ?_, ?_⟩
  · rw [matching_is_translation_invariant lists _ boundary]
    with_unfolding_all rfl
  · rw [matching_is_translation_invariant lists _ boundary]
    with_unfolding_all rfl

end Grammar

end TextGrammar
