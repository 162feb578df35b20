import Mathlib.Order.RelClasses
import TextGrammar.Matching.Basic
import TextGrammar.Proofs.CursorOrder

/-! Matching, clause by clause. A sequence matches its first form and then the sequence of the
others, a choice its first form or else the choice of the others, and a repetition its form and
then, where text was taken, the repetition again. -/

namespace TextGrammar

def MatchTree.children : MatchTree → List MatchTree
  | .sequence _ _ children => children
  | .repetition _ _ children => children
  | _ => []

namespace Form

variable {source : List Char} {resolve : String → Cursor source → Outcome source}

theorem matchWith_sequence_cons (form : Form Pattern) (rest : List (Form Pattern))
    (cursor : Cursor source) :
    (sequence (form :: rest)).matchWith resolve cursor =
      match form.matchWith resolve cursor with
      | .error error => .error error
      | .ok (tree, behind) =>
        match (sequence rest).matchWith resolve behind with
        | .error error => .error error
        | .ok (others, last) =>
          .ok (.sequence cursor.position last.position (tree :: others.children), last) := by
  rw [matchWith, matchAll]
  cases form.matchWith resolve cursor with
  | error error => rfl
  | ok matched =>
      obtain ⟨tree, behind⟩ := matched
      simp only [matchWith]
      cases matchAll resolve rest behind with
      | error error => rfl
      | ok others => rfl

theorem isFatal_of_matchFirst {forms : List (Form Pattern)} {cursor : Cursor source}
    {error : MatchError (Form Pattern)}
    (failed : matchFirst resolve forms cursor = some (.error error)) : error.reason.isFatal := by
  induction forms with
  | nil => cases failed
  | cons form rest ih =>
      rw [matchFirst] at failed
      split at failed
      · cases failed
      · split at failed
        · rename_i fatal
          cases failed
          exact fatal
        · exact ih failed

theorem matchWith_oneOf_cons (form : Form Pattern) (rest : List (Form Pattern))
    (cursor : Cursor source) :
    (oneOf (form :: rest)).matchWith resolve cursor =
      match form.matchWith resolve cursor with
      | .ok matched => .ok matched
      | .error first =>
        if first.reason.isFatal then .error first
        else
          match (oneOf rest).matchWith resolve cursor with
          | .ok matched => .ok matched
          | .error other =>
            if other.reason.isFatal then .error other
            else .error (expected (.oneOf (form :: rest)) cursor) := by
  rw [matchWith, matchFirst]
  cases form.matchWith resolve cursor with
  | ok matched => rfl
  | error first =>
      by_cases fatal : first.reason.isFatal
      · simp [fatal]
      · simp only [fatal, matchWith]
        cases others : matchFirst resolve rest cursor with
        | none => simp [expected, Reason.isFatal]
        | some outcome =>
            cases outcome with
            | ok matched => rfl
            | error other => simp [isFatal_of_matchFirst others]

theorem eq_of_repeatMatch_eq_nil {step : Cursor source → Outcome source}
    {cursor last : Cursor source} (none : repeatMatch step cursor = .ok ([], last)) :
    last = cursor := by
  rw [repeatMatch] at none
  split at none
  · split at none
    · cases none
    · cases none
      rfl
  · split at none
    · split at none <;> cases none
    · cases none

theorem isFatal_of_repeatMatch {step : Cursor source → Outcome source} {cursor : Cursor source}
    {error : MatchError (Form Pattern)} (failed : repeatMatch step cursor = .error error) :
    error.reason.isFatal := by
  fun_induction repeatMatch step cursor with
  | case1 cursor first _ fatal =>
      cases failed
      exact fatal
  | case2 => cases failed
  | case3 cursor tree behind _ _ later again ih =>
      cases failed
      exact ih again
  | case4 => cases failed
  | case5 => cases failed

theorem matchWith_manyOf (form : Form Pattern) (cursor : Cursor source) :
    (manyOf form).matchWith resolve cursor =
      match form.matchWith resolve cursor with
      | .error error =>
        if error.reason.isFatal then .error error else .error (expected (.manyOf form) cursor)
      | .ok (tree, behind) =>
        if cursor.position.offset < behind.position.offset then
          match (manyOf form).matchWith resolve behind with
          | .error error =>
            if error.reason.isFatal then .error error
            else .ok (.repetition cursor.position behind.position [tree], behind)
          | .ok (others, last) =>
            .ok (.repetition cursor.position last.position (tree :: others.children), last)
        else .ok (.repetition cursor.position behind.position [tree], behind) := by
  rw [matchWith, repeatMatch]
  cases form.matchWith resolve cursor with
  | error error => by_cases fatal : error.reason.isFatal <;> simp [fatal]
  | ok matched =>
      obtain ⟨tree, behind⟩ := matched
      by_cases moved : cursor.position.offset < behind.position.offset
      · simp only [moved, if_true, matchWith]
        cases again : repeatMatch (form.matchWith resolve) behind with
        | error error => simp [isFatal_of_repeatMatch again]
        | ok rounds =>
            obtain ⟨trees, last⟩ := rounds
            cases trees with
            | nil =>
                obtain rfl := eq_of_repeatMatch_eq_nil again
                simp [expected, Reason.isFatal]
            | cons first others => rfl
      · simp [moved]

/-- Induction over the forms and cursors that matching goes through, up to the next reference. A
form comes before those it is part of, and a repetition before the same one at an earlier cursor. -/
theorem match_induction {motive : Form Pattern → Cursor source → Prop}
    (literal : ∀ text cursor, motive (.literal text) cursor)
    (leaf : ∀ pattern cursor, motive (.leaf pattern) cursor)
    (sequence_nil : ∀ cursor, motive (.sequence []) cursor)
    (sequence_cons : ∀ form rest cursor, motive form cursor →
      (∀ behind, motive (.sequence rest) behind) → motive (.sequence (form :: rest)) cursor)
    (oneOf_nil : ∀ cursor, motive (.oneOf []) cursor)
    (oneOf_cons : ∀ form rest cursor, motive form cursor → motive (.oneOf rest) cursor →
      motive (.oneOf (form :: rest)) cursor)
    (manyOf : ∀ form cursor, motive form cursor →
      (∀ behind : Cursor source, cursor.position.offset < behind.position.offset →
        motive (.manyOf form) behind) → motive (.manyOf form) cursor)
    (optional : ∀ form cursor, motive form cursor → motive (.optional form) cursor)
    (reference : ∀ name cursor, motive (.reference name) cursor)
    (except : ∀ form exclusions cursor, motive form cursor →
      motive (.except form exclusions) cursor)
    (form : Form Pattern) (cursor : Cursor source) : motive form cursor := by
  have ordered : WellFounded (InvImage (Prod.Lex (· < ·) (· < ·))
      fun goal : Form Pattern × Cursor source =>
        (sizeOf goal.1, Text.byteLength source - goal.2.position.offset)) :=
    InvImage.wf _ (WellFounded.prod_lex Nat.lt_wfRel.wf Nat.lt_wfRel.wf)
  suffices all : ∀ goal : Form Pattern × Cursor source, motive goal.1 goal.2 from all (form, cursor)
  intro goal
  induction goal using ordered.induction with | _ goal ih
  obtain ⟨form, cursor⟩ := goal
  have smaller (part : Form Pattern) (place : Cursor source) (less : sizeOf part < sizeOf form) :
      motive part place := ih (part, place) (.left _ _ less)
  cases form with
  | literal text => exact literal text cursor
  | leaf pattern => exact leaf pattern cursor
  | sequence forms =>
      cases forms with
      | nil => exact sequence_nil cursor
      | cons first rest =>
          refine sequence_cons first rest cursor (smaller first cursor ?_) ?_
          · simp only [Form.sequence.sizeOf_spec, List.cons.sizeOf_spec]
            omega
          · intro behind
            refine smaller (.sequence rest) behind ?_
            simp only [Form.sequence.sizeOf_spec, List.cons.sizeOf_spec]
            omega
  | oneOf forms =>
      cases forms with
      | nil => exact oneOf_nil cursor
      | cons first rest =>
          refine oneOf_cons first rest cursor (smaller first cursor ?_)
            (smaller (.oneOf rest) cursor ?_)
          · simp only [Form.oneOf.sizeOf_spec, List.cons.sizeOf_spec]
            omega
          · simp only [Form.oneOf.sizeOf_spec, List.cons.sizeOf_spec]
            omega
  | manyOf form =>
      refine manyOf form cursor (smaller form cursor ?_) ?_
      · simp only [Form.manyOf.sizeOf_spec]
        omega
      · intro behind moved
        have inside := behind.offset_le
        exact ih (.manyOf form, behind) (.right _ (by simp only; omega))
  | optional form =>
      refine optional form cursor (smaller form cursor ?_)
      simp only [Form.optional.sizeOf_spec]
      omega
  | reference name => exact reference name cursor
  | except form exclusions =>
      refine except form exclusions cursor (smaller form cursor ?_)
      simp only [Form.except.sizeOf_spec]
      omega

end Form

end TextGrammar
