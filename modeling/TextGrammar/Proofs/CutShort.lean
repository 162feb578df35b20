import TextGrammar.Proofs.MatchClauses

/-! Matching with references that may be cut short. A fatal failure is never recovered from, so a
form that is matched with such references either fails fatally or has the result that it has with
the references in full. -/

namespace TextGrammar

/-- The second result, or a fatal failure in its place. -/
def CutShort {α : Type} (cut whole : Except (MatchError (Form Pattern)) α) : Prop :=
  cut = whole ∨ ∃ error, cut = .error error ∧ error.reason.isFatal

namespace CutShort

variable {α : Type} {cut whole : Except (MatchError (Form Pattern)) α}

theorem refl (result : Except (MatchError (Form Pattern)) α) : CutShort result result := .inl rfl

theorem fatal {error : MatchError (Form Pattern)} (isFatal : error.reason.isFatal) :
    CutShort (.error error) whole := .inr ⟨error, rfl, isFatal⟩

theorem trans {middle : Except (MatchError (Form Pattern)) α} (first : CutShort cut middle)
    (second : CutShort middle whole) : CutShort cut whole := by
  rcases first with rfl | cutShort
  · exact second
  · exact .inr cutShort

theorem fatal_of_fatal (short : CutShort cut whole)
    (failed : ∃ error, whole = .error error ∧ error.reason.isFatal) :
    ∃ error, cut = .error error ∧ error.reason.isFatal := by
  rcases short with rfl | cutShort
  · exact failed
  · exact cutShort

theorem eq_of_not_fatal (short : CutShort cut whole)
    (lasting : ∀ error, cut = .error error → ¬ error.reason.isFatal) : cut = whole := by
  rcases short with same | ⟨error, failed, isFatal⟩
  · exact same
  · exact absurd isFatal (lasting error failed)

theorem within (short : CutShort cut whole) (name : String) :
    CutShort (cut.mapError (·.within name)) (whole.mapError (·.within name)) := by
  rcases short with rfl | ⟨error, rfl, isFatal⟩
  · exact .refl _
  · exact .fatal isFatal

end CutShort

namespace Form

variable {source : List Char} {resolve cut whole : String → Cursor source → Outcome source}

theorem le_of_matchWith
    (forward : ∀ name cursor tree behind, resolve name cursor = .ok (tree, behind) →
      cursor ≤ behind)
    {form : Form Pattern} {cursor : Cursor source} {tree : MatchTree} {behind : Cursor source}
    (matched : form.matchWith resolve cursor = .ok (tree, behind)) : cursor ≤ behind := by
  induction form, cursor using match_induction generalizing tree behind with
  | literal text cursor =>
      rw [matchWith] at matched
      split at matched
      · cases matched
        exact cursor.le_advance _
      · cases matched
  | leaf pattern cursor =>
      rw [matchWith] at matched
      split at matched
      · cases matched
        exact cursor.le_advance _
      · cases matched
  | sequence_nil cursor =>
      rw [matchWith_sequence_nil] at matched
      cases matched
      exact le_rfl
  | sequence_cons form rest cursor first others =>
      rw [matchWith_sequence_cons] at matched
      split at matched
      · cases matched
      · rename_i middle head
        split at matched
        · cases matched
        · rename_i tail
          cases matched
          exact (first head).trans (others middle tail)
  | oneOf_nil cursor =>
      rw [matchWith_oneOf_nil] at matched
      cases matched
  | oneOf_cons form rest cursor first others =>
      rw [matchWith_oneOf_cons] at matched
      split at matched
      · rename_i head
        cases matched
        exact first head
      · split at matched
        · cases matched
        · split at matched
          · rename_i tail
            cases matched
            exact others tail
          · split at matched <;> cases matched
  | manyOf form cursor once again =>
      rw [matchWith_manyOf] at matched
      split at matched
      · split at matched <;> cases matched
      · rename_i middle head
        split at matched
        · rename_i moved
          split at matched
          · split at matched
            · cases matched
            · cases matched
              exact once head
          · rename_i tail
            cases matched
            exact (once head).trans (again middle moved tail)
        · cases matched
          exact once head
  | optional form cursor ih =>
      rw [matchWith] at matched
      split at matched
      · rename_i head
        cases matched
        exact ih head
      · split at matched
        · cases matched
        · cases matched
          exact le_rfl
  | reference name cursor =>
      rw [matchWith] at matched
      split at matched
      · cases matched
      · rename_i body
        cases matched
        exact forward _ _ _ _ body
  | except form exclusions cursor ih =>
      rw [matchWith] at matched
      split at matched
      · cases matched
      · rename_i head
        split at matched
        · cases matched
        · cases matched
          exact ih head

/-- A form that is matched with references that may be cut short is cut short itself or matched as
with the references in full. Only references from the cursor on matter. -/
theorem matchWith_cutShort
    (forward : ∀ name cursor tree behind, cut name cursor = .ok (tree, behind) → cursor ≤ behind)
    {form : Form Pattern} {cursor : Cursor source}
    (references : ∀ name later, cursor ≤ later → CutShort (cut name later) (whole name later)) :
    CutShort (form.matchWith cut cursor) (form.matchWith whole cursor) := by
  induction form, cursor using match_induction with
  | literal text cursor =>
      rw [matchWith, matchWith]
      exact .refl _
  | leaf pattern cursor =>
      rw [matchWith, matchWith]
      exact .refl _
  | sequence_nil cursor =>
      rw [matchWith_sequence_nil, matchWith_sequence_nil]
      exact .refl _
  | sequence_cons form rest cursor first others =>
      rw [matchWith_sequence_cons, matchWith_sequence_cons]
      rcases first references with same | ⟨error, failed, isFatal⟩
      · rw [← same]
        cases head : form.matchWith cut cursor with
        | error error => exact .refl _
        | ok matched =>
            obtain ⟨tree, behind⟩ := matched
            have moved := le_of_matchWith forward head
            rcases others behind fun name later after => references name later (moved.trans after)
              with same | ⟨error, failed, isFatal⟩
            · simp only [same]
              exact .refl _
            · simp only [failed]
              exact .fatal isFatal
      · simp only [failed]
        exact .fatal isFatal
  | oneOf_nil cursor =>
      rw [matchWith_oneOf_nil, matchWith_oneOf_nil]
      exact .refl _
  | oneOf_cons form rest cursor first others =>
      rw [matchWith_oneOf_cons, matchWith_oneOf_cons]
      rcases first references with same | ⟨error, failed, isFatal⟩
      · rw [← same]
        cases form.matchWith cut cursor with
        | ok matched => exact .refl _
        | error error =>
            rcases others references with same | ⟨other, failed, isFatal⟩
            · simp only [same]
              exact .refl _
            · simp only [failed, isFatal, if_true]
              split
              · rename_i fatal
                exact .fatal fatal
              · exact .fatal isFatal
      · simp only [failed, isFatal, if_true]
        exact .fatal isFatal
  | manyOf form cursor once again =>
      rw [matchWith_manyOf, matchWith_manyOf]
      rcases once references with same | ⟨error, failed, isFatal⟩
      · rw [← same]
        cases form.matchWith cut cursor with
        | error error => exact .refl _
        | ok matched =>
            obtain ⟨tree, behind⟩ := matched
            by_cases moved : cursor.position.offset < behind.position.offset
            · have after := Cursor.le_of_offset_lt moved
              rcases again behind moved fun name later beyond =>
                references name later (after.trans beyond) with same | ⟨error, failed, isFatal⟩
              · simp only [moved, if_true, same]
                exact .refl _
              · simp only [moved, if_true, failed, isFatal]
                exact .fatal isFatal
            · simp only [moved, if_false]
              exact .refl _
      · simp only [failed, isFatal, if_true]
        exact .fatal isFatal
  | optional form cursor ih =>
      rw [matchWith, matchWith]
      rcases ih references with same | ⟨error, failed, isFatal⟩
      · rw [same]
        exact .refl _
      · simp only [failed, isFatal, if_true]
        exact .fatal isFatal
  | reference name cursor =>
      rw [matchWith, matchWith]
      rcases references name cursor le_rfl with same | ⟨error, failed, isFatal⟩
      · rw [same]
        exact .refl _
      · simp only [failed]
        exact .fatal isFatal
  | except form exclusions cursor ih =>
      rw [matchWith, matchWith]
      rcases ih references with same | ⟨error, failed, isFatal⟩
      · rw [same]
        exact .refl _
      · simp only [failed]
        exact .fatal isFatal

end Form

end TextGrammar
