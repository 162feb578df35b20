import Mathlib.Order.Nat
import TextGrammar.Proofs.Nesting

/-! What a limit on the nesting of rules does. Under a limit a match fails with that limit, or it
ends as under any higher limit and as under none. -/

namespace TextGrammar

variable {source : List Char}

/-- Limits that cut results short, but not if they are high enough, do so up to a threshold. -/
theorem CutShort.exists_threshold {α : Type}
    (result : Option Nat → Except (MatchError (Form Pattern)) α)
    (short : ∀ low high, (∀ limit, high = some limit → low ≤ limit) →
      CutShort (result (some low)) (result high))
    (enough : ∃ bound, ∀ error, result (some bound) = .error error → ¬ error.reason.isFatal) :
    ∃ threshold,
      (∀ limit < threshold, ∃ error,
        result (some limit) = .error error ∧ error.reason.isFatal) ∧
      ∀ limit, threshold ≤ limit → result (some limit) = result none := by
  classical
  refine ⟨Nat.find enough, ?_, ?_⟩
  · intro limit below
    have cut := Nat.find_min enough below
    simp only [not_forall, not_not] at cut
    obtain ⟨error, failed, fatal⟩ := cut
    exact ⟨error, failed, fatal⟩
  · intro limit reached
    have lasting := Nat.find_spec enough
    have higher : result (some (Nat.find enough)) = result (some limit) := by
      refine (short _ _ ?_).eq_of_not_fatal lasting
      intro high same
      cases same
      exact reached
    refine (short limit none ?_).eq_of_not_fatal ?_
    · intro high same
      cases same
    · rw [← higher]
      exact lasting

/-- Every limit below some threshold fails with itself as the reason, and every other one has the
result that there is without a limit. -/
def HasThreshold {α : Type} (result : Option Nat → Except (MatchError String) α) : Prop :=
  ∃ threshold,
    (∀ limit < threshold, ∃ error,
      result (some limit) = .error error ∧ error.reason = .depthLimit limit) ∧
    ∀ limit, threshold ≤ limit → result (some limit) = result none

theorem HasThreshold.of_cutShort {α β : Type}
    (result : Option Nat → Except (MatchError (Form Pattern)) α)
    (shown : Except (MatchError (Form Pattern)) α → Except (MatchError String) β)
    (short : ∀ low high, (∀ limit, high = some limit → low ≤ limit) →
      CutShort (result (some low)) (result high))
    (enough : ∃ bound, ∀ error, result (some bound) = .error error → ¬ error.reason.isFatal)
    (named : ∀ limit error, result (some limit) = .error error → error.reason.isFatal →
      ∃ other, shown (.error error) = .error other ∧ other.reason = .depthLimit limit) :
    HasThreshold fun limit => shown (result limit) := by
  obtain ⟨threshold, below, above⟩ := CutShort.exists_threshold result short enough
  refine ⟨threshold, ?_, ?_⟩
  · intro limit less
    obtain ⟨error, failed, fatal⟩ := below limit less
    obtain ⟨other, same, reason⟩ := named limit error failed fatal
    exact ⟨other, (congrArg shown failed).trans same, reason⟩
  · intro limit reached
    exact congrArg shown (above limit reached)

namespace Grammar

variable {grammar : Grammar} {low : Nat} {high : Option Nat}

/-- A rule under a limit is cut short or matched as under a higher limit or none. -/
theorem matchRule_cutShort (higher : ∀ limit, high = some limit → low ≤ limit)
    (active : List ActiveRule) (name : String) (cursor : Cursor source) :
    CutShort ((grammar.setDepthLimit (some low)).matchRule active name cursor)
      ((grammar.setDepthLimit high).matchRule active name cursor) := by
  fun_induction (grammar.setDepthLimit (some low)).matchRule active name cursor with
  | case1 active name cursor missing =>
      have missing : (grammar.setDepthLimit high).form? name = none := missing
      rw [matchRule_undefined missing]
      exact .refl _
  | case2 active name cursor _ body found taken =>
      have found : (grammar.setDepthLimit high).form? name = some body := found
      rw [matchRule_circular found taken]
      exact .refl _
  | case3 => exact .fatal rfl
  | case4 active name cursor =>
      rename_i body found fresh unlimited ih
      have found : (grammar.setDepthLimit high).form? name = some body := found
      have below : active.length < low := by
        by_contra full
        simp [setDepthLimit, Option.filter] at unlimited
        omega
      have room : (grammar.setDepthLimit high).HasRoom active := by
        intro limit limited
        exact Nat.lt_of_lt_of_le below (higher limit limited)
      rw [matchRule_entered found fresh room]
      refine (Form.matchWith_cutShort ?_ fun inner later _ => ih inner later).within name
      exact fun _ _ _ _ matched => le_of_matchRule matched

theorem matchAt_cutShort (higher : ∀ limit, high = some limit → low ≤ limit)
    (form : Form Pattern) (cursor : Cursor source) :
    CutShort ((grammar.setDepthLimit (some low)).matchAt form cursor)
      ((grammar.setDepthLimit high).matchAt form cursor) := by
  refine Form.matchWith_cutShort ?_ fun name later _ => matchRule_cutShort higher [] name later
  exact fun _ _ _ _ matched => le_of_matchRule matched

theorem not_isFatal_of_bound {form : Form Pattern} {cursor : Cursor source}
    {error : MatchError (Form Pattern)}
    (failed : (grammar.setDepthLimit
      (some (grammar.rules.length * (cursor.rest.length + 1)))).matchAt form cursor =
        .error error) : ¬ error.reason.isFatal := by
  intro fatal
  obtain ⟨limit, _, limited, below⟩ := depthLimit_of_isFatal failed fatal
  cases limited
  exact Nat.lt_irrefl _ below

theorem report_of_isFatal {form : Form Pattern} {cursor : Cursor source}
    {error : MatchError (Form Pattern)}
    (failed : (grammar.setDepthLimit (some low)).matchAt form cursor = .error error)
    (fatal : error.reason.isFatal) : error.report.reason = .depthLimit low := by
  obtain ⟨limit, reason, limited, _⟩ := depthLimit_of_isFatal failed fatal
  cases limited
  rw [MatchError.report, MatchError.map, reason, Reason.map]

theorem matchForm_hasThreshold (grammar : Grammar) (form : Form Pattern) (source : String)
    (position : Position) :
    HasThreshold fun limit => (grammar.setDepthLimit limit).matchForm form source position := by
  cases found : Cursor.at? source.toList position with
  | none =>
      refine ⟨0, fun limit below => absurd below (Nat.not_lt_zero limit), fun limit _ => ?_⟩
      dsimp only
      rw [matchForm_of_at?_eq_none _ _ found, matchForm_of_at?_eq_none _ _ found]
  | some cursor =>
      obtain rfl := Cursor.eq_of_at?_eq_some found
      simp only [matchForm_position]
      apply HasThreshold.of_cutShort
        (fun limit => (grammar.setDepthLimit limit).matchAt form cursor) Outcome.report
      · exact fun low high higher => matchAt_cutShort higher form cursor
      · exact ⟨_, fun error failed => not_isFatal_of_bound failed⟩
      · exact fun limit error failed fatal => ⟨error.report, rfl, report_of_isFatal failed fatal⟩

theorem parse_hasThreshold (grammar : Grammar) (source : String) :
    HasThreshold fun limit => (grammar.setDepthLimit limit).parse source := by
  simp only [parse_eq_finish]
  apply HasThreshold.of_cutShort
    (fun limit => (grammar.setDepthLimit limit).matchRule [] grammar.root
      (.atStart source.toList)) (finish grammar.root)
  · exact fun low high higher => matchRule_cutShort higher [] grammar.root _
  · exact ⟨_, fun error failed => not_isFatal_of_bound (matchAt_reference_of_error failed)⟩
  · intro limit error failed fatal
    have called := matchAt_reference_of_error failed
    exact ⟨error.report, rfl, report_of_isFatal called fatal⟩

/-- There is a limit from which on limits have no effect, and every lower one fails the whole
match. -/
theorem depthLimit_fails_or_has_no_effect (grammar : Grammar) :
    (∀ (form : Form Pattern) (source : String) (position : Position),
      HasThreshold fun limit => (grammar.setDepthLimit limit).matchForm form source position) ∧
    ∀ source : String, HasThreshold fun limit => (grammar.setDepthLimit limit).parse source :=
  ⟨grammar.matchForm_hasThreshold, grammar.parse_hasThreshold⟩

end Grammar

end TextGrammar
