import Mathlib.Data.List.Infix
import Mathlib.Data.List.ProdSigma
import TextGrammar.Proofs.Reports

/-! How deep rules nest. The rules that are being matched are pairwise different pairs of a rule of
the grammar and an offset from the first cursor on, which bounds their number. -/

namespace TextGrammar

variable {source : List Char}

def Cursor.offsets (cursor : Cursor source) : List Nat :=
  cursor.rest.tails.map fun rest => Text.byteLength source - Text.byteLength rest

theorem Cursor.length_offsets (cursor : Cursor source) :
    cursor.offsets.length = cursor.rest.length + 1 := by
  rw [offsets, List.length_map, List.length_tails]

theorem Cursor.mem_offsets_of_le {start later : Cursor source} (after : start ≤ later) :
    later.position.offset ∈ start.offsets := by
  refine List.mem_map.mpr ⟨later.rest, (List.mem_tails _ _).mpr (rest_suffix_of_le after), ?_⟩
  have bytes := later.offset_add_byteLength_rest
  omega

namespace Grammar

variable {grammar : Grammar} {start : Cursor source} {active : List ActiveRule}

structure Entered (grammar : Grammar) (start : Cursor source) (active : List ActiveRule) :
    Prop where
  distinct : active.Nodup
  named : ∀ entry ∈ active, entry.rule ∈ grammar.ruleNames
  within : ∀ entry ∈ active, entry.offset ∈ start.offsets

theorem Entered.nil : grammar.Entered start [] :=
  ⟨List.nodup_nil, fun _ member => absurd member List.not_mem_nil,
    fun _ member => absurd member List.not_mem_nil⟩

theorem Entered.cons {name : String} {body : Form Pattern} {cursor : Cursor source}
    (entered : grammar.Entered start active) (found : grammar.form? name = some body)
    (fresh : ⟨name, cursor.position.offset⟩ ∉ active) (after : start ≤ cursor) :
    grammar.Entered start (⟨name, cursor.position.offset⟩ :: active) where
  distinct := List.nodup_cons.mpr ⟨fresh, entered.distinct⟩
  named := by
    intro entry member
    rcases List.mem_cons.mp member with rfl | member
    · exact mem_ruleNames_of_form? found
    · exact entered.named entry member
  within := by
    intro entry member
    rcases List.mem_cons.mp member with rfl | member
    · exact Cursor.mem_offsets_of_le after
    · exact entered.within entry member

theorem Entered.length_le (entered : grammar.Entered start active) :
    active.length ≤ grammar.rules.length * (start.rest.length + 1) := by
  have covered : active ⊆
      (grammar.ruleNames ×ˢ start.offsets).map fun pair => ⟨pair.1, pair.2⟩ := by
    intro entry member
    refine List.mem_map.mpr ⟨(entry.rule, entry.offset), ?_, rfl⟩
    exact List.mem_product.mpr ⟨entered.named entry member, entered.within entry member⟩
  calc
    active.length ≤ _ := entered.distinct.length_le_of_subset covered
    _ = grammar.ruleNames.length * start.offsets.length := by
      rw [List.length_map, List.length_product]
    _ = grammar.rules.length * (start.rest.length + 1) := by
      rw [ruleNames, List.length_map, start.length_offsets]

theorem Calls.entered {outer inner : Goal source} (call : grammar.Calls outer inner)
    (after : start ≤ outer.cursor) (entered : grammar.Entered start outer.active) :
    grammar.Entered start inner.active := by
  cases call with
  | reference found fresh room => exact entered.cons found fresh after
  | _ => exact entered

theorem Reaches.entered {outer inner : Goal source} (reached : grammar.Reaches outer inner)
    (entered : grammar.Entered outer.cursor outer.active) :
    grammar.Entered outer.cursor inner.active := by
  induction reached with
  | refl => exact entered
  | tail before call ih => exact call.entered (Reaches.cursor_le before) ih

/-- A match fails fatally only at its limit, and only if there are more pairs of a rule and a place
to enter it than the limit allows. -/
theorem depthLimit_of_isFatal {form : Form Pattern} {cursor : Cursor source}
    {error : MatchError (Form Pattern)} (failed : grammar.matchAt form cursor = .error error)
    (fatal : error.reason.isFatal) :
    ∃ limit, error.reason = .depthLimit limit ∧ grammar.depthLimit = some limit ∧
      limit < grammar.rules.length * (cursor.rest.length + 1) := by
  obtain ⟨origin, reached, raised, _⟩ := exists_raises_of_error ⟨[], form, cursor⟩ failed
  have entered := Reaches.entered reached .nil
  have after := Reaches.cursor_le reached
  generalize error.reason = reason at raised fatal
  cases raised with
  | depthLimit found fresh limited full =>
      have more := (entered.cons found fresh after).length_le
      exact ⟨_, rfl, limited, Nat.lt_of_le_of_lt full more⟩
  | _ => cases fatal

theorem matchForm_ne_depthLimit {form : Form Pattern} {source : String}
    {cursor : Cursor source.toList}
    (enough : ∀ limit, grammar.depthLimit = some limit →
      grammar.rules.length * (cursor.rest.length + 1) ≤ limit)
    {error : MatchError String}
    (failed : grammar.matchForm form source cursor.position = .error error) (limit : Nat) :
    error.reason ≠ .depthLimit limit := by
  intro reason
  rw [matchForm_position] at failed
  obtain ⟨original, outcome, rfl⟩ := Outcome.error_of_report_eq_error failed
  have fatal := MatchError.isFatal_of_report reason
  obtain ⟨reached, _, limited, below⟩ := depthLimit_of_isFatal outcome fatal
  exact absurd (enough reached limited) (Nat.not_le_of_lt below)

theorem parse_ne_depthLimit {source : String}
    (enough : ∀ limit, grammar.depthLimit = some limit →
      grammar.rules.length * (source.toList.length + 1) ≤ limit)
    {error : MatchError String} (failed : grammar.parse source = .error error) (limit : Nat) :
    error.reason ≠ .depthLimit limit := by
  intro reason
  rw [parse_eq_finish] at failed
  obtain ⟨original, outcome, rfl⟩ := error_of_finish_eq_depthLimit failed reason
  have fatal := MatchError.isFatal_of_report reason
  obtain ⟨reached, _, limited, below⟩ :=
    depthLimit_of_isFatal (matchAt_reference_of_error outcome) fatal
  exact absurd (enough reached limited) (Nat.not_le_of_lt below)

/-- Calls never go on for ever, whether there is a limit or not, and no more rules are matched
inside each other than there are pairs of a rule and a place to enter it. -/
theorem calls_end_within_nesting_bound (grammar : Grammar) :
    (∀ source : List Char,
      WellFounded fun inner outer : Goal source => grammar.Calls outer inner) ∧
    (∀ (form : Form Pattern) (source : String) (cursor : Cursor source.toList),
      (∀ goal, grammar.Reaches ⟨[], form, cursor⟩ goal →
        goal.active.length ≤ grammar.rules.length * (cursor.rest.length + 1)) ∧
      (∀ limit, grammar.rules.length * (cursor.rest.length + 1) ≤ limit → ∀ error reached,
        (grammar.setDepthLimit (some limit)).matchForm form source cursor.position =
          .error error → error.reason ≠ .depthLimit reached)) ∧
    (∀ (source : String) (limit : Nat),
      grammar.rules.length * (source.toList.length + 1) ≤ limit → ∀ error reached,
        (grammar.setDepthLimit (some limit)).parse source = .error error →
          error.reason ≠ .depthLimit reached) := by
  refine ⟨grammar.calls_wellFounded, ?_, ?_⟩
  · intro form source cursor
    refine ⟨fun goal reached => (Reaches.entered reached .nil).length_le, ?_⟩
    intro limit enough error reached failed
    refine matchForm_ne_depthLimit ?_ failed reached
    intro set same
    cases same
    exact enough
  · intro source limit enough error reached failed
    refine parse_ne_depthLimit ?_ failed reached
    intro set same
    cases same
    exact enough

end Grammar

end TextGrammar
