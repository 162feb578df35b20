import TextGrammar.Proofs.Consistency
import TextGrammar.Proofs.LeftRecursion
import TextGrammar.Proofs.Reload

/-! Which rule a failure is attributed to: the innermost of those that are being matched where it
comes from, and it comes from the form of that rule. -/

namespace TextGrammar

def Form.Expects (form : Form Pattern) (text : String) : Prop :=
  ∃ part ∈ form.subforms, part.CanBeExpected ∧ text = part.sources.rendering

namespace Grammar

/-- How a failure is attributed to one of the rules that the form that was asked for leads to. It is
attributed to none where that form fails itself, and where no rule may be entered. -/
structure Attributed (grammar : Grammar) (asked : Form Pattern) (error : MatchError String) :
    Prop where
  reached : ∀ rule, error.rule = some rule → grammar.LeadsTo asked rule
  expected : ∀ text, error.reason = .expected text →
    (error.rule = none ∧ asked.Expects text) ∨
      ∃ rule form, error.rule = some rule ∧ grammar.form? rule = some form ∧ form.Expects text
  circular : ∀ chain, error.reason = .circular chain →
    ∃ last, chain.getLast? = some last ∧ error.rule = some last.rule
  depthLimit : ∀ limit, error.reason = .depthLimit limit →
    grammar.depthLimit = some limit ∧ (error.rule = none ↔ limit = 0)

section

variable {grammar : Grammar} {asked owner : Form Pattern} {source : List Char} {goal : Goal source}
  {error : MatchError (Form Pattern)}

theorem Origin.expects (origin : grammar.Origin asked error goal owner) {text : String}
    (reason : error.report.reason = .expected text) : owner.Expects text := by
  rcases Reason.map_eq_expected_iff.mp reason with ⟨form, same, rfl⟩
  have raised := origin.raised
  rw [same] at raised
  have part := origin.part
  cases raised with
  | expected => exact ⟨_, part, origin.own _ same, rfl⟩

theorem Origin.depthLimit (origin : grammar.Origin asked error goal owner) {limit : Nat}
    (reason : error.reason = .depthLimit limit) :
    grammar.depthLimit = some limit ∧ goal.active.length = limit := by
  have raised := origin.raised
  have trail := origin.trail
  rw [reason] at raised
  cases raised with
  | depthLimit found fresh limited full =>
      exact ⟨limited, Nat.le_antisymm (trail.room limit limited) full⟩

theorem Origin.attributed (origin : grammar.Origin asked error goal owner)
    (attributed : error.rule = goal.active.head?.map (·.rule)) :
    grammar.Attributed asked error.report where
  reached := by
    intro rule same
    rw [MatchError.report_rule, attributed, Option.map_eq_some_iff] at same
    rcases same with ⟨entry, innermost, rfl⟩
    exact origin.trail.reached entry (List.mem_of_head? innermost)
  expected := by
    intro text reason
    have expects := origin.expects reason
    cases innermost : goal.active.head? with
    | none =>
        rw [origin.trail.unentered (List.head?_eq_none_iff.mp innermost)] at expects
        rw [innermost] at attributed
        exact .inl ⟨attributed, expects⟩
    | some entry =>
        rw [innermost] at attributed
        exact .inr ⟨entry.rule, owner, attributed, origin.trail.innermost entry innermost, expects⟩
  circular := by
    intro chain reason
    have circular := origin.leftRecursive attributed (Reason.map_eq_circular_iff.mp reason)
    rcases circular.2.1.recurs with ⟨_, _, _, last, _, _, ends, _, blamed⟩
    exact ⟨last, ends, blamed⟩
  depthLimit := by
    intro limit reason
    rcases origin.depthLimit (Reason.map_eq_depthLimit_iff.mp reason) with ⟨limited, length⟩
    refine ⟨limited, ?_⟩
    rw [MatchError.report_rule, attributed, ← length]
    simp

theorem Origin.isSome_splitAt? (origin : grammar.Origin asked error goal owner) :
    (Text.splitAt? error.report.position.offset source).isSome := by
  rcases goal.cursor.exists_splitAt?_offset with ⟨before, cut⟩
  rw [MatchError.report_position, origin.place, cut]
  rfl

end

variable {grammar : Grammar} {source : String} {error : MatchError String}

theorem attributed_of_matchForm {form : Form Pattern} {position : Position}
    (boundary : (Text.splitAt? position.offset source.toList).isSome)
    (failed : grammar.matchForm form source position = .error error) :
    (Text.splitAt? error.position.offset source.toList).isSome ∧
      grammar.Attributed form error := by
  rcases exists_origin_of_matchForm failed with
    ⟨outside, _⟩ | ⟨original, goal, owner, rfl, origin, attributed⟩
  · rw [Cursor.at?] at outside
    split at outside
    · cases outside
    · rename_i none
      rw [none] at boundary
      cases boundary
  · exact ⟨origin.isSome_splitAt?, origin.attributed attributed⟩

theorem attributed_of_parse (failed : grammar.parse source = .error error) :
    (Text.splitAt? error.position.offset source.toList).isSome ∧
      ((error.reason = .trailing grammar.root ∧ error.rule = some grammar.root ∧
          ∃ tree, grammar.matchForm (.reference grammar.root) source .start = .ok tree ∧
            error.position = tree.stop ∧
            error.position.offset < Text.byteLength source.toList) ∨
        (∀ name, error.reason ≠ .trailing name) ∧
          grammar.Attributed (.reference grammar.root) error) := by
  rcases exists_origin_of_parse failed with
    ⟨body, behind, matched, left, rfl⟩ | ⟨original, goal, owner, rfl, origin, attributed, _⟩
  · rcases behind.exists_splitAt?_offset with ⟨before, cut⟩
    refine ⟨by rw [cut]; rfl, .inl ⟨rfl, rfl, ?_⟩⟩
    have result : grammar.matchForm (.reference grammar.root) source .start =
        .ok (.rule .start behind.position grammar.root body) := by
      have start := grammar.matchForm_position (.reference grammar.root) source (.atStart _)
      rw [matchAt, Form.matchWith, matched] at start
      exact start
    have bytes := behind.offset_add_byteLength_rest
    have more : Text.byteLength behind.rest ≠ 0 := fun none =>
      left (Text.byteLength_eq_zero_iff.mp none)
    exact ⟨_, result, rfl, by simp only; omega⟩
  · refine ⟨origin.isSome_splitAt?, .inr ⟨?_, origin.attributed attributed⟩⟩
    intro name reason
    have raised := origin.raised
    rw [Reason.map_eq_trailing_iff.mp reason] at raised
    cases raised

theorem eq_of_reset {root : String} {limit : Option Nat} {changed : Grammar}
    (set : grammar.reset root limit = .ok changed) :
    root ∈ grammar.ruleNames ∧ changed = ⟨grammar.rules, root, limit⟩ := by
  by_cases present : root ∈ grammar.ruleNames
  · simp only [reset, setRoot_of_mem present] at set
    cases set
    exact ⟨present, rfl⟩
  · simp only [reset, setRoot_of_not_mem present] at set
    cases set

theorem not_expects_reference {name text : String} : ¬ (Form.reference name).Expects text := by
  rintro ⟨part, inside, own, _⟩
  simp only [Form.subforms, List.mem_singleton] at inside
  rw [inside] at own
  exact own

/-- What fails in a compiled grammar, with any root and limit, fails between two characters of the
source, and it is attributed to the rule whose form fails. -/
theorem failures_are_attributed [RegexEngine] {definitions : List (String × Draft)} {compiled : Grammar}
    {root : String} {limit : Option Nat} (built : compile definitions = .ok compiled)
    (set : compiled.reset root limit = .ok grammar) :
    (∀ source error, grammar.parse source = .error error →
      (Text.splitAt? error.position.offset source.toList).isSome ∧
      (∀ text, error.reason = .expected text → ∃ rule form, error.rule = some rule ∧
        Relation.ReflTransGen grammar.Refers root rule ∧ grammar.form? rule = some form ∧
        form.Expects text) ∧
      (∀ name, error.reason = .trailing name → name = root ∧ error.rule = some root ∧
        ∃ tree, grammar.matchForm (.reference root) source .start = .ok tree ∧
          error.position = tree.stop ∧ error.position.offset < Text.byteLength source.toList) ∧
      (∀ chain, error.reason = .circular chain →
        ∃ last, chain.getLast? = some last ∧ error.rule = some last.rule) ∧
      (∀ most, error.reason = .depthLimit most →
        limit = some most ∧ (error.rule = none ↔ most = 0)) ∧
      ∀ name, error.reason ≠ .undefinedRule name) ∧
    ∀ form source position error,
      (Text.splitAt? position.offset source.toList).isSome →
      grammar.matchForm form source position = .error error →
      (Text.splitAt? error.position.offset source.toList).isSome ∧
        grammar.Attributed form error := by
  rcases eq_of_reset set with ⟨present, rfl⟩
  have consistent := (consistent_of_compile built).restarted present limit
  refine ⟨?_, fun form source position error => attributed_of_matchForm⟩
  intro source error failed
  have defined := consistent.parse_ne_undefinedRule failed
  rcases attributed_of_parse failed with ⟨boundary, ⟨trailing, blamed⟩ | ⟨untrailed, attributed⟩⟩
  · refine ⟨boundary, by simp [trailing], ?_, by simp [trailing], by simp [trailing], defined⟩
    intro name reason
    rw [trailing] at reason
    cases reason
    exact ⟨rfl, blamed⟩
  · refine ⟨boundary, ?_, fun name reason => absurd reason (untrailed name),
      attributed.circular, attributed.depthLimit, defined⟩
    intro text reason
    rcases attributed.expected text reason with ⟨_, itself⟩ | ⟨rule, form, blamed, found, expects⟩
    · exact absurd itself not_expects_reference
    · have path := leadsTo_reference_iff.mp (attributed.reached rule blamed)
      exact ⟨rule, form, blamed, path, found, expects⟩

def greeted : Grammar :=
  ⟨[⟨"Root", .sequence [.literal "hot", .reference "Animal"]⟩, ⟨"Animal", .literal "dog"⟩], "Root",
    some 2⟩

theorem failures_are_attributed_greetings :
    ∃ compiled, compile greetings = .ok compiled ∧ compiled.reset "Root" (some 2) = .ok greeted ∧
      greeted.parse "hotcat" = .error ⟨some "Animal", .expected "\"dog\"", ⟨3, 0, 3⟩⟩ ∧
      ∃ form, greeted.form? "Animal" = some form ∧ form.Expects "\"dog\"" ∧
        Relation.ReflTransGen greeted.Refers "Root" "Animal" := by
  have built : compile greetings = .ok (greeted.setDepthLimit none) := by rfl
  have set : (greeted.setDepthLimit none).reset "Root" (some 2) = .ok greeted := by rfl
  have result : greeted.parse "hotcat" =
      .error ⟨some "Animal", .expected "\"dog\"", ⟨3, 0, 3⟩⟩ := by
    with_unfolding_all rfl
  rcases (failures_are_attributed built set).1 _ _ result with ⟨_, expected, _⟩
  rcases expected _ rfl with ⟨rule, form, blamed, path, found, expects⟩
  cases blamed
  exact ⟨_, built, set, result, form, found, expects, path⟩

end Grammar

end TextGrammar
