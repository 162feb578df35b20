import Mathlib.Order.Bounds.Basic
import TextGrammar.Regex.Engine
import TextGrammar.Proofs.OrderedChoice
import TextGrammar.Proofs.ValueText

/-! Items with separators between them. Such a list matches an item and then pairs of a separator
and an item, up to the first place where no pair follows or the last pair took no text. A separator
that no item follows is left alone. -/

namespace TextGrammar

namespace Form

variable {source : List Char} {resolve : String → Cursor source → Outcome source}

theorem exists_matchWith_optional_manyOf {form : Form Pattern} {cursor last : Cursor source}
    {trees : List MatchTree}
    (rounds : repeatMatch (form.matchWith resolve) cursor = .ok (trees, last)) :
    ∃ tree, (optional (manyOf form)).matchWith resolve cursor = .ok (tree, last) := by
  rw [matchWith, matchWith, rounds]
  cases trees with
  | nil =>
      obtain rfl := eq_of_repeatMatch_eq_nil rounds
      exact ⟨_, rfl⟩
  | cons tree others => exact ⟨_, rfl⟩

theorem matchWith_pair_of_error {first second : Form Pattern} {cursor behind : Cursor source}
    {tree : MatchTree} {error : MatchError (Form Pattern)}
    (matched : first.matchWith resolve cursor = .ok (tree, behind))
    (failed : second.matchWith resolve behind = .error error) :
    (sequence [first, second]).matchWith resolve cursor = .error error := by
  rw [matchWith_sequence_cons, matched]
  simp only [matchWith_sequence_cons, failed]

end Form

namespace Grammar

variable {grammar : Grammar} {form : Form Pattern} {source : String} {position next : Position}
  {cursor behind : Cursor source.toList} {tree : MatchTree}

def endOf? (grammar : Grammar) (form : Form Pattern) (source : String) (position : Position) :
    Option Position :=
  match grammar.matchForm form source position with
  | .ok tree => some tree.stop
  | .error _ => none

def endOfRounds? (grammar : Grammar) (form : Form Pattern) (source : String)
    (position : Position) : Nat → Option Position
  | 0 => some position
  | rounds + 1 => (grammar.endOfRounds? form source position rounds).bind
      (grammar.endOf? form source)

/-- Whether matches of a form that follow each other stop after so many rounds, since the form does
not match any more or since the last round took no text. -/
def StopsAfter (grammar : Grammar) (form : Form Pattern) (source : String) (position : Position)
    (rounds : Nat) : Prop :=
  ∃ reached, grammar.endOfRounds? form source position rounds = some reached ∧
    (grammar.endOf? form source reached = none ∨
      ∃ earlier, 1 ≤ rounds ∧
        grammar.endOfRounds? form source position (rounds - 1) = some earlier ∧
        earlier.offset = reached.offset)

theorem stop_of_matchAt (matched : grammar.matchAt form cursor = .ok (tree, behind)) :
    tree.stop = behind.position :=
  (matched_of_matchWith ⟨[], form, cursor⟩ matched).start_stop.2

theorem endOf?_of_ok (matched : grammar.matchAt form cursor = .ok (tree, behind)) :
    grammar.endOf? form source cursor.position = some behind.position := by
  rw [endOf?, matchForm_position, matched]
  exact congrArg some (stop_of_matchAt matched)

theorem endOf?_of_error {error : MatchError (Form Pattern)}
    (failed : grammar.matchAt form cursor = .error error) :
    grammar.endOf? form source cursor.position = none := by
  rw [endOf?, matchForm_position, failed]
  rfl

section

variable (first : grammar.endOf? form source position = some next)

include first

theorem endOfRounds?_succ_of_endOf? (rounds : Nat) :
    grammar.endOfRounds? form source position (rounds + 1) =
      grammar.endOfRounds? form source next rounds := by
  induction rounds with
  | zero => simpa [endOfRounds?] using first
  | succ rounds ih => rw [endOfRounds?, ih, endOfRounds?]

theorem not_stopsAfter_zero : ¬ grammar.StopsAfter form source position 0 := by
  rintro ⟨reached, here, ends | ⟨earlier, some, -⟩⟩
  · cases here
    rw [first] at ends
    cases ends
  · cases some

variable (moved : position.offset < next.offset)

include moved

theorem stopsAfter_succ_iff (rounds : Nat) :
    grammar.StopsAfter form source position (rounds + 1) ↔
      grammar.StopsAfter form source next rounds := by
  rw [StopsAfter, StopsAfter, endOfRounds?_succ_of_endOf? first, Nat.add_sub_cancel]
  cases rounds with
  | zero => simp [endOfRounds?, Nat.ne_of_lt moved]
  | succ rounds => rw [endOfRounds?_succ_of_endOf? first, Nat.add_sub_cancel]; simp

theorem isLeast_stopsAfter_succ {rounds : Nat}
    (least : IsLeast {rounds | grammar.StopsAfter form source next rounds} rounds) :
    IsLeast {rounds | grammar.StopsAfter form source position rounds} (rounds + 1) := by
  constructor
  · exact (stopsAfter_succ_iff first moved rounds).mpr least.1
  · intro other stops
    cases other with
    | zero => exact absurd stops (not_stopsAfter_zero first)
    | succ other =>
        exact Nat.succ_le_succ (least.2 ((stopsAfter_succ_iff first moved other).mp stops))

end

/-- A form is repeated up to the first place where its rounds stop. -/
theorem exists_rounds (unlimited : grammar.depthLimit = none) (form : Form Pattern)
    (cursor : Cursor source.toList) :
    ∃ trees last rounds,
      Form.repeatMatch (form.matchWith (grammar.matchRule [])) cursor = .ok (trees, last) ∧
      IsLeast {rounds | grammar.StopsAfter form source cursor.position rounds} rounds ∧
      grammar.endOfRounds? form source cursor.position rounds = some last.position := by
  fun_induction Form.repeatMatch (form.matchWith (grammar.matchRule [])) cursor with
  | case1 cursor error failed fatal =>
      -- Only a limit on the nesting makes a failure fatal.
      exact absurd fatal (not_isFatal_of_unlimited unlimited ⟨[], form, cursor⟩ failed)
  | case2 cursor error failed mild =>
      have ends := endOf?_of_error failed
      refine ⟨[], cursor, 0, rfl, ⟨⟨cursor.position, rfl, .inl ends⟩, ?_⟩, rfl⟩
      exact fun rounds _ => Nat.zero_le rounds
  | case3 cursor tree behind matched moved error failed ih =>
      rcases ih with ⟨trees, last, rounds, again, -⟩
      rw [failed] at again
      cases again
  | case4 cursor tree behind matched moved trees last again ih =>
      rcases ih with ⟨others, final, rounds, same, least, reached⟩
      cases again.symm.trans same
      have first := endOf?_of_ok matched
      refine ⟨_, _, rounds + 1, rfl, isLeast_stopsAfter_succ first moved least, ?_⟩
      rw [endOfRounds?_succ_of_endOf? first, reached]
  | case5 cursor tree behind matched stayed =>
      -- The round that took no text is kept, so it is the first after which the rounds stop.
      have first := endOf?_of_ok matched
      have later := Form.le_of_matchWith (fun _ _ _ _ => le_of_matchRule) matched
      have still : cursor.position.offset = behind.position.offset := by
        have ordered := Cursor.offset_le_of_le later
        omega
      have reached : grammar.endOfRounds? form source cursor.position 1 = some behind.position :=
        first
      refine ⟨[tree], behind, 1, rfl, ⟨?_, ?_⟩, reached⟩
      · exact ⟨behind.position, reached, .inr ⟨cursor.position, Nat.le_refl 1, rfl, still⟩⟩
      · intro rounds stops
        cases rounds with
        | zero => exact absurd stops (not_stopsAfter_zero first)
        | succ rounds => exact Nat.succ_le_succ (Nat.zero_le rounds)

def listForm (item separator : Form Pattern) : Form Pattern :=
  .sequence [item, .optional (.manyOf (.sequence [separator, item]))]

theorem normalize_separated [RegexEngine] {draft separator : Draft} {item between : Form Pattern}
    (items : draft.normalize = .ok item) (separators : separator.normalize = .ok between) :
    (Draft.separated draft separator).normalize = .ok (listForm item between) := by
  rw [Draft.normalize] at items separators
  simp only [Draft.separated, Draft.normalize, Form.expand, Form.expandAll, items, separators]
  rfl

variable {item separator : Form Pattern}

theorem matchAt_listForm_of_error {error : MatchError (Form Pattern)}
    (failed : grammar.matchAt item cursor = .error error) :
    grammar.matchAt (listForm item separator) cursor = .error error := by
  rw [matchAt] at failed
  rw [matchAt, listForm, Form.matchWith_sequence_cons, failed]

/-- Behind its first item a list goes on to where the pairs of a separator and an item stop. -/
theorem exists_matchAt_listForm (unlimited : grammar.depthLimit = none)
    (matched : grammar.matchAt item cursor = .ok (tree, behind)) :
    ∃ whole last rounds, grammar.matchAt (listForm item separator) cursor = .ok (whole, last) ∧
      IsLeast {rounds | grammar.StopsAfter (.sequence [separator, item]) source behind.position
        rounds} rounds ∧
      grammar.endOfRounds? (.sequence [separator, item]) source behind.position rounds =
        some last.position := by
  rcases exists_rounds unlimited (.sequence [separator, item]) behind with
    ⟨trees, last, rounds, pairs, least, reached⟩
  rcases Form.exists_matchWith_optional_manyOf pairs with ⟨others, following⟩
  rw [matchAt] at matched
  refine ⟨.sequence cursor.position last.position [tree, others], last, rounds, ?_, least, reached⟩
  rw [matchAt, listForm, Form.matchWith_sequence_cons, matched]
  simp only [Form.matchWith_sequence_cons, following, Form.matchWith_sequence_nil]
  rfl

theorem endOf?_pair_eq_none {error : MatchError String}
    (matched : grammar.matchForm separator source position = .ok tree)
    (failed : grammar.matchForm item source tree.stop = .error error) :
    grammar.endOf? (.sequence [separator, item]) source position = none := by
  rcases exists_cursor_of_matchForm matched with ⟨cursor, behind, rfl, first⟩
  rw [stop_of_matchAt first, matchForm_position] at failed
  rcases Outcome.error_of_report_eq_error failed with ⟨original, second, -⟩
  rw [matchAt] at first second
  exact endOf?_of_error (Form.matchWith_pair_of_error first second)

/-- A list fails as its first item does. Else it matches, and ends behind as many pairs of a
separator and an item as follow up to the first place where they stop. Where a separator without an
item is next, nothing of it is taken. -/
theorem list_ends_where_pairs_stop [RegexEngine] (unlimited : grammar.depthLimit = none)
    {draft separator : Draft} {item between : Form Pattern} (items : draft.normalize = .ok item)
    (separators : separator.normalize = .ok between)
    (boundary : (Text.splitAt? position.offset source.toList).isSome) :
    ∃ form, (Draft.separated draft separator).normalize = .ok form ∧
      (∀ error, grammar.matchForm form source position = .error error ↔
        grammar.matchForm item source position = .error error) ∧
      ∀ first, grammar.matchForm item source position = .ok first →
        ∃ whole rounds, grammar.matchForm form source position = .ok whole ∧
          IsLeast {rounds | grammar.StopsAfter (.sequence [between, item]) source first.stop
            rounds} rounds ∧
          grammar.endOfRounds? (.sequence [between, item]) source first.stop rounds =
            some whole.stop ∧
          ∀ pairs reached taken error,
            (∀ fewer < pairs,
              ¬ grammar.StopsAfter (.sequence [between, item]) source first.stop fewer) →
            grammar.endOfRounds? (.sequence [between, item]) source first.stop pairs =
              some reached →
            grammar.matchForm between source reached = .ok taken →
            grammar.matchForm item source taken.stop = .error error →
            whole.stop = reached := by
  rcases Option.isSome_iff_exists.mp boundary with ⟨⟨before, rest⟩, cut⟩
  let cursor : Cursor source.toList := ⟨position, rest, before, Text.splitAt?_eq_some_iff.mp cut⟩
  have report (form : Form Pattern) :
      grammar.matchForm form source position = (grammar.matchAt form cursor).report :=
    grammar.matchForm_position form source cursor
  refine ⟨listForm item between, normalize_separated items separators, ?_⟩
  rw [report, report]
  cases outcome : grammar.matchAt item cursor with
  | error failure =>
      rw [matchAt_listForm_of_error outcome]
      refine ⟨fun error => Iff.rfl, ?_⟩
      intro first reported
      cases reported
  | ok matched =>
      rcases matched with ⟨tree, behind⟩
      rcases exists_matchAt_listForm unlimited outcome with
        ⟨whole, last, rounds, made, least, reached⟩
      have ends := stop_of_matchAt made
      rw [made]
      constructor
      · intro error
        constructor <;> intro reported <;> cases reported
      · intro first reported
        cases reported
        rw [stop_of_matchAt outcome]
        refine ⟨whole, rounds, rfl, least, ends ▸ reached, ?_⟩
        intro pairs place taken error before there matched failed
        have stops : grammar.StopsAfter (.sequence [between, item]) source behind.position pairs :=
          ⟨place, there, .inl (endOf?_pair_eq_none matched failed)⟩
        have same : rounds = pairs :=
          Nat.le_antisymm (least.2 stops) (Nat.le_of_not_lt fun fewer => before _ fewer least.1)
        rw [same, there] at reached
        rw [ends]
        exact (Option.some.inj reached).symm

def letterLists : Grammar := ⟨[⟨"Letter", .oneOf [.literal "a", .literal "é"]⟩], "Letter", none⟩

theorem list_ends_where_pairs_stop_comma :
    ∃ form whole, (Draft.separated (.reference "Letter") (.literal ",")).normalize = .ok form ∧
      letterLists.matchForm form "xa,é,b" ⟨1, 0, 1⟩ = .ok whole ∧ whole.stop = ⟨5, 0, 4⟩ := by
  have items : Draft.normalize (.reference "Letter") = .ok (.reference "Letter") := rfl
  have separators : Draft.normalize (.literal ",") = .ok (.literal ",") := rfl
  have first : letterLists.matchForm (.reference "Letter") "xa,é,b" ⟨1, 0, 1⟩ =
      .ok (.rule ⟨1, 0, 1⟩ ⟨2, 0, 2⟩ "Letter" (.text ⟨1, 0, 1⟩ ⟨2, 0, 2⟩ "a")) := by
    with_unfolding_all rfl
  have pair : letterLists.endOf? (.sequence [.literal ",", .reference "Letter"]) "xa,é,b"
      ⟨2, 0, 2⟩ = some ⟨5, 0, 4⟩ := by
    with_unfolding_all rfl
  have comma : letterLists.matchForm (.literal ",") "xa,é,b" ⟨5, 0, 4⟩ =
      .ok (.text ⟨5, 0, 4⟩ ⟨6, 0, 5⟩ ",") := by
    with_unfolding_all rfl
  have absent : letterLists.matchForm (.reference "Letter") "xa,é,b" ⟨6, 0, 5⟩ =
      .error ⟨some "Letter", .expected "oneOf(\"a\", \"é\")", ⟨6, 0, 5⟩⟩ := by
    with_unfolding_all rfl
  have unlimited : letterLists.depthLimit = none := rfl
  have boundary : (Text.splitAt? (⟨1, 0, 1⟩ : Position).offset "xa,é,b".toList).isSome := by
    decide
  rcases list_ends_where_pairs_stop unlimited items separators boundary with
    ⟨form, made, -, lists⟩
  rcases lists _ first with ⟨whole, rounds, matched, -, -, left⟩
  refine ⟨form, whole, made, matched, left 1 _ _ _ ?_ pair comma absent⟩
  intro fewer below
  rw [Nat.lt_one_iff.mp below]
  exact not_stopsAfter_zero pair

end Grammar

end TextGrammar
