import TextGrammar.Proofs.CursorOrder
import TextGrammar.Proofs.Reports

/-! A parse and the match of a reference to the root. The parse enters the rule itself, the match
goes through the reference; one says what the other says, but for source that is left over. -/

namespace TextGrammar

namespace Cursor

variable {source : List Char}

theorem rest_eq_nil_iff (cursor : Cursor source) :
    cursor.rest = [] ↔ cursor.position.offset = Text.byteLength source := by
  have total := cursor.offset_add_byteLength_rest
  rw [← Text.byteLength_eq_zero_iff]
  omega

end Cursor

namespace Grammar

variable {grammar : Grammar} {root : String} {source : List Char} {body : MatchTree}
  {behind : Cursor source}

theorem matchAt_reference_of_ok {cursor : Cursor source}
    (matched : grammar.matchRule [] root cursor = .ok (body, behind)) :
    grammar.matchAt (.reference root) cursor =
      .ok (.rule cursor.position behind.position root body, behind) := by
  rw [matchAt, Form.matchWith, matched]

theorem matchForm_reference_start (grammar : Grammar) (root source : String) :
    grammar.matchForm (.reference root) source .start =
      (grammar.matchAt (.reference root) (Cursor.atStart source.toList)).report :=
  matchForm_position grammar (.reference root) source (.atStart source.toList)

theorem finish_of_left_over (left : behind.position.offset < Text.byteLength source) :
    finish root (.ok (body, behind)) = .error ⟨some root, .trailing root, behind.position⟩ := by
  have unfinished : behind.rest ≠ [] := by
    intro finished
    exact Nat.ne_of_lt left (behind.rest_eq_nil_iff.mp finished)
  rw [finish, if_neg (by simpa using unfinished)]

theorem finish_of_all_taken (all : behind.position.offset = Text.byteLength source) :
    finish root (.ok (body, behind)) = .ok ⟨root, body.asValue, .start, behind.position⟩ := by
  have finished := behind.rest_eq_nil_iff.mpr all
  rw [finish, if_pos (by simpa using finished)]

/-- Where a reference to the root fails at the start, the parse fails alike. Where it matches, the
parse fails for the source behind the match, if there is any, and else gives the node of it. -/
theorem parse_is_match_of_root (grammar : Grammar) (source : String) :
    (∀ error, grammar.matchForm (.reference grammar.root) source .start = .error error →
      grammar.parse source = .error error) ∧
    ∀ tree, grammar.matchForm (.reference grammar.root) source .start = .ok tree →
      tree.stop.offset ≤ Text.byteLength source.toList ∧
      (tree.stop.offset < Text.byteLength source.toList →
        grammar.parse source = .error ⟨some grammar.root, .trailing grammar.root, tree.stop⟩) ∧
      (tree.stop.offset = Text.byteLength source.toList →
        ∃ node, tree.asNode? = some node ∧ grammar.parse source = .ok node) := by
  rw [parse_eq_finish, matchForm_reference_start]
  cases entered : grammar.matchRule [] grammar.root (.atStart source.toList) with
  | error failure =>
      rw [matchAt_reference_of_error entered]
      constructor
      · intro error reported
        cases reported
        rfl
      · intro tree reported
        cases reported
  | ok matched =>
      rcases matched with ⟨body, behind⟩
      rw [matchAt_reference_of_ok entered]
      constructor
      · intro error reported
        cases reported
      · intro tree reported
        cases reported
        exact ⟨behind.offset_le, finish_of_left_over,
          fun all => ⟨_, rfl, finish_of_all_taken all⟩⟩

def hotdogs : Grammar :=
  ⟨[⟨"Root", .sequence [.literal "hot", .reference "Animal"]⟩, ⟨"Animal", .literal "dog"⟩],
    "Root", some 2⟩

def hotdog : MatchTree :=
  .rule .start ⟨6, 0, 6⟩ "Root" (.sequence .start ⟨6, 0, 6⟩ [.text .start ⟨3, 0, 3⟩ "hot",
    .rule ⟨3, 0, 3⟩ ⟨6, 0, 6⟩ "Animal" (.text ⟨3, 0, 3⟩ ⟨6, 0, 6⟩ "dog")])

theorem parse_is_match_of_root_hotdogs :
    (∃ node, hotdog.asNode? = some node ∧ hotdogs.parse "hotdog" = .ok node) ∧
      hotdogs.parse "hotdogs" = .error ⟨some "Root", .trailing "Root", ⟨6, 0, 6⟩⟩ ∧
      (hotdogs.setDepthLimit (some 1)).parse "hotdog" =
        .error ⟨some "Root", .depthLimit 1, ⟨3, 0, 3⟩⟩ := by
  have whole : hotdogs.matchForm (.reference "Root") "hotdog" .start = .ok hotdog := by
    with_unfolding_all rfl
  have front : hotdogs.matchForm (.reference "Root") "hotdogs" .start = .ok hotdog := by
    with_unfolding_all rfl
  have limited : (hotdogs.setDepthLimit (some 1)).matchForm (.reference "Root") "hotdog" .start =
      .error ⟨some "Root", .depthLimit 1, ⟨3, 0, 3⟩⟩ := by
    with_unfolding_all rfl
  refine ⟨?_, ?_, ?_⟩
  · exact ((parse_is_match_of_root hotdogs "hotdog").2 hotdog whole).2.2 (by decide)
  · exact ((parse_is_match_of_root hotdogs "hotdogs").2 hotdog front).2.1 (by decide)
  · exact (parse_is_match_of_root (hotdogs.setDepthLimit (some 1)) "hotdog").1 _ limited

end Grammar

end TextGrammar
