import TextGrammar.Proofs.LineBreaks
import TextGrammar.Proofs.Tiling

/-! Lines and columns in a match. They are those of the source up to there, but a line break of two
characters whose characters are in two texts of the match counts twice. -/

namespace TextGrammar

namespace MatchTree

def passed? : MatchTree → Option (Position × List Char)
  | .text _ stop content => some (stop, content.toList)
  | _ => none

def texts (tree : MatchTree) : List (Position × List Char) := tree.subtrees.filterMap passed?

def ends (tree : MatchTree) : List Position := [tree.start, tree.stop]

def marks (tree : MatchTree) : List Position := tree.start :: tree.texts.map Prod.fst

theorem filterMap_subtreesOfAll (trees : List MatchTree) :
    (subtreesOfAll trees).filterMap passed? = trees.flatMap texts := by
  induction trees with
  | nil => rfl
  | cons tree rest ih =>
      rw [subtreesOfAll, List.filterMap_append, ih, List.flatMap_cons]
      rfl

theorem texts_sequence (start stop : Position) (children : List MatchTree) :
    (sequence start stop children).texts = children.flatMap texts :=
  filterMap_subtreesOfAll children

theorem texts_repetition (start stop : Position) (children : List MatchTree) :
    (repetition start stop children).texts = children.flatMap texts :=
  filterMap_subtreesOfAll children

theorem Adjoin.passes {children : List MatchTree} {start stop : Position}
    (adjoin : Adjoin children start stop)
    (each : ∀ child ∈ children, child.start.Passes child.texts child.stop) :
    start.Passes (children.flatMap texts) stop := by
  induction children generalizing start with
  | nil => exact adjoin
  | cons child rest ih =>
      obtain ⟨rfl, adjoin⟩ := adjoin
      obtain ⟨first, others⟩ := List.forall_mem_cons.mp each
      exact Position.passes_append.mpr ⟨child.stop, first, ih adjoin others⟩

theorem Adjoin.marks_subset {children : List MatchTree} {start stop : Position}
    (adjoin : Adjoin children start stop)
    (each : ∀ child ∈ children, child.start.Passes child.texts child.stop) :
    ∀ child ∈ children, child.marks ⊆ start :: (children.flatMap texts).map Prod.fst := by
  induction children generalizing start with
  | nil => exact fun child member => absurd member List.not_mem_nil
  | cons child rest ih =>
      obtain ⟨rfl, adjoin⟩ := adjoin
      obtain ⟨first, others⟩ := List.forall_mem_cons.mp each
      have whole : child.start :: ((child :: rest).flatMap texts).map Prod.fst =
          child.marks ++ (rest.flatMap texts).map Prod.fst := by
        simp [marks]
      rw [whole]
      refine List.forall_mem_cons.mpr ⟨List.subset_append_left _ _, ?_⟩
      intro later member
      refine List.Subset.trans (ih adjoin others later member) (List.cons_subset.mpr ⟨?_, ?_⟩)
      · exact List.mem_append_left _ first.stop_mem
      · exact List.subset_append_right _ _

variable {source : List Char} {tree : MatchTree}

theorem Tiles.passes (tiles : tree.Tiles source) : tree.start.Passes tree.texts tree.stop := by
  induction tree using tree_induction with
  | text start stop content =>
      have fits := tiles _ (self_mem_subtrees _)
      exact ⟨fits.2, rfl⟩
  | empty start stop => exact tiles _ (self_mem_subtrees _)
  | sequence start stop children ih =>
      obtain ⟨adjoin, each⟩ := tiles_sequence_iff.mp tiles
      rw [texts_sequence]
      exact adjoin.passes fun child member => ih child member (each child member)
  | repetition start stop children ih =>
      obtain ⟨fits, each⟩ := tiles_repetition_iff.mp tiles
      rw [texts_repetition]
      exact fits.1.passes fun child member => ih child member (each child member)
  | rule start stop name body ih =>
      obtain ⟨⟨rfl, rfl⟩, inside⟩ := tiles_rule_iff.mp tiles
      exact ih inside

theorem Tiles.ends_subset_marks (tiles : tree.Tiles source) : tree.ends ⊆ tree.marks := by
  refine List.cons_subset.mpr ⟨List.mem_cons_self, ?_⟩
  exact List.cons_subset.mpr ⟨tiles.passes.stop_mem, List.nil_subset _⟩

theorem Adjoin.ends_subset {children : List MatchTree} {start stop : Position}
    (adjoin : Adjoin children start stop) (each : ∀ child ∈ children, child.Tiles source)
    (inside : ∀ child ∈ children, ∀ part ∈ child.subtrees, part.ends ⊆ child.marks) :
    ∀ part ∈ subtreesOfAll children,
      part.ends ⊆ start :: (children.flatMap texts).map Prod.fst := by
  refine forall_mem_subtreesOfAll.mpr fun child member part within => ?_
  have outer := adjoin.marks_subset (fun child member => (each child member).passes) child member
  exact List.Subset.trans (inside child member part within) outer

/-- The parts of a match start and end where the match starts or one of its texts ends. -/
theorem Tiles.ends_subset (tiles : tree.Tiles source) :
    ∀ part ∈ tree.subtrees, part.ends ⊆ tree.marks := by
  have own := tiles.ends_subset_marks
  induction tree using tree_induction with
  | text | empty =>
      intro part member
      obtain rfl := List.mem_singleton.mp member
      exact own
  | sequence start stop children ih =>
      obtain ⟨adjoin, each⟩ := tiles_sequence_iff.mp tiles
      refine List.forall_mem_cons.mpr ⟨own, ?_⟩
      rw [marks, texts_sequence]
      refine adjoin.ends_subset each fun child member => ?_
      exact ih child member (each child member) (each child member).ends_subset_marks
  | repetition start stop children ih =>
      obtain ⟨⟨adjoin, _⟩, each⟩ := tiles_repetition_iff.mp tiles
      refine List.forall_mem_cons.mpr ⟨own, ?_⟩
      rw [marks, texts_repetition]
      refine adjoin.ends_subset each fun child member => ?_
      exact ih child member (each child member) (each child member).ends_subset_marks
  | rule start stop name body ih =>
      obtain ⟨⟨rfl, rfl⟩, inside⟩ := tiles_rule_iff.mp tiles
      exact List.forall_mem_cons.mpr ⟨own, ih inside inside.ends_subset_marks⟩

theorem chars_join (children : List MatchTree)
    (each : ∀ child ∈ children, child.asValue.chars = child.texts.flatMap Prod.snd) :
    (Value.join (partsOfAll children)).chars = (children.flatMap texts).flatMap Prod.snd := by
  rw [Value.additive_chars.join]
  induction children with
  | nil => rfl
  | cons child rest ih =>
      obtain ⟨first, others⟩ := List.forall_mem_cons.mp each
      rw [partsOfAll, List.flatMap_append, Value.additive_chars.parts, first, ih others,
        List.flatMap_cons, List.flatMap_append]

theorem chars_asValue (tree : MatchTree) :
    tree.asValue.chars = tree.texts.flatMap Prod.snd := by
  induction tree using tree_induction with
  | text start stop content => exact (List.append_nil _).symm
  | empty start stop => rfl
  | sequence start stop children ih =>
      rw [asValue, texts_sequence]
      exact chars_join children ih
  | repetition start stop children ih =>
      rw [asValue, texts_repetition]
      exact chars_join children ih
  | rule start stop name body ih => exact ih

end MatchTree

theorem Cursor.rest_eq_of_start {source : List Char} {cursor : Cursor source}
    (located : cursor.position = .start) : cursor.rest = source := by
  obtain ⟨before, whole, length⟩ := cursor.located
  rw [located] at length
  obtain rfl := Text.byteLength_eq_zero_iff.mp length
  exact whole

namespace Grammar

/-- Every start and end in a match has the column of the source up to there, and its line but for
the breaks before it that are split by the texts of the match, which count once more. -/
theorem lines_exact_up_to_split_breaks (grammar : Grammar) (form : Form Pattern) (source : String)
    (tree : MatchTree) (matched : grammar.matchForm form source .start = .ok tree) :
    ∀ part ∈ tree.subtrees, ∀ position ∈ part.ends, ∃ before rest,
      Text.splitAt? position.offset source.toList = some (before, rest) ∧
      position.column = (Position.start.after before).column ∧
      position.line = (Position.start.after before).line +
        Nat.count (splitsBreak source.toList tree.texts ·) position.offset ∧
      ((∀ offset, splitsBreak source.toList tree.texts offset = false) →
        position = Position.start.after before) := by
  obtain ⟨cursor, behind, located, found⟩ := exists_matched_of_matchForm matched
  have tiles := found.tiles
  have passes := tiles.passes
  have whole := found.chars_append_rest
  rw [MatchTree.chars_asValue, Cursor.rest_eq_of_start located] at whole
  rw [found.start_stop.1, located] at passes
  have exact := passes.ahead whole
  intro part member position ending
  have mark := tiles.ends_subset part member ending
  rw [MatchTree.marks, found.start_stop.1, located] at mark
  obtain ⟨before, rest, cut, ahead⟩ := exact position mark
  have column := congrArg Position.column ahead
  have line := congrArg Position.line ahead
  refine ⟨before, rest, cut, column, line, ?_⟩
  intro unsplit
  have none : Nat.count (splitsBreak source.toList tree.texts ·) position.offset = 0 :=
    Nat.count_iff_forall_not.mpr fun offset _ => by simp [unsplit offset]
  rw [none] at ahead
  exact ahead

def torn : Form Pattern := .sequence [.literal "é\r", .literal "", .literal "\n\r\n"]

def tornTree : MatchTree :=
  .sequence ⟨0, 0, 0⟩ ⟨6, 3, 0⟩ [.text ⟨0, 0, 0⟩ ⟨3, 1, 0⟩ "é\r",
    .text ⟨3, 1, 0⟩ ⟨3, 1, 0⟩ "", .text ⟨3, 1, 0⟩ ⟨6, 3, 0⟩ "\n\r\n"]

theorem lines_exact_up_to_split_breaks_torn :
    accents.matchForm torn "é\r\n\r\n" .start = .ok tornTree ∧
      ∃ before rest, Text.splitAt? 6 "é\r\n\r\n".toList = some (before, rest) ∧
        3 = (Position.start.after before).line +
          Nat.count (splitsBreak "é\r\n\r\n".toList tornTree.texts ·) 6 := by
  have result : accents.matchForm torn "é\r\n\r\n" .start = .ok tornTree := by
    with_unfolding_all rfl
  have last : (⟨6, 3, 0⟩ : Position) ∈ tornTree.ends := by decide
  obtain ⟨before, rest, cut, _, line, _⟩ :=
    lines_exact_up_to_split_breaks accents torn "é\r\n\r\n" tornTree result tornTree
      tornTree.self_mem_subtrees _ last
  exact ⟨result, before, rest, cut, line⟩

end Grammar

end TextGrammar
