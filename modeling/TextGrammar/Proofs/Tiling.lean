import TextGrammar.Proofs.ValueText

/-! Matches tile the source. In a match the parts follow each other without a gap and every text is
the stretch of the source between its ends. On the way to a match nothing is tried outside of the
source or inside of a character, also where it is given up later. -/

namespace TextGrammar

namespace MatchTree

mutual

def subtrees : MatchTree → List MatchTree
  | .text start stop content => [.text start stop content]
  | .empty start stop => [.empty start stop]
  | .sequence start stop children => .sequence start stop children :: subtreesOfAll children
  | .repetition start stop children => .repetition start stop children :: subtreesOfAll children
  | .rule start stop name body => .rule start stop name body :: body.subtrees

def subtreesOfAll : List MatchTree → List MatchTree
  | [] => []
  | child :: rest => child.subtrees ++ subtreesOfAll rest

end

def Adjoin : List MatchTree → Position → Position → Prop
  | [], start, stop => start = stop
  | tree :: rest, start, stop => tree.start = start ∧ Adjoin rest tree.stop stop

/-- A match whose own ends fit the source and the ends of its parts. -/
def Fits (source : List Char) : MatchTree → Prop
  | .text start stop content =>
    Text.slice? source start.offset stop.offset = some content.toList ∧
      stop = start.after content.toList
  | .empty start stop => start = stop
  | .sequence start stop children => Adjoin children start stop
  | .repetition start stop children =>
    Adjoin children start stop ∧ children ≠ [] ∧
      ∀ child ∈ children.dropLast, child.start.offset < child.stop.offset
  | .rule start stop _ body => body.start = start ∧ body.stop = stop

def Tiles (source : List Char) (tree : MatchTree) : Prop :=
  ∀ part ∈ tree.subtrees, part.Fits source

theorem tree_induction {motive : MatchTree → Prop}
    (text : ∀ start stop content, motive (.text start stop content))
    (empty : ∀ start stop, motive (.empty start stop))
    (sequence : ∀ start stop children, (∀ child ∈ children, motive child) →
      motive (.sequence start stop children))
    (repetition : ∀ start stop children, (∀ child ∈ children, motive child) →
      motive (.repetition start stop children))
    (rule : ∀ start stop name body, motive body → motive (.rule start stop name body)) :
    ∀ tree, motive tree
  | .text start stop content => text start stop content
  | .empty start stop => empty start stop
  | .sequence start stop children =>
    sequence start stop children fun child _ =>
      tree_induction text empty sequence repetition rule child
  | .repetition start stop children =>
    repetition start stop children fun child _ =>
      tree_induction text empty sequence repetition rule child
  | .rule start stop name body =>
    rule start stop name body (tree_induction text empty sequence repetition rule body)

theorem self_mem_subtrees (tree : MatchTree) : tree ∈ tree.subtrees := by
  cases tree <;> simp [subtrees]

theorem forall_mem_subtreesOfAll {property : MatchTree → Prop} {trees : List MatchTree} :
    (∀ part ∈ subtreesOfAll trees, property part) ↔
      ∀ tree ∈ trees, ∀ part ∈ tree.subtrees, property part := by
  induction trees with
  | nil => simp [subtreesOfAll]
  | cons tree rest ih =>
      rw [subtreesOfAll, List.forall_mem_append, List.forall_mem_cons, ih]

section

variable {source : List Char} {start stop : Position} {children : List MatchTree} {name : String}
  {body : MatchTree}

theorem tiles_sequence_iff :
    (sequence start stop children).Tiles source ↔
      Adjoin children start stop ∧ ∀ child ∈ children, child.Tiles source := by
  rw [Tiles, subtrees, List.forall_mem_cons, forall_mem_subtreesOfAll]
  rfl

theorem tiles_repetition_iff :
    (repetition start stop children).Tiles source ↔
      (repetition start stop children).Fits source ∧ ∀ child ∈ children, child.Tiles source := by
  rw [Tiles, subtrees, List.forall_mem_cons, forall_mem_subtreesOfAll]
  rfl

theorem tiles_rule_iff :
    (rule start stop name body).Tiles source ↔
      (body.start = start ∧ body.stop = stop) ∧ body.Tiles source := by
  rw [Tiles, subtrees, List.forall_mem_cons]
  rfl

end

end MatchTree

namespace Grammar

variable {grammar : Grammar} {source : List Char}

theorem takeText_tiles (cursor : Cursor source) (count : Nat) :
    (Form.takeText cursor count).1.Tiles source := by
  have whole := cursor.take_append_rest_advance count
  intro part member
  simp only [Form.takeText, MatchTree.subtrees, List.mem_singleton] at member
  subst member
  constructor
  · simpa using Cursor.slice?_of_append_rest whole
  · simp [Cursor.advance]

theorem Matched.tiles {form : Form Pattern} {cursor behind : Cursor source} {tree : MatchTree}
    (matched : grammar.Matched form cursor tree behind) : tree.Tiles source := by
  induction matched with
  | @literal text cursor _ => exact takeText_tiles cursor text.toList.length
  | @pattern _ cursor taken _ => exact takeText_tiles cursor taken.length
  | sequence_nil =>
      rw [MatchTree.tiles_sequence_iff]
      exact ⟨rfl, fun child member => absurd member List.not_mem_nil⟩
  | @sequence_cons _ _ cursor tree behind start stop others last first following head tail =>
      have ends := first.start_stop
      obtain ⟨rfl, rfl⟩ : start = behind.position ∧ stop = last.position := following.start_stop
      rw [MatchTree.tiles_sequence_iff] at tail ⊢
      have adjoin : MatchTree.Adjoin (tree :: others) cursor.position last.position :=
        ⟨ends.1, ends.2 ▸ tail.1⟩
      exact ⟨adjoin, List.forall_mem_cons.mpr ⟨head, tail.2⟩⟩
  | oneOf _ _ inside => exact inside
  | @manyOf_once _ cursor tree behind once head =>
      have ends := once.start_stop
      rw [MatchTree.tiles_repetition_iff]
      have fits : (MatchTree.repetition cursor.position behind.position [tree]).Fits source :=
        ⟨ends, List.cons_ne_nil _ _, fun child member => absurd member List.not_mem_nil⟩
      exact ⟨fits, List.forall_mem_singleton.mpr head⟩
  | @manyOf_more _ cursor tree behind start stop others last once moved again head tail =>
      have ends := once.start_stop
      obtain ⟨rfl, rfl⟩ : start = behind.position ∧ stop = last.position := again.start_stop
      rw [MatchTree.tiles_repetition_iff] at tail ⊢
      obtain ⟨⟨adjoinOthers, nonempty, longer⟩, each⟩ := tail
      have adjoin : MatchTree.Adjoin (tree :: others) cursor.position last.position :=
        ⟨ends.1, ends.2 ▸ adjoinOthers⟩
      -- The round before another one took text, so only the last may be empty.
      have taken : tree.start.offset < tree.stop.offset := by
        rw [ends.1, ends.2]
        exact moved
      have progress : ∀ child ∈ (tree :: others).dropLast,
          child.start.offset < child.stop.offset := by
        rw [List.dropLast_cons_of_ne_nil nonempty]
        exact List.forall_mem_cons.mpr ⟨taken, longer⟩
      exact ⟨⟨adjoin, List.cons_ne_nil _ _, progress⟩, List.forall_mem_cons.mpr ⟨head, each⟩⟩
  | optional_some _ inside => exact inside
  | optional_none =>
      intro part member
      simp only [MatchTree.subtrees, List.mem_singleton] at member
      subst member
      rfl
  | rule _ inner inside => exact MatchTree.tiles_rule_iff.mpr ⟨inner.start_stop, inside⟩
  | except _ _ inside => exact inside

def outcome (grammar : Grammar) (goal : Goal source) : Outcome source :=
  goal.form.matchWith (grammar.matchRule goal.active) goal.cursor

end Grammar

/-- A place between two characters of a source or at one of its ends, and not before another. -/
structure Text.Inside (source : List Char) (low offset : Nat) : Prop where
  above : low ≤ offset
  below : offset ≤ Text.byteLength source
  between : (Text.splitAt? offset source).isSome

def Goal.length? {source : List Char} (goal : Goal source) : Option Nat :=
  match goal.form with
  | .literal text =>
    if text.toList.isPrefixOf goal.cursor.rest then some (Text.byteLength text.toList) else none
  | .leaf pattern => pattern.matchLength? goal.cursor.rest
  | _ => none

/-- A goal that stays inside of the source: where it is tried, in what it takes, and where it
fails. -/
structure Goal.Inside {source : List Char} (grammar : Grammar) (low : Nat) (goal : Goal source) :
    Prop where
  tried : Text.Inside source low goal.cursor.position.offset
  rest : ∃ before,
    Text.splitAt? goal.cursor.position.offset source = some (before, goal.cursor.rest)
  taken : ∀ length, goal.length? = some length →
    (Text.splitAt? length goal.cursor.rest).isSome
  failed : ∀ error, grammar.outcome goal = .error error →
    Text.Inside source low error.position.offset

section

variable {source : List Char}

theorem Cursor.inside {first later : Cursor source} (after : first ≤ later) :
    Text.Inside source first.position.offset later.position.offset := by
  obtain ⟨before, cut⟩ := later.exists_splitAt?_offset
  exact ⟨Cursor.offset_le_of_le after, later.offset_le, by rw [cut]; rfl⟩

theorem Text.isSome_splitAt?_byteLength {front text : List Char} (present : front <+: text) :
    (Text.splitAt? (Text.byteLength front) text).isSome := by
  obtain ⟨rest, rfl⟩ := present
  rw [Text.splitAt?_byteLength]
  rfl

theorem Goal.isSome_splitAt?_length (goal : Goal source) {length : Nat}
    (asked : goal.length? = some length) : (Text.splitAt? length goal.cursor.rest).isSome := by
  rw [Goal.length?] at asked
  split at asked
  · split at asked
    · rename_i present
      cases asked
      exact Text.isSome_splitAt?_byteLength (List.isPrefixOf_iff_prefix.mp present)
    · cases asked
  · obtain ⟨taken, found, rfl⟩ := Option.map_eq_some_iff.mp asked
    exact Text.isSome_splitAt?_byteLength (Pattern.match?_isFront found)
  · cases asked

namespace Grammar

variable {grammar : Grammar}

theorem Reaches.inside {start goal : Goal source} (reached : grammar.Reaches start goal) :
    goal.Inside grammar start.cursor.position.offset := by
  have after := Reaches.cursor_le reached
  refine ⟨Cursor.inside after, goal.cursor.exists_splitAt?_offset,
    fun length => goal.isSome_splitAt?_length, ?_⟩
  intro error failed
  obtain ⟨origin, further, _, place⟩ := exists_raises_of_error goal failed
  rw [place]
  exact Cursor.inside (after.trans (Reaches.cursor_le further))

end Grammar

end

namespace Grammar

/-- A match starts at the position that is asked for and tiles the source from there on. All that is
tried on the way stays inside of the source, whether it becomes part of the match or not. -/
theorem matches_tile_source (grammar : Grammar) (form : Form Pattern) (source : String) :
    (∀ position tree, grammar.matchForm form source position = .ok tree →
      tree.start = position ∧ tree.Tiles source.toList) ∧
    ∀ cursor : Cursor source.toList,
      (∀ error, grammar.matchForm form source cursor.position = .error error →
        Text.Inside source.toList cursor.position.offset error.position.offset) ∧
      ∀ goal, grammar.Reaches ⟨[], form, cursor⟩ goal →
        goal.Inside grammar cursor.position.offset := by
  constructor
  · intro position tree result
    obtain ⟨cursor, behind, located, matched⟩ := exists_matched_of_matchForm result
    exact ⟨matched.start_stop.1.trans located, matched.tiles⟩
  · intro cursor
    constructor
    · intro error failed
      rw [matchForm_position] at failed
      obtain ⟨original, outcome, rfl⟩ := Outcome.error_of_report_eq_error failed
      have asked : grammar.Reaches ⟨[], form, cursor⟩ ⟨[], form, cursor⟩ := .refl
      exact (Reaches.inside asked).failed original outcome
    · intro goal reached
      exact Reaches.inside reached

def accents : Grammar :=
  ⟨[⟨"Root", .manyOf (.reference "Accent")⟩,
    ⟨"Accent", .sequence [.literal "é", .optional (.literal "\n")]⟩], "Root", some 2⟩

def accented : MatchTree :=
  .rule ⟨1, 0, 1⟩ ⟨6, 1, 1⟩ "Root" (.repetition ⟨1, 0, 1⟩ ⟨6, 1, 1⟩
    [.rule ⟨1, 0, 1⟩ ⟨4, 1, 0⟩ "Accent" (.sequence ⟨1, 0, 1⟩ ⟨4, 1, 0⟩
      [.text ⟨1, 0, 1⟩ ⟨3, 0, 2⟩ "é", .text ⟨3, 0, 2⟩ ⟨4, 1, 0⟩ "\n"]),
     .rule ⟨4, 1, 0⟩ ⟨6, 1, 1⟩ "Accent" (.sequence ⟨4, 1, 0⟩ ⟨6, 1, 1⟩
      [.text ⟨4, 1, 0⟩ ⟨6, 1, 1⟩ "é", .empty ⟨6, 1, 1⟩ ⟨6, 1, 1⟩])])

theorem matches_tile_source_accented :
    accents.matchForm (.reference "Root") "aé\né!" ⟨1, 0, 1⟩ = .ok accented ∧
      accented.start = ⟨1, 0, 1⟩ ∧ accented.Tiles "aé\né!".toList := by
  have result : accents.matchForm (.reference "Root") "aé\né!" ⟨1, 0, 1⟩ = .ok accented := by
    with_unfolding_all rfl
  exact ⟨result, (matches_tile_source accents (.reference "Root") "aé\né!").1 _ _ result⟩

end Grammar

end TextGrammar
