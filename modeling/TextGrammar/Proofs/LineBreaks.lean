import Mathlib.Data.Nat.Count
import TextGrammar.Proofs.CursorOrder

/-! Line breaks of texts that follow each other. A position that moves over two texts one after the
other comes to where it comes over both at once, except that a carriage return and a line feed that
are parted count as two breaks. Over a run of texts the lines that are too many are therefore
counted by the offsets where a text ends in the middle of a break. -/

namespace TextGrammar

def Text.partsBreak (left right : List Char) : Bool :=
  left.getLast? == some '\r' && right.head? == some '\n'

namespace Text

theorem partsBreak_tail {c : Char} {left right : List Char}
    (whole : partsBreak (c :: left) right = false) : partsBreak left right = false := by
  cases left with
  | nil => rfl
  | cons d rest => simpa [partsBreak] using whole

theorem no_pair_append {c : Char} {left right : List Char}
    (pair : ∀ rest, c = '\r' → left = '\n' :: rest → False)
    (whole : partsBreak (c :: left) right = false) (rest : List Char) (first : c = '\r') :
    left ++ right = '\n' :: rest → False := by
  intro second
  cases left with
  | nil =>
      rw [List.nil_append] at second
      simp [partsBreak, first, second] at whole
  | cons d others => exact pair others first (by simp_all)

theorem exists_of_partsBreak {left right : List Char} (parted : partsBreak left right = true) :
    ∃ front rest, left = front ++ ['\r'] ∧ right = '\n' :: rest := by
  simp only [partsBreak, Bool.and_eq_true, beq_iff_eq] at parted
  obtain ⟨last, head⟩ := parted
  obtain ⟨front, ends⟩ := List.getLast?_eq_some_iff.mp last
  obtain ⟨rest, begins⟩ := List.head?_eq_some_iff.mp head
  exact ⟨front, rest, ends, begins⟩

end Text

namespace Extent

def behind (line column : Nat) (extent : Extent) : Extent :=
  ⟨line + extent.lineBreaks,
    if extent.lineBreaks = 0 then column + extent.lastLineLength else extent.lastLineLength⟩

theorem extend_behind (line column : Nat) (reached : Extent) (text : List Char) :
    extend (reached.behind line column) text = (extend reached text).behind line column := by
  fun_induction extend reached text with
  | case1 reached => rfl
  | case2 reached rest ih =>
      rw [← ih, extend]
      simp [behind, Nat.add_assoc]
  | case3 reached c rest pair broken ih =>
      rw [← ih, extend, if_pos broken]
      · simp [behind, Nat.add_assoc]
      · exact pair
  | case4 reached c rest pair ordinary ih =>
      rw [← ih, extend, if_neg ordinary]
      · by_cases first : reached.lineBreaks = 0
        · simp [behind, first, Nat.add_assoc]
        · simp [behind, first]
      · exact pair

theorem extend_succ (lines : Nat) (text : List Char) :
    extend ⟨lines + 1, 0⟩ text =
      ⟨(extend ⟨lines, 0⟩ text).lineBreaks + 1, (extend ⟨lines, 0⟩ text).lastLineLength⟩ := by
  have shifted := extend_behind 1 0 ⟨lines, 0⟩ text
  simpa [behind, Nat.add_comm] using shifted

theorem extend_append (reached : Extent) {left right : List Char}
    (whole : Text.partsBreak left right = false) :
    extend reached (left ++ right) = extend (extend reached left) right := by
  fun_induction extend reached left with
  | case1 reached => rfl
  | case2 reached rest ih =>
      have inner := Text.partsBreak_tail (Text.partsBreak_tail whole)
      rw [List.cons_append, List.cons_append, extend, ih inner]
  | case3 reached c rest pair broken ih =>
      rw [List.cons_append, extend, if_pos broken, ih (Text.partsBreak_tail whole)]
      exact Text.no_pair_append pair whole
  | case4 reached c rest pair ordinary ih =>
      rw [List.cons_append, extend, if_neg ordinary, ih (Text.partsBreak_tail whole)]
      exact Text.no_pair_append pair whole

theorem extend_extend (reached : Extent) (left right : List Char) :
    extend (extend reached left) right =
      ⟨(extend reached (left ++ right)).lineBreaks + (Text.partsBreak left right).toNat,
        (extend reached (left ++ right)).lastLineLength⟩ := by
  cases parted : Text.partsBreak left right with
  | false => rw [extend_append reached parted]; rfl
  | true =>
      -- Up to the carriage return both sides agree; from there on they are computed.
      obtain ⟨front, rest, rfl, rfl⟩ := Text.exists_of_partsBreak parted
      have before (text : List Char) (head : text.head? = some '\r') :
          extend reached (front ++ text) = extend (extend reached front) text := by
        apply extend_append
        simp [Text.partsBreak, head]
      have joined : front ++ ['\r'] ++ '\n' :: rest = front ++ '\r' :: '\n' :: rest := by simp
      rw [joined, before ['\r'] rfl, before ('\r' :: '\n' :: rest) rfl]
      simp [extend, extend_succ]

end Extent

namespace Position

theorem after_eq (position : Position) (text : List Char) :
    position.after text =
      { offset := position.offset + Text.byteLength text
        line := (Extent.extend ⟨position.line, position.column⟩ text).lineBreaks
        column := (Extent.extend ⟨position.line, position.column⟩ text).lastLineLength } := by
  have shifted := Extent.extend_behind position.line position.column ⟨0, 0⟩ text
  have begin : Extent.behind position.line position.column ⟨0, 0⟩ =
      ⟨position.line, position.column⟩ := rfl
  rw [begin] at shifted
  rw [shifted]
  rfl

theorem after_after (position : Position) (left right : List Char) :
    (position.after left).after right =
      { position.after (left ++ right) with
        line := (position.after (left ++ right)).line + (Text.partsBreak left right).toNat } := by
  have extents := Extent.extend_extend ⟨position.line, position.column⟩ left right
  have lines := congrArg Extent.lineBreaks extents
  have columns := congrArg Extent.lastLineLength extents
  simp only [after_eq, Text.byteLength_append, Nat.add_assoc, Position.mk.injEq, true_and]
  exact ⟨lines, columns⟩

end Position

def Text.isInBreak (text : List Char) (offset : Nat) : Bool :=
  match splitAt? offset text with
  | some (before, after) => partsBreak before after
  | none => false

/-- Whether one of some texts, given with the positions behind them, ends between a carriage return
and a line feed. -/
def splitsBreak (source : List Char) (texts : List (Position × List Char)) (offset : Nat) : Bool :=
  (texts.any fun text => text.1.offset == offset) && Text.isInBreak source offset

namespace Position

def Passes : Position → List (Position × List Char) → Position → Prop
  | start, [], stop => start = stop
  | start, (behind, text) :: rest, stop => behind = start.after text ∧ Passes behind rest stop

section

variable {start stop : Position} {left right texts : List (Position × List Char)}

theorem passes_append :
    start.Passes (left ++ right) stop ↔
      ∃ middle : Position, start.Passes left middle ∧ middle.Passes right stop := by
  induction left generalizing start with
  | nil => simp [Passes]
  | cons text rest ih => simp [Passes, ih, and_assoc]

theorem Passes.stop_mem (passes : start.Passes texts stop) :
    stop ∈ start :: texts.map Prod.fst := by
  induction texts generalizing start with
  | nil =>
      cases passes
      exact List.mem_cons_self
  | cons text rest ih => exact List.mem_cons_of_mem _ (ih passes.2)

theorem Passes.offset_eq (passes : start.Passes texts stop) :
    stop.offset = start.offset + Text.byteLength (texts.flatMap Prod.snd) := by
  induction texts generalizing start with
  | nil =>
      cases passes
      simp
  | cons text rest ih =>
      rw [ih passes.2, passes.1, offset_after, List.flatMap_cons, Text.byteLength_append,
        Nat.add_assoc]

theorem Passes.offset_le (passes : start.Passes texts stop) :
    ∀ position ∈ start :: texts.map Prod.fst, position.offset ≤ stop.offset := by
  induction texts generalizing start with
  | nil =>
      cases passes
      simp
  | cons text rest ih =>
      have following := ih passes.2
      have first := following _ List.mem_cons_self
      refine List.forall_mem_cons.mpr ⟨?_, following⟩
      rw [passes.1, offset_after] at first
      omega

end

/-- A position that is exact in its offset and its column and some lines ahead. -/
def Ahead (source : List Char) (lines : Nat) (position : Position) : Prop :=
  ∃ before rest, Text.splitAt? position.offset source = some (before, rest) ∧
    position = { start.after before with line := (start.after before).line + lines }

theorem after_line_add (position : Position) (lines : Nat) (text : List Char) :
    ({ position with line := position.line + lines } : Position).after text =
      { position.after text with line := (position.after text).line + lines } := by
  simp only [after, Nat.add_right_comm]

theorem Ahead.after {source content rest : List Char} {lines : Nat} {position : Position}
    {before : List Char} (ahead : position.Ahead source lines)
    (cut : Text.splitAt? position.offset source = some (before, content ++ rest)) :
    (position.after content).Ahead source
      (lines + (Text.partsBreak before content).toNat) := by
  obtain ⟨front, others, found, exact⟩ := ahead
  obtain ⟨rfl, rfl⟩ := Prod.mk.inj (Option.some.inj (found.symm.trans cut))
  obtain ⟨whole, length⟩ := Text.splitAt?_eq_some_iff.mp cut
  refine ⟨front ++ content, rest, ?_, ?_⟩
  · rw [offset_after]
    refine Text.splitAt?_eq_some_iff.mpr ⟨?_, ?_⟩
    · rw [List.append_assoc, whole]
    · rw [Text.byteLength_append, length]
  · rw [exact, after_line_add, after_after]
    simp only [Position.mk.injEq, and_true, true_and]
    omega

end Position

section

variable {source : List Char} {texts : List (Position × List Char)}

theorem count_add_of_first {property : Nat → Bool} {start length : Nat} {first : Bool}
    (own : 0 < length → property start = first) (none : length = 0 → first = false)
    (rest : ∀ k, 0 < k → k < length → property (start + k) = false) :
    Nat.count (property ·) (start + length) = Nat.count (property ·) start + first.toNat := by
  rw [Nat.count_add]
  cases length with
  | zero => simp [none rfl]
  | succ length =>
      have others : Nat.count (fun k => property (start + (k + 1))) length = 0 := by
        refine Nat.count_iff_forall_not.mpr fun k below => ?_
        simp [rest (k + 1) (by omega) (by omega)]
      have head : property (start + 0) = first := own (by omega)
      rw [Nat.count_succ', others, head]
      cases first <;> simp

theorem count_eq_of_forall_lt {first second : Nat → Bool} {bound : Nat}
    (same : ∀ k < bound, first k = second k) :
    Nat.count (first ·) bound = Nat.count (second ·) bound := by
  apply Nat.le_antisymm
  · exact Nat.count_mono_left fun k below holds => same k below ▸ holds
  · exact Nat.count_mono_left fun k below holds => (same k below).symm ▸ holds

theorem splitsBreak_append_of_lt {behind : Position} {text : List Char} {offset : Nat}
    (earlier : offset < behind.offset) :
    splitsBreak source (texts ++ [(behind, text)]) offset = splitsBreak source texts offset := by
  have other : (behind.offset == offset) = false := by
    simp
    omega
  simp [splitsBreak, other]

namespace Position.Passes

variable {last : Position}

theorem splitsBreak_of_lt (passes : start.Passes texts last) {offset : Nat}
    (beyond : last.offset < offset) : splitsBreak source texts offset = false := by
  have bounded := passes.offset_le
  have absent : (texts.any fun text => text.1.offset == offset) = false := by
    rw [List.any_eq_false]
    intro text member same
    have below := bounded text.1 (List.mem_cons_of_mem _ (List.mem_map_of_mem member))
    simp at same
    omega
  rw [splitsBreak, absent, Bool.false_and]

theorem byteLength_eq (passes : start.Passes texts last) :
    Text.byteLength (texts.flatMap Prod.snd) = last.offset := by
  rw [passes.offset_eq]
  exact (Nat.zero_add _).symm

theorem splitAt?_stop (passes : start.Passes texts last) {rest : List Char}
    (whole : texts.flatMap Prod.snd ++ rest = source) :
    Text.splitAt? last.offset source = some (texts.flatMap Prod.snd, rest) :=
  Text.splitAt?_eq_some_iff.mpr ⟨whole, passes.byteLength_eq⟩

theorem splitsBreak_stop (passes : start.Passes texts last) {rest : List Char}
    (whole : texts.flatMap Prod.snd ++ rest = source) :
    splitsBreak source texts last.offset =
      Text.partsBreak (texts.flatMap Prod.snd) rest := by
  have place : Text.isInBreak source last.offset =
      Text.partsBreak (texts.flatMap Prod.snd) rest := by
    rw [Text.isInBreak, passes.splitAt?_stop whole]
  rw [splitsBreak, place]
  rcases List.mem_cons.mp passes.stop_mem with rfl | ended
  -- Where nothing was passed over there need be no text that ends, but no break is parted either.
  · have none : texts.flatMap Prod.snd = [] := Text.byteLength_eq_zero_iff.mp passes.byteLength_eq
    rw [none]
    exact Bool.and_false _
  · obtain ⟨text, member, rfl⟩ := List.mem_map.mp ended
    have found : (texts.any fun other => other.1.offset == text.1.offset) = true :=
      List.any_eq_true.mpr ⟨text, member, beq_self_eq_true _⟩
    rw [found, Bool.true_and]

theorem count_append {middle behind : Position} {content rest : List Char}
    (passes : start.Passes texts middle) (step : behind = middle.after content)
    (whole : texts.flatMap Prod.snd ++ (content ++ rest) = source) :
    Nat.count (splitsBreak source (texts ++ [(behind, content)]) ·) behind.offset =
      Nat.count (splitsBreak source texts ·) middle.offset +
        (Text.partsBreak (texts.flatMap Prod.snd) content).toNat := by
  have moved : behind.offset = middle.offset + Text.byteLength content := by
    rw [step, offset_after]
  have before : ∀ offset < behind.offset,
      splitsBreak source (texts ++ [(behind, content)]) offset = splitsBreak source texts offset :=
    fun offset below => splitsBreak_append_of_lt below
  rw [count_eq_of_forall_lt before, moved]
  -- Between the beginning of the text and its end no text ends.
  refine count_add_of_first ?_ ?_ ?_
  · intro nonempty
    rw [passes.splitsBreak_stop whole]
    cases content with
    | nil => cases nonempty
    | cons c others => rfl
  · intro empty
    obtain rfl := Text.byteLength_eq_zero_iff.mp empty
    exact Bool.and_false _
  · intro k positive _
    exact passes.splitsBreak_of_lt (by omega)

/-- In a run over a source from its start every position is ahead by the breaks that are split
before it. -/
theorem ahead {rest : List Char} (passes : start.Passes texts last)
    (whole : texts.flatMap Prod.snd ++ rest = source) :
    ∀ position ∈ start :: texts.map Prod.fst,
      position.Ahead source (Nat.count (splitsBreak source texts ·) position.offset) := by
  -- From the end, because what comes before a text decides whether a break is split at its start.
  induction texts using List.reverseRecOn generalizing last rest with
  | nil =>
      intro position member
      obtain rfl := List.mem_singleton.mp member
      exact ⟨[], source, Text.splitAt?_eq_some_iff.mpr ⟨rfl, rfl⟩, rfl⟩
  | append_singleton texts text ih =>
      obtain ⟨behind, content⟩ := text
      obtain ⟨middle, earlier, step, -⟩ := passes_append.mp passes
      have remaining : texts.flatMap Prod.snd ++ (content ++ rest) = source := by
        simpa using whole
      have known := ih earlier remaining
      rw [List.map_append, ← List.cons_append]
      intro position member
      rcases List.mem_append.mp member with old | new
      · have bounded := earlier.offset_le position old
        have moved : middle.offset ≤ behind.offset := by
          rw [step, offset_after]
          omega
        have same : ∀ offset < position.offset,
            splitsBreak source (texts ++ [(behind, content)]) offset =
              splitsBreak source texts offset :=
          fun offset below => splitsBreak_append_of_lt (by omega)
        rw [count_eq_of_forall_lt same]
        exact known position old
      · obtain rfl := List.mem_singleton.mp new
        rw [earlier.count_append step remaining, step]
        exact (known middle earlier.stop_mem).after (earlier.splitAt?_stop remaining)

end Position.Passes

end

end TextGrammar
