import TextGrammar.Regex.Program

/-!
Running a program on a text, from one of its characters on. All the ways of going on are followed at
once, in order of preference, and no step is visited twice at one place, so the time is bounded by
the length of the text times the length of the program. The first match in a text is found by
running the program from one place after the other.
-/

namespace TextGrammar.Program

/-- The ways of going on from a place: the characters that may come next and the steps after them,
the most preferred first. If the text may end here, ways that are preferred less are dropped. -/
structure Ways where
  pending : List (CharSet × Nat)
  accepted : Bool

theorem count_set_lt (seen : Array Bool) (step : Nat) (bound : step < seen.size)
    (fresh : seen[step] = false) : (seen.set step true).count false < seen.count false := by
  have present : 0 < seen.count false :=
    Array.count_pos_iff.mpr (fresh ▸ Array.getElem_mem bound)
  rw [Array.count_set, fresh]
  show seen.count false - 1 + 0 < seen.count false
  omega

def explore (program : Program) (holds : Look → Bool) (seen : Array Bool)
    (found : List (CharSet × Nat)) : List Nat → Ways
  | [] => ⟨found.reverse, false⟩
  | step :: waiting =>
    if bound : step < seen.size then
      if fresh : seen[step] = false then
        match program.steps[step]? with
        | some (.one set next) =>
          explore program holds (seen.set step true) ((set, next) :: found) waiting
        | some (.look condition next) =>
          explore program holds (seen.set step true) found
            (if holds condition then next :: waiting else waiting)
        | some (.fork preferred other) =>
          explore program holds (seen.set step true) found (preferred :: other :: waiting)
        | some .accept => ⟨found.reverse, true⟩
        | none => explore program holds seen found waiting
      else explore program holds seen found waiting
    else explore program holds seen found waiting
termination_by waiting => 2 * seen.count false + waiting.length
decreasing_by
  · have fewer := count_set_lt seen step bound fresh
    simp only [List.length_cons]
    omega
  · have fewer := count_set_lt seen step bound fresh
    split <;> simp only [List.length_cons] <;> omega
  · have fewer := count_set_lt seen step bound fresh
    simp only [List.length_cons]
    omega
  · simp
  · simp
  · simp

/-- Reads on from a place, given the character before it, the number of characters before it, and
the end of the best match so far. -/
def runFrom (program : Program) (before : Option Char) (steps : List Nat) (count : Nat)
    (best : Option Nat) (text : List Char) : Option Nat :=
  let unseen := Array.replicate program.steps.size false
  let ways := program.explore (Look.holds before text.head?) unseen [] steps
  let best := if ways.accepted then some count else best
  match text with
  | [] => best
  | c :: rest =>
    match ways.pending.filterMap fun (set, next) => if set.contains c then some next else none with
    | [] => best
    | steps => runFrom program (some c) steps (count + 1) best rest

def findFrom (program : Program) (passed text : List Char) : Option (List Char × List Char) :=
  match program.runFrom passed.head? [program.start] 0 none text with
  | some count => some (passed.reverse, text.take count)
  | none =>
    match text with
    | [] => none
    | c :: rest => program.findFrom (c :: passed) rest

theorem findFrom_isPrefix {program : Program} {passed text before taken : List Char}
    (found : program.findFrom passed text = some (before, taken)) :
    before ++ taken <+: passed.reverse ++ text := by
  induction text generalizing passed with
  | nil =>
      rw [findFrom] at found
      split at found <;> cases found
      simp
  | cons c rest ih =>
      rw [findFrom] at found
      split at found
      · cases found
        exact (List.prefix_append_right_inj _).mpr (List.take_prefix _ _)
      · simpa using ih found

end TextGrammar.Program
