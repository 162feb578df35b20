import TextGrammar.Regex.Item

/-!
Reading a regular expression. Items are read one by one, with a stack of the groups that are still
open.
-/

namespace TextGrammar.Regex

/-- A group that is still open. Its pieces and alternatives are kept last first; a change of flags
is a piece without an expression. -/
structure OpenGroup where
  flags : Flags
  /-- The number of the group, if its match is kept. -/
  number : Option Nat
  pieces : List (Option (Nested Regex))
  alternatives : List (Nested Regex)

namespace OpenGroup

def withFlags (flags : Flags) (number : Option Nat) : OpenGroup := ⟨flags, number, [], []⟩

def add (group : OpenGroup) (piece : Nested Regex) : OpenGroup :=
  { group with pieces := some piece :: group.pieces }

def alternative (group : OpenGroup) : Nested Regex :=
  let depth := (group.pieces.map fun piece => piece.elim 0 (·.depth)).foldr max 0
  ⟨.sequence (group.pieces.reverse.filterMap fun piece => piece.map (·.value)),
    if 1 < group.pieces.length then depth + 1 else depth⟩

def bar (group : OpenGroup) : OpenGroup :=
  { group with pieces := [], alternatives := group.alternative :: group.alternatives }

def contents (group : OpenGroup) : Nested Regex :=
  let all := group.alternative :: group.alternatives
  let depth := (all.map (·.depth)).foldr max 0
  ⟨.alternatives (all.reverse.map (·.value)), if 1 < all.length then depth + 1 else depth⟩

def close (group : OpenGroup) : Nested Regex :=
  let ⟨inside, depth⟩ := group.contents
  ⟨group.number.elim inside (.group · inside), depth + 1⟩

def repeatLast? (group : OpenGroup) (least : Nat) (most : Option Nat) (greedy : Bool) :
    Option OpenGroup :=
  match group.pieces with
  | some piece :: pieces =>
    let repeated := ⟨piece.value.repeated least most greedy, piece.depth + 1⟩
    some { group with pieces := some repeated :: pieces }
  | _ => none

end OpenGroup

structure ReadingState where
  group : OpenGroup
  outer : List OpenGroup
  names : List String
  /-- How many groups so far have a match that is kept. -/
  kept : Nat

def ReadingState.take (state : ReadingState) : Item → Option ReadingState
  | .atom regex => some { state with group := state.group.add regex }
  | .openGroup flags kept name =>
    if name.any state.names.contains then none
    else
      let count := if kept then state.kept + 1 else state.kept
      some
        { group := .withFlags flags (if kept then some count else none)
          outer := state.group :: state.outer
          names := name.toList ++ state.names
          kept := count }
  | .closeGroup =>
    match state.outer with
    | [] => none
    | enclosing :: outer =>
      some { state with group := enclosing.add state.group.close, outer := outer }
  | .bar => some { state with group := state.group.bar }
  | .rounds least most greedy =>
    (state.group.repeatLast? least most greedy).map fun group => { state with group := group }
  | .change flags =>
    some { state with group := { state.group with flags, pieces := none :: state.group.pieces } }

-- Every step reads a character, so as many steps as there are characters suffice.
def readItems? : Nat → ReadingState → List Char → Option ReadingState
  | steps, state, text =>
    match steps, state.group.flags.skip text with
    | _, [] => some state
    | 0, _ => none
    | steps + 1, text => do
      let (item, rest) ← readItem? state.group.flags text
      readItems? steps (← state.take item) rest

def maximalDepth : Nat := 250

def ofText? (flags : Flags) (text : List Char) : Option Regex := do
  let state ← readItems? text.length ⟨.withFlags flags none, [], [], 0⟩ text
  let whole := state.group.contents
  if state.outer.isEmpty && whole.depth ≤ maximalDepth then return whole.value else none

end TextGrammar.Regex
