import TextGrammar.Text.Bytes
import TextGrammar.Regex.Basic
import TextGrammar.Regex.ByteAutomaton

/-!
The size of regular expressions. It is the memory of an automaton that reads bytes, so it depends on
how the characters of sets are spelled and grows with every round of a repetition. An expression is
small if its automata for both directions take at most ten mebibytes.
-/

namespace TextGrammar.Regex

open ByteAutomaton

def literals? : Regex → Option (List (List Char))
  | .literal text => some [text]
  | .alt (.literal text) others => others.literals?.map fun texts => text :: texts
  | _ => none

/-- The size of the rounds of a body. A round that may be left out has a fork in front. A body that
may take nothing is followed by the fork that goes back to it, and has another in front. -/
def sizeOfRounds (consumes : Bool) (body least : Nat) : Option Nat → Nat
  | some most =>
    let optional := stateSize + 2 * wayOnSize + body
    if least = most then least * body
    else if least = 0 ∧ most = 1 then optional + stateSize
    else (if least = 0 then stateSize else least * body) + stateSize + (most - least) * optional
  | none =>
    let fork := stateSize + 2 * wayOnSize
    if least = 0 then
      if consumes then body + fork else body + 2 * fork + stateSize
    else least * body + fork

def size (direction : Direction) (behindOthers : Bool) : Regex → Nat
  | .empty => stateSize
  | .literal text => stateSize * Text.byteLength text
  | .one set => sizeOfSet direction set
  | .look _ => stateSize
  | .group _ body =>
    match direction with
    | .forwards => body.size direction false + 2 * stateSize
    | .backwards => body.size direction false
  | .seq first rest => first.size direction false + rest.size direction false
  | .alt preferred others =>
    let texts? := if behindOthers then none else (Regex.alt preferred others).literals?
    match texts?, others with
    | some texts, _ => sizeOfLiterals direction texts
    | none, .alt .. =>
      (if behindOthers then 0 else 2 * stateSize) + wayOnSize + preferred.size direction false +
        others.size direction true
    | none, _ =>
      (if behindOthers then 0 else 2 * stateSize) + 2 * wayOnSize +
        preferred.size direction false + others.size direction false
  | .rounds body least most _ =>
    sizeOfRounds body.consumes (body.size direction false) least most

def beginsWith (condition : Look) : Regex → Bool
  | .look other => condition = other
  | .group _ body => body.beginsWith condition
  | .seq first rest =>
    first.beginsWith condition || first.takesNothing && rest.beginsWith condition
  | .alt preferred others => preferred.beginsWith condition && others.beginsWith condition
  | .rounds body least _ _ => 0 < least && body.beginsWith condition
  | _ => false

def endsWith (condition : Look) : Regex → Bool
  | .look other => condition = other
  | .group _ body => body.endsWith condition
  | .seq first rest => rest.endsWith condition || rest.takesNothing && first.endsWith condition
  | .alt preferred others => preferred.endsWith condition && others.endsWith condition
  | .rounds body least _ _ => 0 < least && body.endsWith condition
  | _ => false

/-- The size of an automaton that looks for an expression: with a loop that skips bytes in front,
unless matches can begin in one place only, and with a state that accepts. The automaton that reads
forwards keeps where the match is. -/
def searchSize (regex : Regex) : Direction → Nat
  | .forwards =>
    let skip := if regex.beginsWith .textStart then stateSize else sizeOfSkipping
    skip + 3 * stateSize + regex.size .forwards false
  | .backwards =>
    let skip := if regex.endsWith .textEnd then stateSize else sizeOfSkipping
    skip + stateSize + regex.size .backwards false
where
  sizeOfSkipping := 3 * stateSize + rangeSize + 2 * wayOnSize

def maximalSize : Nat := 10 * Nat.pow 2 20

def isSmall (regex : Regex) : Bool :=
  regex.searchSize .forwards ≤ maximalSize && regex.searchSize .backwards ≤ maximalSize

end TextGrammar.Regex
