import TextGrammar.Regex.Basic

/-!
Programs for regular expressions: numbered steps that read a character, test a place, or fork to
further steps in order of preference.
-/

namespace TextGrammar

inductive Step where
  | one (set : CharSet) (next : Nat)
  | look (condition : Look) (next : Nat)
  | fork (preferred other : Nat)
  | accept
  deriving DecidableEq, Repr

structure Program where
  steps : Array Step
  start : Nat
  deriving DecidableEq, Repr

namespace Regex

/-- Steps that were written so far. An expression is written with the step that comes after it, so
a program grows from its end to its start. -/
abbrev Steps := Array Step

def Steps.fork (steps : Steps) (greedy : Bool) (body exit : Nat) : Nat × Steps :=
  (steps.size, steps.push (if greedy then .fork body exit else .fork exit body))

def writeTimes (write : Nat → Steps → Nat × Steps) : Nat → Nat → Steps → Nat × Steps
  | 0, next, steps => (next, steps)
  | count + 1, next, steps =>
    let (entry, steps) := write next steps
    writeTimes write count entry steps

-- Gives the entry of the body and the place of the fork behind it.
def writeLoop (write : Nat → Steps → Nat × Steps) (greedy : Bool) (next : Nat) (steps : Steps) :
    Nat × Nat × Steps :=
  let fork := steps.size
  let (entry, steps) := write fork (steps.push .accept)
  let step : Step := if greedy then .fork entry next else .fork next entry
  (entry, fork, steps.setIfInBounds fork step)

/-- Writes the rounds of a body. Without a bound, a body that always reads a character loops over
one fork; any other body loops over a fork behind it, and a fork in front lets it be left out. -/
def writeRounds (write : Nat → Steps → Nat × Steps) (consumes greedy : Bool) (least : Nat) :
    Option Nat → Nat → Steps → Nat × Steps
  | some most, next, steps =>
    let optional (inner : Nat) (steps : Steps) :=
      let (entry, steps) := write inner steps
      Steps.fork steps greedy entry next
    let (entry, steps) := writeTimes optional (most - least) next steps
    writeTimes write least entry steps
  | none, next, steps =>
    let (entry, fork, steps) := writeLoop write greedy next steps
    if least = 0 then
      if consumes then (fork, steps) else Steps.fork steps greedy entry next
    else writeTimes write (least - 1) entry steps

def writeLiteral : List Char → Nat → Steps → Nat × Steps
  | [], next, steps => (next, steps)
  | c :: rest, next, steps =>
    let (following, steps) := writeLiteral rest next steps
    (steps.size, steps.push (.one (.single c) following))

def write : Regex → Nat → Steps → Nat × Steps
  | .empty, next, steps => (next, steps)
  | .literal text, next, steps => writeLiteral text next steps
  | .one set, next, steps => (steps.size, steps.push (.one set next))
  | .look condition, next, steps => (steps.size, steps.push (.look condition next))
  | .group _ body, next, steps => body.write next steps
  | .seq first rest, next, steps =>
    let (middle, steps) := rest.write next steps
    first.write middle steps
  | .alt preferred others, next, steps =>
    let (second, steps) := others.write next steps
    let (first, steps) := preferred.write next steps
    Steps.fork steps true first second
  | .rounds body least most greedy, next, steps =>
    writeRounds body.write body.consumes greedy least most next steps

def program (regex : Regex) : Program :=
  let (start, steps) := regex.write 0 #[.accept]
  ⟨steps, start⟩

end Regex

end TextGrammar
