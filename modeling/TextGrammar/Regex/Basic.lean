import TextGrammar.Regex.CharSet

/-!
Regular expressions. Alternatives are ordered, and a repetition prefers either many rounds or few,
so an expression does not only say which texts match but also which match is taken.

Expressions are built in a normal form by `sequence`, `alternatives` and `repeated`: sequences and
alternatives are flat, neighbouring characters are one literal, alternatives that are all
characters or all sets are one set, and pieces that all alternatives begin with stand once in front
of them.
-/

namespace TextGrammar

inductive Look where
  | textStart
  | textEnd
  | lineStart
  | lineEnd
  | wordBoundary
  | noWordBoundary
  | wordStart
  | wordEnd
  | halfWordStart
  | halfWordEnd
  deriving DecidableEq, Repr

def Look.holds (before after : Option Char) : Look → Bool
  | .textStart => before.isNone
  | .textEnd => after.isNone
  | .lineStart => before.all (· == '\n')
  | .lineEnd => after.all (· == '\n')
  | .wordBoundary => before.any Text.isWord != after.any Text.isWord
  | .noWordBoundary => before.any Text.isWord == after.any Text.isWord
  | .wordStart => !before.any Text.isWord && after.any Text.isWord
  | .wordEnd => before.any Text.isWord && !after.any Text.isWord
  | .halfWordStart => !before.any Text.isWord
  | .halfWordEnd => !after.any Text.isWord

inductive Regex where
  | empty
  /-- One or more characters, as they stand. -/
  | literal (text : List Char)
  | one (set : CharSet)
  | look (condition : Look)
  /-- An expression whose match is kept under a number. -/
  | group (number : Nat) (body : Regex)
  | seq (first rest : Regex)
  | alt (preferred others : Regex)
  /-- As many rounds as the bounds allow, preferring more of them if greedy and fewer if not. -/
  | rounds (body : Regex) (least : Nat) (most : Option Nat) (greedy : Bool)
  deriving DecidableEq, Repr

namespace Regex

def leastLength? : Regex → Option Nat
  | .empty => some 0
  | .literal text => some text.length
  | .one set => if set = .nothing then none else some 1
  | .look _ => some 0
  | .group _ body => body.leastLength?
  | .seq first rest =>
    first.leastLength?.bind fun least => rest.leastLength?.map fun more => least + more
  | .alt preferred others =>
    preferred.leastLength?.bind fun least => others.leastLength?.map fun other => min least other
  | .rounds body least _ _ => body.leastLength?.map fun length => least * length

def consumes (regex : Regex) : Bool := regex.leastLength?.any (0 < ·)

def takesNothing : Regex → Bool
  | .empty => true
  | .literal text => text.isEmpty
  | .one _ => false
  | .look _ => true
  | .group _ body => body.takesNothing
  | .seq first rest => first.takesNothing && rest.takesNothing
  | .alt preferred others => preferred.takesNothing && others.takesNothing
  | .rounds body _ most _ => most == some 0 || body.takesNothing

def ofSet (set : CharSet) : Regex :=
  match set.only? with
  | some c => .literal [c]
  | none => .one set

def character? : Regex → Option Char
  | .literal [c] => some c
  | _ => none

def set? : Regex → Option CharSet
  | .one set => some set
  | _ => none

/-- Repeats an expression. A round that takes nothing says all that further ones would say. -/
def repeated (body : Regex) (least : Nat) (most : Option Nat) (greedy : Bool) : Regex :=
  let (least, most) :=
    if body.takesNothing then (min least 1, some (min (most.getD 1) 1)) else (least, most)
  match least, most with
  | _, some 0 => .empty
  | 1, some 1 => body
  | least, most => .rounds body least most greedy

def pieces : Regex → List Regex
  | .empty => []
  | .seq first rest => first :: rest.pieces
  | regex => [regex]

def joinLiterals : List Regex → List Regex
  | [] => []
  | .literal text :: rest =>
    match joinLiterals rest with
    | .literal more :: rest => .literal (text ++ more) :: rest
    | rest => .literal text :: rest
  | piece :: rest => piece :: joinLiterals rest

def nestSequence : List Regex → Regex
  | [] => .empty
  | [only] => only
  | first :: rest => .seq first (nestSequence rest)

def sequence (parts : List Regex) : Regex := nestSequence (joinLiterals (parts.flatMap pieces))

def branches : Regex → List Regex
  | .alt preferred others => preferred :: others.branches
  | regex => [regex]

def nestAlternatives : List Regex → Regex
  | [] => .empty
  | [only] => only
  | first :: rest => .alt first (nestAlternatives rest)

def choice (parts : List Regex) : Regex :=
  let parts := parts.flatMap branches
  let sets? := (parts.mapM fun part => part.character?.map .single) <|> parts.mapM set?
  match sets? with
  | some sets => ofSet (sets.foldr .union .nothing)
  | none => nestAlternatives parts

def commonPieces : List Regex → List Regex → List Regex
  | first :: rest, other :: others =>
    if first = other then first :: commonPieces rest others else []
  | _, _ => []

def sharedPieces : List Regex → List Regex
  | .seq first rest :: others =>
    others.foldl
      (fun shared other =>
        match other with
        | .seq first rest => commonPieces shared (Regex.seq first rest).pieces
        | _ => [])
      (Regex.seq first rest).pieces
  | _ => []

/-- Alternatives, the preferred one first. What sequences all begin with is put in front of the
choice between their rests, so it is matched in only one way for all of them. -/
def alternatives (parts : List Regex) : Regex :=
  let parts := parts.flatMap branches
  match parts with
  | [only] => only
  | parts =>
    match sharedPieces parts with
    | [] => choice parts
    | shared =>
      let rests := parts.map fun part => sequence (part.pieces.drop shared.length)
      sequence (shared ++ [choice rests])

end Regex

end TextGrammar
