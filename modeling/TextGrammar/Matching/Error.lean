import TextGrammar.Position
import TextGrammar.Text.Quoted
import TextGrammar.Text.Shown

/-!
Why a match failed, and where. What was expected is held as an `ε`: while matching the form itself,
and in the end its rendering.
-/

namespace TextGrammar

structure ActiveRule where
  rule : String
  offset : Nat
  deriving DecidableEq, Repr

def ActiveRule.display (active : ActiveRule) : String :=
  "ref(" ++ Text.quoted active.rule ++ ") @ " ++ toString active.offset

inductive Reason (ε : Type) where
  | expected (what : ε)
  /-- A rule was entered again at the same offset. The rules being matched, outermost first. -/
  | circular (chain : List ActiveRule)
  /-- The rule matched, and source was left over. -/
  | trailing (rule : String)
  | depthLimit (limit : Nat)
  | undefinedRule (name : String)
  deriving DecidableEq, Repr

namespace Reason

def map {ε δ : Type} (f : ε → δ) : Reason ε → Reason δ
  | .expected what => .expected (f what)
  | .circular chain => .circular chain
  | .trailing rule => .trailing rule
  | .depthLimit limit => .depthLimit limit
  | .undefinedRule name => .undefinedRule name

/-- Whether the whole match fails, whatever alternatives are left. -/
def isFatal {ε : Type} : Reason ε → Bool
  | .depthLimit _ => true
  | _ => false

def message : Reason String → String
  | .expected what => "expected " ++ what
  | .circular chain =>
    "circular reference detected \x7b" ++ String.intercalate ", " (chain.map (·.display)) ++ "\x7d"
  | .trailing rule => "unexpected source after " ++ rule
  | .depthLimit limit => "reference depth limit of " ++ toString limit ++ " exceeded"
  | .undefinedRule name => "undefined rule " ++ Text.shown name

end Reason

structure MatchError (ε : Type) where
  rule : Option String
  reason : Reason ε
  position : Position
  deriving DecidableEq, Repr

namespace MatchError

def map {ε δ : Type} (f : ε → δ) (error : MatchError ε) : MatchError δ :=
  ⟨error.rule, error.reason.map f, error.position⟩

/-- Attributes a failure to a rule, unless an inner rule has it already. -/
def within {ε : Type} (rule : String) (error : MatchError ε) : MatchError ε :=
  { error with rule := some (error.rule.getD rule) }

def message (error : MatchError String) : String := error.reason.message

def display (error : MatchError String) : String :=
  error.message ++ " at " ++ error.position.display

end MatchError

end TextGrammar
