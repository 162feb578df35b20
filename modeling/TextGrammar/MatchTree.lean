import TextGrammar.Value

/-!
Match trees: how a form matched a text. The value of a match keeps the texts and the rules. Values
of parts are put into one list without empty ones, lists among them are dissolved, and a list of
one value is that value.
-/

namespace TextGrammar

inductive MatchTree where
  | text (start stop : Position) (text : String)
  /-- An optional form that matched nothing. -/
  | empty (start stop : Position)
  | sequence (start stop : Position) (children : List MatchTree)
  | repetition (start stop : Position) (children : List MatchTree)
  | rule (start stop : Position) (name : String) (body : MatchTree)
  deriving Repr

namespace Value

def parts : Value → List Value
  | .list items => items
  | value => if value.isEmpty then [] else [value]

def join : List Value → Value
  | [value] => value
  | values => .list values

end Value

namespace MatchTree

def start : MatchTree → Position
  | .text first .. => first
  | .empty first _ => first
  | .sequence first .. => first
  | .repetition first .. => first
  | .rule first .. => first

def stop : MatchTree → Position
  | .text _ last _ => last
  | .empty _ last => last
  | .sequence _ last _ => last
  | .repetition _ last _ => last
  | .rule _ last .. => last

def isEmpty (tree : MatchTree) : Bool := tree.start.offset == tree.stop.offset

def textIn (tree : MatchTree) (source : String) : String := excerpt source tree.start tree.stop

mutual

def asValue : MatchTree → Value
  | .text _ _ content => .text content
  | .empty .. => .text ""
  | .sequence _ _ children => .join (partsOfAll children)
  | .repetition _ _ children => .join (partsOfAll children)
  | .rule start stop name body => .node name body.asValue start stop

def partsOfAll : List MatchTree → List Value
  | [] => []
  | child :: rest => child.asValue.parts ++ partsOfAll rest

end

def asNode? (tree : MatchTree) : Option Node := tree.asValue.asNode?

end MatchTree

end TextGrammar
