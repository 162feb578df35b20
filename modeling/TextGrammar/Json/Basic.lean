import TextGrammar.Decimal.Shortest

/-!
JSON values. The members of an object are kept in ascending order of their names, each name once;
`Json.ofMembers` is how an object is built, and of two members with one name the later one stays.
-/

namespace TextGrammar

inductive JsonNumber where
  | integer (value : Int)
  | real (value : Binary)
  deriving DecidableEq, Repr

def JsonNumber.text : JsonNumber → String
  | .integer value => toString value
  | .real value => BinaryFormat.double.text value

inductive Json where
  | null
  | bool (value : Bool)
  | number (value : JsonNumber)
  | string (text : String)
  | array (items : List Json)
  | object (members : List (String × Json))
  deriving Repr

namespace Json

def insertMember (name : String) (value : Json) : List (String × Json) → List (String × Json)
  | [] => [(name, value)]
  | (other, kept) :: rest =>
    if name < other then (name, value) :: (other, kept) :: rest
    else if name = other then (name, value) :: rest
    else (other, kept) :: insertMember name value rest

def ofMembers (members : List (String × Json)) : Json :=
  .object (members.foldl (fun sorted (name, value) => insertMember name value sorted) [])

def kind : Json → String
  | .null => "null"
  | .bool _ => "a boolean"
  | .number _ => "a number"
  | .string _ => "a string"
  | .array _ => "an array"
  | .object _ => "an object"

end Json

end TextGrammar
