import TextGrammar.Form.Basic
import TextGrammar.Json.Basic

/-!
Forms described by JSON values. A string, number or boolean is a literal, an array a sequence, and
an object any other form, named by its member `type`. Numbers stand for their decimal texts.
-/

namespace TextGrammar

inductive Misfit where
  | wrongKind (part : String) (kind : String)
  | missing (type : String) (member : String)
  | unknownType (type : String)
  | untyped
  deriving DecidableEq, Repr

namespace Misfit

def text : Misfit → String
  | .wrongKind part kind => part ++ " given as " ++ kind
  | .missing type member => type ++ " without \"" ++ member ++ "\""
  | .unknownType type => "object of type \"" ++ type ++ "\""
  | .untyped => "object without \"type\""

end Misfit

namespace Form

def exclusionOfJson : Json → Except Misfit String
  | .string text => .ok text
  | .number value => .ok value.text
  | .bool value => .ok (toString value)
  | other => .error (.wrongKind "Except exception" other.kind)

def member (type name : String) (members : List (String × Json)) : Except Misfit Json :=
  match members.lookup name with
  | some value => .ok value
  | none => .error (.missing type name)

def textOfMember (type name : String) (members : List (String × Json)) : Except Misfit String := do
  match ← member type name members with
  | .string text => return text
  | other => .error (.wrongKind (type ++ " " ++ name) other.kind)

def exclusionsOfMember (members : List (String × Json)) : Except Misfit (List String) := do
  match ← member "Except" "exceptions" members with
  | .array items => items.mapM exclusionOfJson
  | other => .error (.wrongKind "Except exceptions" other.kind)

mutual

/-- The form that a JSON value describes. Its leaves are the sources of patterns. -/
def ofJson : Json → Except Misfit (Form String)
  | .null => .error (.wrongKind "form" "null")
  | .bool value => .ok (.literal (toString value))
  | .number value => .ok (.literal value.text)
  | .string text => .ok (.literal text)
  | .array items => .sequence <$> allOfJson items
  | .object members =>
    match members.lookup "type" with
    | some (.string "OneOf") => .oneOf <$> formsOfMember "OneOf" "forms" members
    | some (.string "ManyOf") => .manyOf <$> formOfMember "ManyOf" "form" members
    | some (.string "Optional") => .optional <$> formOfMember "Optional" "form" members
    | some (.string "Ref") => .reference <$> textOfMember "Ref" "name" members
    | some (.string "Except") => do
      let form ← formOfMember "Except" "form" members
      let exclusions ← exclusionsOfMember members
      return .except form exclusions
    | some (.string "RegularExpression") =>
      .leaf <$> textOfMember "RegularExpression" "pattern" members
    | some (.string other) => .error (.unknownType other)
    | _ => .error .untyped
termination_by structural value => value

def allOfJson : List Json → Except Misfit (List (Form String))
  | [] => .ok []
  | item :: rest => do
    let first ← ofJson item
    let others ← allOfJson rest
    return first :: others
termination_by structural items => items

def formOfMember (type name : String) : List (String × Json) → Except Misfit (Form String)
  | [] => .error (.missing type name)
  | (key, value) :: rest => if name == key then ofJson value else formOfMember type name rest
termination_by structural members => members

def formsOfMember (type name : String) :
    List (String × Json) → Except Misfit (List (Form String))
  | [] => .error (.missing type name)
  | (key, value) :: rest =>
    if name == key then
      match value with
      | .array items => allOfJson items
      | other => .error (.wrongKind (type ++ " " ++ name) other.kind)
    else formsOfMember type name rest
termination_by structural members => members

end

mutual

def toJson : Form String → Json
  | .literal text => .string text
  | .leaf source => .object [("pattern", .string source), ("type", .string "RegularExpression")]
  | .sequence forms => .array (allToJson forms)
  | .oneOf forms => .object [("forms", .array (allToJson forms)), ("type", .string "OneOf")]
  | .manyOf form => .object [("form", form.toJson), ("type", .string "ManyOf")]
  | .optional form => .object [("form", form.toJson), ("type", .string "Optional")]
  | .reference name => .object [("name", .string name), ("type", .string "Ref")]
  | .except form exclusions =>
    .object
      [("exceptions", .array (exclusions.map .string)), ("form", form.toJson),
        ("type", .string "Except")]

def allToJson : List (Form String) → List Json
  | [] => []
  | form :: rest => form.toJson :: allToJson rest

end

end Form

end TextGrammar
