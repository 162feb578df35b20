import TextGrammar.Json.Token

/-!
JSON documents: one value and nothing after it. The tokens are read one by one, with a stack of the
arrays and objects that are still open.
-/

namespace TextGrammar.Json

inductive OpenValue where
  | array (items : List Json)
  | object (members : List (String × Json)) (name : String)

inductive Awaited where
  /-- A value; after an opening bracket also the closing one. -/
  | value (orClose : Bool)
  /-- The name of a member; after an opening brace also the closing one. -/
  | name (members : List (String × Json)) (orClose : Bool)
  | colon (members : List (String × Json)) (name : String)
  /-- What comes after a value. -/
  | next (value : Json)

structure ReadingState where
  stack : List OpenValue
  awaited : Awaited

def maximalNesting : Nat := 127

def ReadingState.read (state : ReadingState) (token : JsonToken) : Option ReadingState :=
  match state.awaited, token, state.stack with
  | .value _, .scalar value, stack => some ⟨stack, .next value⟩
  | .value _, .openArray, stack =>
    if stack.length < maximalNesting then some ⟨.array [] :: stack, .value true⟩ else none
  | .value _, .openObject, stack =>
    if stack.length < maximalNesting then some ⟨stack, .name [] true⟩ else none
  | .value true, .closeArray, .array _ :: stack => some ⟨stack, .next (.array [])⟩
  | .name members _, .scalar (.string name), stack => some ⟨stack, .colon members name⟩
  | .name _ true, .closeObject, stack => some ⟨stack, .next (.ofMembers [])⟩
  | .colon members name, .colon, stack => some ⟨.object members name :: stack, .value false⟩
  | .next value, .comma, .array items :: stack =>
    some ⟨.array (value :: items) :: stack, .value false⟩
  | .next value, .comma, .object members name :: stack =>
    some ⟨stack, .name ((name, value) :: members) false⟩
  | .next value, .closeArray, .array items :: stack =>
    some ⟨stack, .next (.array (value :: items).reverse)⟩
  | .next value, .closeObject, .object members name :: stack =>
    some ⟨stack, .next (.ofMembers ((name, value) :: members).reverse)⟩
  | _, _, _ => none

def ofText? (text : String) : Option Json := do
  let tokens ← JsonToken.ofText? text
  let state ← tokens.foldlM ReadingState.read ⟨[], .value false⟩
  match state.awaited, state.stack with
  | .next value, [] => some value
  | _, _ => none

end TextGrammar.Json
