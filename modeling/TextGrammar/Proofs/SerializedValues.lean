import Mathlib.Data.List.Forall2
import TextGrammar.Value

/-! Values as JSON. What is written for a value follows from its kind, and the members of an object
come in no particular order. Whether a JSON value stands for a text, a list or a node is said by its
own kind alone. That is enough: no two values are written alike. -/

namespace TextGrammar

namespace Position

variable {position other : Position}

def written (position : Position) : Json :=
  .ofMembers
    [("offset", .number (.integer position.offset)), ("line", .number (.integer position.line)),
      ("column", .number (.integer position.column))]

theorem written_eq_toJson (position : Position) : position.written = position.toJson := rfl

theorem eq_of_toJson_eq (same : position.toJson = other.toJson) : position = other := by
  simp only [toJson, Json.object.injEq, List.cons.injEq, Prod.mk.injEq, Json.number.injEq,
    JsonNumber.integer.injEq, Int.ofNat_inj] at same
  rcases same with ⟨⟨-, columns⟩, ⟨-, lines⟩, ⟨-, offsets⟩, -⟩
  rcases position with ⟨offset, line, column⟩
  rcases other with ⟨offset', line', column'⟩
  cases columns
  cases lines
  cases offsets
  rfl

end Position

namespace Value

/-- What is written for a value: a string for a text, an array for a list, and an object for a
node. -/
inductive Written : Value → Json → Prop
  | text (content : String) : Written (.text content) (.string content)
  | list {items : List Value} {parts : List Json} (each : List.Forall₂ Written items parts) :
      Written (.list items) (.array parts)
  | node {value : Value} {part : Json} (rule : String) (start stop : Position)
      (inside : Written value part) :
      Written (.node rule value start stop)
        (.ofMembers
          [("ref", .string rule), ("value", part), ("start", start.written),
            ("end", stop.written)])

mutual

theorem written_toJson : ∀ value : Value, Written value value.toJson
  | .text content => .text content
  | .list items => .list (written_allToJson items)
  | .node rule value start stop => .node rule start stop (written_toJson value)

theorem written_allToJson : ∀ items : List Value, List.Forall₂ Written items (allToJson items)
  | [] => .nil
  | item :: rest => .cons (written_toJson item) (written_allToJson rest)

end

mutual

theorem Written.eq_toJson : ∀ {value : Value} {json : Json}, Written value json →
    json = value.toJson
  | .text _, _, .text _ => rfl
  | .list _, _, .list each => congrArg Json.array (eq_allToJson_of_written each)
  | .node .., _, .node rule start stop inside => by
      rw [inside.eq_toJson, start.written_eq_toJson, stop.written_eq_toJson]
      rfl

theorem eq_allToJson_of_written : ∀ {items : List Value} {parts : List Json},
    List.Forall₂ Written items parts → parts = allToJson items
  | [], _, .nil => rfl
  | _ :: _, _, .cons first others => by
      rw [allToJson, first.eq_toJson, eq_allToJson_of_written others]

end

mutual

/-- A value is known from its JSON, since that is of another kind for a text, a list and a node. -/
theorem eq_of_toJson_eq : ∀ {value other : Value}, value.toJson = other.toJson → value = other
  | .text _, .text _, same => congrArg text (Json.string.inj same)
  | .list _, .list _, same => congrArg list (eq_of_allToJson_eq (Json.array.inj same))
  -- Two values of different kinds have no case: a string, an array and an object are never equal.
  | .node rule value start stop, .node otherRule otherValue otherStart otherStop, same => by
      simp only [toJson, Json.object.injEq, List.cons.injEq, Prod.mk.injEq,
        Json.string.injEq] at same
      rcases same with ⟨⟨-, ends⟩, ⟨-, rules⟩, ⟨-, starts⟩, ⟨-, values⟩, -⟩
      rw [rules, eq_of_toJson_eq values, Position.eq_of_toJson_eq starts,
        Position.eq_of_toJson_eq ends]

theorem eq_of_allToJson_eq : ∀ {items others : List Value}, allToJson items = allToJson others →
    items = others
  | [], [], _ => rfl
  | _ :: _, _ :: _, same => by
      rcases List.cons.inj same with ⟨first, rest⟩
      rw [eq_of_toJson_eq first, eq_of_allToJson_eq rest]

end

/-- There is one JSON value that is written for a value, and it is written for no other one. So a
tree of values is known from its JSON, and a node is too. -/
theorem serialization_determines_value :
    (∀ (value : Value) (json : Json), Written value json ↔ json = value.toJson) ∧
    (∀ value other : Value, value.toJson = other.toJson ↔ value = other) ∧
    ∀ node other : Node, node.toJson = other.toJson ↔ node = other := by
  refine ⟨?_, ?_, ?_⟩
  · intro value json
    constructor
    · exact Written.eq_toJson
    · rintro rfl
      exact written_toJson value
  · intro value other
    exact ⟨eq_of_toJson_eq, congrArg toJson⟩
  · intro node other
    constructor
    · intro same
      have values : node.toValue = other.toValue := eq_of_toJson_eq same
      cases node
      cases other
      simpa [Node.toValue] using values
    · exact congrArg Node.toJson

end Value

end TextGrammar
