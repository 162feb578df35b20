import TextGrammar.MatchTree

/-! The parts that the value of a match is made of: nodes, and texts that are not empty. Putting
parts together and taking the value apart again gives the same parts, so a value is known by them,
up to the way in which it says nothing. -/

namespace TextGrammar

namespace Value

def IsPart (value : Value) : Prop := value.parts = [value]

theorem parts_text_empty : (text "").parts = [] := rfl

theorem isPart_text {content : String} (some : content ≠ "") : (text content).IsPart := by
  simp [IsPart, parts, isEmpty, some]

theorem isPart_node (rule : String) (value : Value) (start stop : Position) :
    (node rule value start stop).IsPart := rfl

theorem parts_join {values : List Value} (each : ∀ value ∈ values, value.IsPart) :
    (join values).parts = values := by
  match values with
  | [] => rfl
  | [value] => exact each value List.mem_cons_self
  | _ :: _ :: _ => rfl

theorem parts_eq_nil_iff {value : Value} : value.parts = [] ↔ value.isEmpty := by
  cases value <;> simp [parts, isEmpty]

end Value

namespace MatchTree

open Value

mutual

theorem isPart_of_mem_parts : ∀ tree : MatchTree, ∀ part ∈ tree.asValue.parts, part.IsPart
  | .text _ _ content, part, member => by
      by_cases blank : content = ""
      · rw [blank, asValue, parts_text_empty] at member
        cases member
      · rw [asValue, isPart_text blank] at member
        rw [List.mem_singleton.mp member]
        exact isPart_text blank
  | .empty .., part, member => by
      rw [asValue, parts_text_empty] at member
      cases member
  | .sequence _ _ children, part, member => by
      have each := isPart_of_mem_partsOfAll children
      rw [asValue, parts_join each] at member
      exact each part member
  | .repetition _ _ children, part, member => by
      have each := isPart_of_mem_partsOfAll children
      rw [asValue, parts_join each] at member
      exact each part member
  | .rule _ _ _ _, part, member => by
      rw [List.mem_singleton.mp member]
      exact isPart_node _ _ _ _

theorem isPart_of_mem_partsOfAll : ∀ trees : List MatchTree,
    ∀ part ∈ partsOfAll trees, part.IsPart
  | [], part, member => by cases member
  | tree :: rest, part, member => by
      rcases List.mem_append.mp member with first | others
      · exact isPart_of_mem_parts tree part first
      · exact isPart_of_mem_partsOfAll rest part others

end

@[simp] theorem parts_sequence (start stop : Position) (children : List MatchTree) :
    (sequence start stop children).asValue.parts = partsOfAll children :=
  parts_join (isPart_of_mem_partsOfAll children)

@[simp] theorem parts_repetition (start stop : Position) (children : List MatchTree) :
    (repetition start stop children).asValue.parts = partsOfAll children :=
  parts_join (isPart_of_mem_partsOfAll children)

/-- A value that says something is put together from its parts. -/
theorem join_parts {tree : MatchTree} (some : tree.asValue.parts ≠ []) :
    join tree.asValue.parts = tree.asValue := by
  cases tree with
  | text start stop content =>
      have full : content ≠ "" := by
        rintro rfl
        exact some rfl
      rw [asValue, isPart_text full]
      rfl
  | empty start stop => exact absurd rfl some
  | sequence start stop children => rw [parts_sequence, asValue]
  | repetition start stop children => rw [parts_repetition, asValue]
  | rule start stop name body => rfl

end MatchTree

end TextGrammar
