/-!
Forms, of which the rules of a grammar are made. A form over `α` is built from literal texts,
references to rules, and leaves of type `α`, which stand for whatever else can match: the source of
a pattern, a compiled pattern, or a form that has yet to be made.
-/

namespace TextGrammar

inductive Form (α : Type) where
  /-- This very text. -/
  | literal (text : String)
  | leaf (value : α)
  /-- All of the forms, one after the other. -/
  | sequence (forms : List (Form α))
  /-- The first of the forms that matches. -/
  | oneOf (forms : List (Form α))
  /-- The form, once and then as often as it goes on matching. -/
  | manyOf (form : Form α)
  /-- The form, or nothing. -/
  | optional (form : Form α)
  /-- The rule of this name. -/
  | reference (name : String)
  /-- The form, unless the text that it takes is one of those excluded. -/
  | except (form : Form α) (exclusions : List String)
  deriving Repr

namespace Form

variable {α β ε : Type}

def inOrder : List (Form α) → Form α
  | [form] => form
  | forms => .sequence forms

mutual

def map (f : α → β) : Form α → Form β
  | .literal text => .literal text
  | .leaf value => .leaf (f value)
  | .sequence forms => .sequence (mapAll f forms)
  | .oneOf forms => .oneOf (mapAll f forms)
  | .manyOf form => .manyOf (form.map f)
  | .optional form => .optional (form.map f)
  | .reference name => .reference name
  | .except form exclusions => .except (form.map f) exclusions

def mapAll (f : α → β) : List (Form α) → List (Form β)
  | [] => []
  | form :: rest => form.map f :: mapAll f rest

end

mutual

/-- Puts a form in the place of every leaf, from left to right up to the first error. Sequences of
one form are replaced by that form. -/
def expand (f : α → Except ε (Form β)) : Form α → Except ε (Form β)
  | .literal text => .ok (.literal text)
  | .leaf value => f value
  | .sequence forms => inOrder <$> expandAll f forms
  | .oneOf forms => .oneOf <$> expandAll f forms
  | .manyOf form => .manyOf <$> form.expand f
  | .optional form => .optional <$> form.expand f
  | .reference name => .ok (.reference name)
  | .except form exclusions => (.except · exclusions) <$> form.expand f

def expandAll (f : α → Except ε (Form β)) : List (Form α) → Except ε (List (Form β))
  | [] => .ok []
  | form :: rest => do
    let first ← form.expand f
    let others ← expandAll f rest
    return first :: others

end

mutual

def references : Form α → List String
  | .literal _ => []
  | .leaf _ => []
  | .sequence forms => referencesAll forms
  | .oneOf forms => referencesAll forms
  | .manyOf form => form.references
  | .optional form => form.references
  | .reference name => [name]
  | .except form _ => form.references

def referencesAll : List (Form α) → List String
  | [] => []
  | form :: rest => form.references ++ referencesAll rest

end

mutual

def same [BEq α] : Form α → Form α → Bool
  | .literal text, .literal other => text == other
  | .leaf value, .leaf other => value == other
  | .sequence forms, .sequence others => sameAll forms others
  | .oneOf forms, .oneOf others => sameAll forms others
  | .manyOf form, .manyOf other => form.same other
  | .optional form, .optional other => form.same other
  | .reference name, .reference other => name == other
  | .except form exclusions, .except other excluded => form.same other && exclusions == excluded
  | _, _ => false

def sameAll [BEq α] : List (Form α) → List (Form α) → Bool
  | [], [] => true
  | form :: rest, other :: others => form.same other && sameAll rest others
  | _, _ => false

end

instance [BEq α] : BEq (Form α) := ⟨same⟩

mutual

theorem same_iff_eq [BEq α] [LawfulBEq α] :
    ∀ form other : Form α, form.same other = true ↔ form = other
  | .literal _, other => by cases other <;> simp [same]
  | .leaf _, other => by cases other <;> simp [same]
  | .sequence forms, other => by cases other <;> simp [same, sameAll_iff_eq forms]
  | .oneOf forms, other => by cases other <;> simp [same, sameAll_iff_eq forms]
  | .manyOf form, other => by cases other <;> simp [same, same_iff_eq form]
  | .optional form, other => by cases other <;> simp [same, same_iff_eq form]
  | .reference _, other => by cases other <;> simp [same]
  | .except form _, other => by cases other <;> simp [same, same_iff_eq form]

theorem sameAll_iff_eq [BEq α] [LawfulBEq α] :
    ∀ forms others : List (Form α), sameAll forms others = true ↔ forms = others
  | [], others => by cases others <;> simp [sameAll]
  | form :: rest, others => by
      cases others <;> simp [sameAll, same_iff_eq form, sameAll_iff_eq rest]

end

instance [DecidableEq α] : DecidableEq (Form α) := fun form other =>
  decidable_of_iff _ (same_iff_eq form other)

end Form

end TextGrammar
