import TextGrammar.Form.Basic

/-! The parts of a form, at every depth. A reference is a part, the rule that it refers to is
not. -/

namespace TextGrammar.Form

variable {α : Type}

mutual

def subforms : Form α → List (Form α)
  | .literal text => [.literal text]
  | .leaf value => [.leaf value]
  | .sequence forms => .sequence forms :: subformsOfAll forms
  | .oneOf forms => .oneOf forms :: subformsOfAll forms
  | .manyOf form => .manyOf form :: form.subforms
  | .optional form => .optional form :: form.subforms
  | .reference name => [.reference name]
  | .except form exclusions => .except form exclusions :: form.subforms

def subformsOfAll : List (Form α) → List (Form α)
  | [] => []
  | form :: rest => form.subforms ++ subformsOfAll rest

end

theorem self_mem_subforms (form : Form α) : form ∈ form.subforms := by
  cases form <;> simp [subforms]

theorem mem_subformsOfAll_iff {part : Form α} {forms : List (Form α)} :
    part ∈ subformsOfAll forms ↔ ∃ form ∈ forms, part ∈ form.subforms := by
  induction forms with
  | nil => simp [subformsOfAll]
  | cons form rest ih => simp [subformsOfAll, ih]

mutual

theorem mem_references_iff (name : String) : ∀ form : Form α,
    name ∈ form.references ↔ .reference name ∈ form.subforms
  | .literal _ => by simp [references, subforms]
  | .leaf _ => by simp [references, subforms]
  | .sequence forms => by simp [references, subforms, mem_referencesAll_iff name forms]
  | .oneOf forms => by simp [references, subforms, mem_referencesAll_iff name forms]
  | .manyOf form => by simp [references, subforms, mem_references_iff name form]
  | .optional form => by simp [references, subforms, mem_references_iff name form]
  | .reference _ => by simp [references, subforms]
  | .except form _ => by simp [references, subforms, mem_references_iff name form]

theorem mem_referencesAll_iff (name : String) : ∀ forms : List (Form α),
    name ∈ referencesAll forms ↔ .reference name ∈ subformsOfAll forms
  | [] => by simp [referencesAll, subformsOfAll]
  | form :: rest => by
      simp [referencesAll, subformsOfAll, mem_references_iff name form,
        mem_referencesAll_iff name rest]

end

end TextGrammar.Form
