import TextGrammar.Proofs.Calls

/-! What a match depends on. A form is matched with the rules that it refers to, and with those that
they refer to, and no other rule of the grammar has a part in it. -/

namespace TextGrammar

namespace Form

variable {source : List Char} {resolve other : String → Cursor source → Outcome source}

mutual

theorem matchWith_congr : ∀ form : Form Pattern,
    (∀ name ∈ form.references, resolve name = other name) →
      form.matchWith resolve = form.matchWith other
  | .literal _, _ => by
      funext cursor
      rw [matchWith, matchWith]
  | .leaf _, _ => by
      funext cursor
      rw [matchWith, matchWith]
  | .sequence forms, alike => by
      have parts := matchAll_congr forms alike
      funext cursor
      rw [matchWith, matchWith, parts]
  | .oneOf forms, alike => by
      have parts := matchFirst_congr forms alike
      funext cursor
      rw [matchWith, matchWith, parts]
  | .manyOf form, alike => by
      have inside := matchWith_congr form alike
      funext cursor
      rw [matchWith, matchWith, inside]
  | .optional form, alike => by
      have inside := matchWith_congr form alike
      funext cursor
      rw [matchWith, matchWith, inside]
  | .reference name, alike => by
      have same := alike name List.mem_cons_self
      funext cursor
      rw [matchWith, matchWith, same]
  | .except form _, alike => by
      have inside := matchWith_congr form alike
      funext cursor
      rw [matchWith, matchWith, inside]

theorem matchAll_congr : ∀ forms : List (Form Pattern),
    (∀ name ∈ referencesAll forms, resolve name = other name) →
      matchAll resolve forms = matchAll other forms
  | [], _ => by
      funext cursor
      rw [matchAll, matchAll]
  | form :: rest, alike => by
      obtain ⟨ofFirst, ofRest⟩ := List.forall_mem_append.mp alike
      have first := matchWith_congr form ofFirst
      have others := matchAll_congr rest ofRest
      funext cursor
      rw [matchAll, matchAll, first, others]

theorem matchFirst_congr : ∀ forms : List (Form Pattern),
    (∀ name ∈ referencesAll forms, resolve name = other name) →
      matchFirst resolve forms = matchFirst other forms
  | [], _ => by
      funext cursor
      rw [matchFirst, matchFirst]
  | form :: rest, alike => by
      obtain ⟨ofFirst, ofRest⟩ := List.forall_mem_append.mp alike
      have first := matchWith_congr form ofFirst
      have others := matchFirst_congr rest ofRest
      funext cursor
      rw [matchFirst, matchFirst, first, others]

end

end Form

namespace Grammar

variable {source : List Char}

/-- On some names two grammars have the same forms, which refer to such names only. The limit on the
nesting of rules is the same too. -/
structure AgreeOn (names : String → Prop) (grammar other : Grammar) : Prop where
  forms : ∀ name, names name → grammar.form? name = other.form? name
  closed : ∀ name form, names name → grammar.form? name = some form →
    ∀ inner ∈ form.references, names inner
  limits : grammar.depthLimit = other.depthLimit

namespace AgreeOn

variable {names : String → Prop} {grammar other : Grammar}

theorem matchRule_eq (agree : AgreeOn names grammar other) {name : String} (named : names name)
    (active : List ActiveRule) (cursor : Cursor source) :
    grammar.matchRule active name cursor = other.matchRule active name cursor := by
  fun_induction grammar.matchRule active name cursor with
  | case1 active name cursor missing =>
      rw [agree.forms name named] at missing
      rw [matchRule_undefined missing]
  | case2 active name cursor _ body found taken =>
      rw [agree.forms name named] at found
      rw [matchRule_circular found taken]
  | case3 active name cursor _ body found fresh limit limited =>
      rw [agree.limits] at limited
      obtain ⟨limited, full⟩ := filter_depthLimit_eq_some_iff.mp limited
      rw [agree.forms name named] at found
      rw [matchRule_limited found fresh limited full]
  | case4 active name cursor _ body found fresh unlimited ih =>
      rw [agree.limits] at unlimited
      have room := filter_depthLimit_eq_none_iff.mp unlimited
      have inner := agree.closed name body named found
      rw [agree.forms name named] at found
      have inside := Form.matchWith_congr body fun later member => funext fun place =>
        ih later place (inner later member)
      rw [matchRule_entered found fresh room, inside]

theorem matchAt_eq (agree : AgreeOn names grammar other) {form : Form Pattern}
    (named : ∀ name ∈ form.references, names name) (cursor : Cursor source) :
    grammar.matchAt form cursor = other.matchAt form cursor := by
  have alike : (form.matchWith (grammar.matchRule []) : Cursor source → Outcome source) =
      form.matchWith (other.matchRule []) :=
    Form.matchWith_congr form fun name member => funext fun later =>
      agree.matchRule_eq (named name member) [] later
  rw [matchAt, matchAt, alike]

theorem matchForm_eq (agree : AgreeOn names grammar other) {form : Form Pattern}
    (named : ∀ name ∈ form.references, names name) (source : String) (position : Position) :
    grammar.matchForm form source position = other.matchForm form source position := by
  rw [matchForm, matchForm, matchChars, matchChars]
  cases Cursor.at? source.toList position with
  | none => rfl
  | some cursor => simp only [agree.matchAt_eq named cursor]

theorem parse_eq (agree : AgreeOn names grammar other) (roots : grammar.root = other.root)
    (named : names grammar.root) (source : String) : grammar.parse source = other.parse source := by
  rw [parse, parse, parseChars, parseChars, ← roots, agree.matchRule_eq named]

end AgreeOn

end Grammar

end TextGrammar
