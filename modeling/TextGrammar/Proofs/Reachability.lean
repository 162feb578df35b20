import TextGrammar.Proofs.Consistency
import TextGrammar.Proofs.Dependence

/-! A parse depends on the rules that can be reached from the root. Neither the other rules of a
grammar nor the order of its definitions have a part in it. -/

namespace TextGrammar.Grammar

variable {grammar other : Grammar} {form body : Form Pattern} {name inner : String}

/-- The rules that a form leads to are rules of another grammar too, and no rule that it refers to
and that is missing is one of the other grammar. -/
structure CarriedOver (grammar other : Grammar) (form : Form Pattern) : Prop where
  rules : ∀ rule ∈ grammar.rules, grammar.LeadsTo form rule.name → rule ∈ other.rules
  missing : ∀ name ∈ form.references, name ∉ grammar.ruleNames → name ∉ other.ruleNames

namespace CarriedOver

theorem missing_of_leadsTo (carried : CarriedOver grammar other form)
    (closed : Closed grammar.rules) (path : grammar.LeadsTo form name)
    (absent : name ∉ grammar.ruleNames) : name ∉ other.ruleNames := by
  rcases path with ⟨first, referred, steps⟩
  rcases steps.cases_tail with same | ⟨rule, _, ruleForm, found, reference⟩
  · rw [same] at absent ⊢
    exact carried.missing first referred absent
  · have member := mem_of_lookUp_eq_some found
    exact absurd (closed _ member name reference) absent

theorem form?_eq (carried : CarriedOver grammar other form) (closed : Closed grammar.rules)
    (distinct : other.ruleNames.Nodup) (path : grammar.LeadsTo form name) :
    grammar.form? name = other.form? name := by
  cases found : grammar.form? name with
  | none =>
      have absent : name ∉ grammar.ruleNames :=
        isNone_lookUp_iff.mp (Option.isNone_iff_eq_none.mpr found)
      have absentToo := carried.missing_of_leadsTo closed path absent
      exact (Option.isNone_iff_eq_none.mp (isNone_lookUp_iff.mpr absentToo)).symm
  | some body =>
      have member := carried.rules _ (mem_of_lookUp_eq_some found) path
      exact ((lookUp_eq_some_iff distinct).mpr member).symm

theorem agreeOn (carried : CarriedOver grammar other form) (closed : Closed grammar.rules)
    (distinct : other.ruleNames.Nodup) (limits : grammar.depthLimit = other.depthLimit) :
    AgreeOn (grammar.LeadsTo form) grammar other where
  forms _ path := carried.form?_eq closed distinct path
  closed _ body path found _ referred := path.tail ⟨body, found, referred⟩
  limits := limits

end CarriedOver

theorem carriedOver_of_root (startable : grammar.root ∈ grammar.ruleNames)
    (rules : ∀ rule ∈ grammar.rules,
      Relation.ReflTransGen grammar.Refers grammar.root rule.name → rule ∈ other.rules) :
    CarriedOver grammar other (.reference grammar.root) where
  rules rule member path := rules rule member (leadsTo_reference_iff.mp path)
  missing name referred absent := by
    rw [List.mem_singleton.mp referred] at absent
    exact absurd startable absent

/-- Two grammars of a session with one limit. If they have one root, and the rules that are reached
from it in the first are rules of the second, then they parse all sources alike. They match a form
alike if this is so for the rules that it leads to, and if a rule that it refers to is missing in
the second where it is missing in the first. -/
theorem only_reached_rules_matter [RegexEngine] (reachable : Reachable grammar)
    (reachableToo : Reachable other) (limits : grammar.depthLimit = other.depthLimit) :
    (grammar.root = other.root →
      (∀ rule ∈ grammar.rules,
        Relation.ReflTransGen grammar.Refers grammar.root rule.name → rule ∈ other.rules) →
      ∀ source, grammar.parse source = other.parse source) ∧
    ∀ form : Form Pattern,
      (∀ rule ∈ grammar.rules, grammar.LeadsTo form rule.name → rule ∈ other.rules) →
      (∀ name ∈ form.references, name ∉ grammar.ruleNames → name ∉ other.ruleNames) →
      ∀ source position,
        grammar.matchForm form source position = other.matchForm form source position := by
  have consistent := reachable.consistent
  have distinct := reachableToo.consistent.named.distinct
  constructor
  · intro roots rules source
    have carried := carriedOver_of_root consistent.startable rules
    have agree := carried.agreeOn consistent.closed distinct limits
    apply agree.parse_eq roots
    exact ⟨grammar.root, List.mem_cons_self, .refl⟩
  · intro form rules missing source position
    have carried : CarriedOver grammar other form := ⟨rules, missing⟩
    have agree := carried.agreeOn consistent.closed distinct limits
    apply agree.matchForm_eq
    intro name referred
    exact ⟨name, referred, .refl⟩

def withCat : List (String × Draft) := greetings ++ [("Cat", .literal "cat")]

def withTomcat : List (String × Draft) := ("Cat", .literal "tomcat") :: greetings.reverse

def catGrammar : Grammar :=
  ⟨[⟨"Root", .sequence [.literal "hot", .reference "Animal"]⟩, ⟨"Animal", .literal "dog"⟩,
    ⟨"Cat", .literal "cat"⟩], "Root", none⟩

def tomcatGrammar : Grammar :=
  ⟨[⟨"Cat", .literal "tomcat"⟩, ⟨"Animal", .literal "dog"⟩,
    ⟨"Root", .sequence [.literal "hot", .reference "Animal"]⟩], "Root", none⟩

theorem catGrammar_refers (refers : catGrammar.Refers name inner) : inner = "Animal" := by
  rcases refers with ⟨form, found, referred⟩
  have member := mem_of_lookUp_eq_some found
  simp only [catGrammar, List.mem_cons, Rule.mk.injEq, List.not_mem_nil, or_false] at member
  rcases member with ⟨rfl, rfl⟩ | ⟨rfl, rfl⟩ | ⟨rfl, rfl⟩
  · simpa [Form.references, Form.referencesAll] using referred
  · simp [Form.references] at referred
  · simp [Form.references] at referred

theorem ne_cat_of_steps (steps : Relation.ReflTransGen catGrammar.Refers name inner)
    (different : name ≠ "Cat") : inner ≠ "Cat" := by
  rcases steps.cases_tail with rfl | ⟨_, _, refers⟩
  · exact different
  · rw [catGrammar_refers refers]
    decide

theorem mem_tomcatGrammar {rule : Rule} (member : rule ∈ catGrammar.rules)
    (different : rule.name ≠ "Cat") : rule ∈ tomcatGrammar.rules := by
  simp only [catGrammar, List.mem_cons, List.not_mem_nil, or_false] at member
  rcases member with rfl | rfl | rfl
  · simp [tomcatGrammar]
  · simp [tomcatGrammar]
  · exact absurd rfl different

theorem only_reached_rules_matter_greetings :
    compile withCat = .ok catGrammar ∧ compile withTomcat = .ok tomcatGrammar ∧
      (∀ source, catGrammar.parse source = tomcatGrammar.parse source) ∧
      ∀ source position,
        catGrammar.matchForm (.oneOf [.reference "Animal", .reference "Bird"]) source position =
          tomcatGrammar.matchForm (.oneOf [.reference "Animal", .reference "Bird"]) source
            position := by
  have compiled : compile withCat = .ok catGrammar := by rfl
  have compiledToo : compile withTomcat = .ok tomcatGrammar := by rfl
  have reachable : Reachable catGrammar := ⟨catGrammar, [], .compile compiled, rfl⟩
  have reachableToo : Reachable tomcatGrammar := ⟨tomcatGrammar, [], .compile compiledToo, rfl⟩
  rcases only_reached_rules_matter reachable reachableToo rfl with ⟨parsed, matched⟩
  refine ⟨compiled, compiledToo, ?_, ?_⟩
  · apply parsed rfl
    intro rule member path
    exact mem_tomcatGrammar member (ne_cat_of_steps path (by decide))
  · apply matched
    · intro rule member path
      rcases path with ⟨first, referred, steps⟩
      apply mem_tomcatGrammar member
      apply ne_cat_of_steps steps
      rintro rfl
      simp [Form.references, Form.referencesAll] at referred
    · simp [Form.references, Form.referencesAll, ruleNames, catGrammar, tomcatGrammar]

end TextGrammar.Grammar
