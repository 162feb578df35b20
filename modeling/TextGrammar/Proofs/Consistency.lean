import TextGrammar.Session
import TextGrammar.Proofs.FailureOrigins
import TextGrammar.Proofs.NameIndex

/-! What stays true of a grammar in a session, whatever is asked of it: its names, its index, its
root and its references are in order. So no match fails for a rule that is missing, unless the form
that was asked for refers to it itself. -/

namespace TextGrammar.Grammar

/-- Where references are to rules, only a form that is none of theirs can refer to a missing one. -/
theorem Origin.missing {grammar : Grammar} {source : List Char} {asked owner : Form Pattern}
    {error : MatchError (Form Pattern)} {goal : Goal source} {name : String}
    (origin : grammar.Origin asked error goal owner) (closed : Closed grammar.rules)
    (reason : error.reason = .undefinedRule name) :
    name ∈ asked.references ∧ name ∉ grammar.ruleNames := by
  rcases origin with ⟨trail, part, raised, _, _⟩
  rw [reason] at raised
  rcases goal with ⟨active, form, cursor⟩
  cases raised with
  | undefined missing =>
      have absent : name ∉ grammar.ruleNames :=
        isNone_lookUp_iff.mp (Option.isNone_iff_eq_none.mpr missing)
      have referred : name ∈ owner.references := (Form.mem_references_iff name owner).mpr part
      cases active with
      | nil =>
          rw [trail.unentered rfl] at referred
          exact ⟨referred, absent⟩
      | cons entry rest =>
          have member := mem_of_lookUp_eq_some (trail.innermost entry rfl)
          exact absurd (closed _ member name referred) absent

section Engine

variable [RegexEngine]

/-- The names, the references and the root of a grammar are in order, and its index is the one that
some definitions were compiled with. -/
structure Consistent (grammar : Grammar) : Prop where
  named : WellNamed grammar.rules
  closed : Closed grammar.rules
  rooted : rootName ∈ grammar.ruleNames
  startable : grammar.root ∈ grammar.ruleNames
  indexed : ∃ definitions compiled, compileIndexed definitions = .ok (compiled, grammar.places) ∧
    compiled.rules = grammar.rules

inductive Built (grammar : Grammar) : Prop
  | compile {definitions} (compiled : compile definitions = .ok grammar)
  | ofJson {json} (read : ofJson json = .ok grammar)
  | ofText {text} (read : ofText text = .ok grammar)

def Reachable (grammar : Grammar) : Prop :=
  ∃ built requests, Built built ∧ grammar = (built.respondAll requests).1

section

variable {grammar next : Grammar} {request : Request}

/-- A request that changes a grammar is accepted. It gives it another root or another limit, or
compiles its rules again from their descriptions. -/
theorem respond_cases {answer : Except Refusal Answer}
    (answered : grammar.respond request = (next, answer)) :
    next = grammar ∨ (∃ accepted, answer = .ok accepted) ∧
      ((∃ name ∈ grammar.ruleNames, next = ⟨grammar.rules, name, grammar.depthLimit⟩) ∨
        (∃ limit, next = ⟨grammar.rules, grammar.root, limit⟩) ∨
        ofJson grammar.toJson = .ok next) := by
  cases request with
  | setRoot name =>
      by_cases present : name ∈ grammar.ruleNames
      · simp only [respond, setRoot_of_mem present] at answered
        cases answered
        exact .inr ⟨⟨_, rfl⟩, .inl ⟨name, present, rfl⟩⟩
      · simp only [respond, setRoot_of_not_mem present] at answered
        cases answered
        exact .inl rfl
  | setDepthLimit limit =>
      cases answered
      exact .inr ⟨⟨_, rfl⟩, .inr (.inl ⟨limit, rfl⟩)⟩
  | reload =>
      simp only [respond] at answered
      split at answered <;> cases answered
      · rename_i read
        exact .inr ⟨⟨_, rfl⟩, .inr (.inr read)⟩
      · exact .inl rfl
  | parse source | matchForm draft source position | state | rule name | describe =>
      cases answered
      exact .inl rfl

theorem eq_of_refused {refusal : Refusal}
    (refused : grammar.respond request = (next, .error refusal)) : next = grammar := by
  rcases respond_cases refused with same | ⟨⟨_, accepted⟩, _⟩
  · exact same
  · cases accepted

theorem consistent_of_compile {definitions : List (String × Draft)}
    (compiled : compile definitions = .ok grammar) : grammar.Consistent := by
  have indexed := compileIndexed_eq definitions
  rw [compiled] at indexed
  rcases compile_eq_ok_iff.mp compiled with ⟨_, named, rooted, closed, root, _⟩
  have startable : grammar.root ∈ grammar.ruleNames := by
    rw [root]
    exact rooted
  exact ⟨named, closed, rooted, startable, definitions, grammar, indexed, rfl⟩

theorem consistent_of_ofJson {json : Json} (read : ofJson json = .ok grammar) :
    grammar.Consistent := by
  cases json with
  | object members => exact consistent_of_compile read
  | _ => cases read

theorem Built.consistent (built : Built grammar) : grammar.Consistent := by
  cases built with
  | compile compiled => exact consistent_of_compile compiled
  | ofJson read => exact consistent_of_ofJson read
  | @ofText text read =>
      rw [Grammar.ofText] at read
      split at read
      · exact consistent_of_ofJson read
      · cases read

namespace Consistent

theorem restarted {name : String} (consistent : grammar.Consistent)
    (startable : name ∈ grammar.ruleNames) (limit : Option Nat) :
    (⟨grammar.rules, name, limit⟩ : Grammar).Consistent :=
  ⟨consistent.named, consistent.closed, consistent.rooted, startable, consistent.indexed⟩

/-- One request leaves a grammar consistent, whether it is accepted or refused. -/
theorem respond (consistent : grammar.Consistent) (request : Request) :
    (grammar.respond request).1.Consistent := by
  generalize answered : grammar.respond request = result
  rcases result with ⟨next, answer⟩
  rcases respond_cases answered with rfl | ⟨_, ⟨name, present, rfl⟩ | ⟨limit, rfl⟩ | read⟩
  · exact consistent
  · exact consistent.restarted present _
  · exact consistent.restarted consistent.startable limit
  · exact consistent_of_ofJson read

theorem respondAll (consistent : grammar.Consistent) (requests : List Request) :
    (grammar.respondAll requests).1.Consistent := by
  induction requests generalizing grammar with
  | nil => exact consistent
  | cons request rest ih => exact ih (consistent.respond request)

end Consistent

theorem Reachable.consistent (reachable : Reachable grammar) : grammar.Consistent := by
  rcases reachable with ⟨built, requests, start, rfl⟩
  exact start.consistent.respondAll requests

theorem Consistent.matchForm_undefinedRule {form : Form Pattern} {source : String}
    {position : Position} {error : MatchError String} {name : String}
    (consistent : grammar.Consistent)
    (failed : grammar.matchForm form source position = .error error)
    (reason : error.reason = .undefinedRule name) :
    name ∈ form.references ∧ name ∉ grammar.ruleNames := by
  rcases exists_origin_of_matchForm failed with
    ⟨_, rfl⟩ | ⟨original, goal, owner, rfl, origin, _⟩
  · cases reason
  · exact origin.missing consistent.closed (Reason.map_eq_undefinedRule_iff.mp reason)

theorem Consistent.parse_ne_undefinedRule {source : String} {error : MatchError String}
    (consistent : grammar.Consistent) (failed : grammar.parse source = .error error)
    (name : String) : error.reason ≠ .undefinedRule name := by
  intro reason
  rcases exists_origin_of_parse failed with
    ⟨_, _, _, _, rfl⟩ | ⟨original, goal, owner, rfl, origin, _⟩
  · cases reason
  · have missing := origin.missing consistent.closed (Reason.map_eq_undefinedRule_iff.mp reason)
    rcases missing with ⟨root, absent⟩
    have same : name = grammar.root := by simpa [Form.references] using root
    rw [same] at absent
    exact absent consistent.startable

/-- In every grammar of a session names are distinct, the index has exactly the places of the rules,
the root and all references are to rules, and what is refused changes nothing. So rules are found
through the index, never past their end, and none is missing, unless it is one that the form that
was asked for refers to itself. -/
theorem reachable_grammars_are_consistent {grammar : Grammar} (reachable : Reachable grammar) :
    (grammar.ruleNames.Nodup ∧ rootName ∈ grammar.ruleNames ∧ reservedName ∉ grammar.ruleNames ∧
      grammar.root ∈ grammar.ruleNames ∧
      ∀ rule ∈ grammar.rules, ∀ name, .reference name ∈ rule.form.subforms →
        name ∈ grammar.ruleNames) ∧
    ((∃ definitions compiled, compileIndexed definitions = .ok (compiled, grammar.places) ∧
        compiled.rules = grammar.rules) ∧
      (∀ (name : String) (place : Nat),
        grammar.places[name]? = some place ↔ grammar.ruleNames[place]? = some name) ∧
      (∀ (name : String) (place : Nat),
        grammar.places[name]? = some place → place < grammar.rules.length) ∧
      ∀ name, grammar.form? name =
        grammar.places[name]?.bind fun place => grammar.rules[place]?.map (·.form)) ∧
    (∀ request next refusal, grammar.respond request = (next, .error refusal) → next = grammar) ∧
    (∀ source error name, grammar.parse source = .error error →
      error.reason ≠ .undefinedRule name) ∧
    ∀ form source position error name, grammar.matchForm form source position = .error error →
      error.reason = .undefinedRule name →
        name ∈ form.references ∧ name ∉ grammar.ruleNames := by
  have consistent := reachable.consistent
  have placed (name : String) (place : Nat) :
      grammar.places[name]? = some place ↔ grammar.ruleNames[place]? = some name :=
    getElem?_placesOf_eq_some_iff consistent.named.distinct
  refine ⟨⟨consistent.named.distinct, consistent.rooted, consistent.named.unreserved,
    consistent.startable, ?_⟩, ⟨consistent.indexed, placed, ?_,
    form?_eq_of_places consistent.named.distinct⟩, ?_, ?_, ?_⟩
  · intro rule member name part
    exact consistent.closed rule member name ((Form.mem_references_iff name _).mpr part)
  · intro name place found
    have inside := (List.getElem?_eq_some_iff.mp ((placed name place).mp found)).1
    simpa [ruleNames] using inside
  · intro request next refusal refused
    exact eq_of_refused refused
  · intro source error name failed
    exact consistent.parse_ne_undefinedRule failed name
  · intro form source position error name failed reason
    exact consistent.matchForm_undefinedRule failed reason

end

end Engine

def greetings : List (String × Draft) :=
  [("Root", .sequence [.literal "hot", .reference "Animal"]), ("Animal", .literal "dog")]

def changes : List Request :=
  [.setRoot "Cat", .setRoot "Animal", .setDepthLimit (some 1), .parse "hotdog", .parse "dog"]

theorem reachable_grammars_are_consistent_greetings :
    ∃ built reached, compile greetings = .ok built ∧ reached = (built.respondAll changes).1 ∧
      Reachable reached ∧ reached.root = "Animal" ∧ reached.depthLimit = some 1 ∧
      reached.ruleNames.Nodup ∧
      (∀ source error name, reached.parse source = .error error →
        error.reason ≠ .undefinedRule name) ∧
      ∀ form source position error name, reached.matchForm form source position = .error error →
        error.reason = .undefinedRule name →
          name ∈ form.references ∧ name ∉ reached.ruleNames := by
  have session : (fun built => ((built.respondAll changes).1.root,
      (built.respondAll changes).1.depthLimit)) <$> compile greetings = .ok ("Animal", some 1) := by
    decide +kernel
  rcases ok_of_map_eq_ok session with ⟨built, compiled, same⟩
  rcases Prod.mk.inj same with ⟨root, limit⟩
  have reachable : Reachable (built.respondAll changes).1 :=
    ⟨built, changes, .compile compiled, rfl⟩
  rcases reachable_grammars_are_consistent reachable with ⟨⟨distinct, _⟩, _, _, parse, matchForm⟩
  exact ⟨built, _, compiled, rfl, reachable, root, limit, distinct, parse, matchForm⟩

end TextGrammar.Grammar
