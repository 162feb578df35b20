import TextGrammar.Proofs.Collapsing
import TextGrammar.Proofs.Compiling
import TextGrammar.Proofs.Correspondence
import TextGrammar.Proofs.Reports
import TextGrammar.Proofs.ValueParts

/-! A grammar without sequences of one form means what it meant with them. Its matches are made of
other trees, but the values of these have the same parts, since the value of a sequence of one is
made of the parts of that one. All that changes is how a node says nothing: by an empty text or by
an empty list. -/

namespace TextGrammar

namespace Value

def orEmptyText : Value → Value
  | .list [] => .text ""
  | value => value

mutual

/-- A value in whose nodes, at every depth, there is an empty text in the place of an empty list. -/
def withEmptyTexts : Value → Value
  | .text content => .text content
  | .list items => .list (withEmptyTextsAll items)
  | .node rule value start stop => .node rule value.withEmptyTexts.orEmptyText start stop

def withEmptyTextsAll : List Value → List Value
  | [] => []
  | item :: rest => item.withEmptyTexts :: withEmptyTextsAll rest

end

theorem withEmptyTextsAll_eq_map (items : List Value) :
    withEmptyTextsAll items = items.map withEmptyTexts := by
  induction items with
  | nil => rfl
  | cons item rest ih => rw [withEmptyTextsAll, ih, List.map_cons]

theorem withEmptyTexts_join (items : List Value) :
    (join items).withEmptyTexts = join (items.map withEmptyTexts) := by
  match items with
  | [] => rfl
  | [item] => rfl
  | _ :: _ :: _ => exact congrArg Value.list (withEmptyTextsAll_eq_map _)

theorem orEmptyText_of_isEmpty {value : Value} (nothing : value.isEmpty) :
    value.withEmptyTexts.orEmptyText = .text "" := by
  cases value with
  | text content =>
      have blank : content = "" := by simpa [isEmpty] using nothing
      rw [blank]
      rfl
  | list items =>
      rw [List.isEmpty_iff.mp nothing]
      rfl
  | node rule value start stop => cases nothing

end Value

def Node.withEmptyTexts (node : Node) : Node :=
  { node with value := node.value.withEmptyTexts.orEmptyText }

namespace MatchTree

/-- The values of two matches have the same parts, if a node that says nothing may do so in either
way. -/
def SameParts (tree image : MatchTree) : Prop :=
  tree.asValue.parts.map Value.withEmptyTexts = image.asValue.parts.map Value.withEmptyTexts

namespace SameParts

variable {tree image : MatchTree} {trees images : List MatchTree}

theorem all (each : List.Forall₂ SameParts trees images) :
    (partsOfAll trees).map Value.withEmptyTexts = (partsOfAll images).map Value.withEmptyTexts := by
  induction each with
  | nil => rfl
  | cons first _ ih => rw [partsOfAll, partsOfAll, List.map_append, List.map_append, first, ih]

theorem value_eq (same : SameParts tree image) :
    tree.asValue.withEmptyTexts.orEmptyText = image.asValue.withEmptyTexts.orEmptyText := by
  have none : tree.asValue.parts = [] ↔ image.asValue.parts = [] := by
    rw [← List.map_eq_nil_iff (f := Value.withEmptyTexts), same, List.map_eq_nil_iff]
  -- Only without parts can the values differ, and then both are read as an empty text.
  by_cases nothing : tree.asValue.parts = []
  · rw [Value.orEmptyText_of_isEmpty (Value.parts_eq_nil_iff.mp nothing),
      Value.orEmptyText_of_isEmpty (Value.parts_eq_nil_iff.mp (none.mp nothing))]
  · rw [← join_parts nothing, ← join_parts (mt none.mpr nothing), Value.withEmptyTexts_join,
      Value.withEmptyTexts_join, same]

theorem sequence_singleton (same : SameParts tree image) (start stop : Position) :
    SameParts (.sequence start stop [tree]) image := by
  rw [SameParts, parts_sequence, partsOfAll, partsOfAll, List.append_nil]
  exact same

theorem rule (same : SameParts tree image) (start stop : Position) (name : String) :
    SameParts (.rule start stop name tree) (.rule start stop name image) := by
  rw [SameParts, asValue, asValue, Value.isPart_node, Value.isPart_node, List.map_singleton,
    List.map_singleton, Value.withEmptyTexts, Value.withEmptyTexts, same.value_eq]

end SameParts

end MatchTree

theorem Form.collapseAll_eq_map {α : Type} (forms : List (Form α)) :
    collapseAll forms = forms.map collapse := by
  induction forms with
  | nil => rfl
  | cons form rest ih => rw [collapseAll, ih, List.map_cons]

theorem Form.references_inOrder {α : Type} (forms : List (Form α)) :
    (inOrder forms).references = referencesAll forms := by
  match forms with
  | [] => rfl
  | [form] => simp [inOrder, referencesAll]
  | _ :: _ :: _ => rfl

mutual

theorem Form.references_collapse {α : Type} : ∀ form : Form α,
    form.collapse.references = form.references
  | .literal _ => rfl
  | .leaf _ => rfl
  | .sequence forms => by
      rw [collapse_sequence, references_inOrder, referencesAll_collapseAll forms, references]
  | .oneOf forms => by rw [collapse, references, referencesAll_collapseAll forms, references]
  | .manyOf form => by rw [collapse, references, references_collapse form, references]
  | .optional form => by rw [collapse, references, references_collapse form, references]
  | .reference _ => rfl
  | .except form _ => by rw [collapse, references, references_collapse form, references]

theorem Form.referencesAll_collapseAll {α : Type} : ∀ forms : List (Form α),
    referencesAll (collapseAll forms) = referencesAll forms
  | [] => rfl
  | form :: rest => by
      rw [collapseAll, referencesAll, references_collapse form, referencesAll_collapseAll rest,
        referencesAll]

end

/-- Positions stay, forms lose their sequences of one form, and values have the same parts. -/
def collapsing : Correspondence where
  origin := .start
  form := Form.collapse
  tree := MatchTree.SameParts

theorem collapsing_lawful : collapsing.Lawful where
  literal _ := rfl
  leaf _ := rfl
  sequence forms := by
    by_cases one : forms.length = 1
    · rcases List.length_eq_one_iff.mp one with ⟨only, rfl⟩
      refine .inr ⟨only, rfl, rfl, ?_⟩
      intro start stop tree image same
      exact same.sequence_singleton start stop
    · refine .inl ⟨?_, ?_⟩
      · have several : (forms.map Form.collapse).length ≠ 1 := by
          rw [List.length_map]
          exact one
        change (Form.sequence forms).collapse = _
        rw [Form.collapse_sequence, Form.collapseAll_eq_map,
          Form.inOrder_of_length_ne_one several]
        rfl
      · intro start stop trees images each
        change MatchTree.SameParts _ _
        rw [MatchTree.SameParts, MatchTree.parts_sequence, MatchTree.parts_sequence]
        exact MatchTree.SameParts.all each
  oneOf forms := by
    change (Form.oneOf forms).collapse = _
    rw [Form.collapse, Form.collapseAll_eq_map]
    rfl
  manyOf _ := rfl
  optional _ := rfl
  reference _ := rfl
  except _ _ := rfl
  text _ _ _ := rfl
  empty _ _ := rfl
  repetition start stop trees images each := by
    change MatchTree.SameParts _ _
    rw [MatchTree.SameParts, MatchTree.parts_repetition, MatchTree.parts_repetition]
    exact MatchTree.SameParts.all each
  rule start stop name body image same := by
    have whole := same.rule start stop name
    simpa [collapsing] using whole

namespace Grammar

def collapsed (grammar : Grammar) : Grammar :=
  { grammar with rules := grammar.rules.map fun rule => ⟨rule.name, rule.form.collapse⟩ }

theorem form?_collapsed (grammar : Grammar) (name : String) :
    grammar.collapsed.form? name = (grammar.form? name).map Form.collapse := by
  simp [form?, lookUp, collapsed, List.find?_map, Option.map_map, Function.comp_def]

theorem names_collapsed (grammar : Grammar) :
    grammar.collapsed.rules.map (·.name) = grammar.rules.map (·.name) := by
  simp [collapsed, Function.comp_def]

theorem compile_collapsed [RegexEngine] {definitions : List (String × Draft)} {grammar : Grammar}
    (compiled : compile definitions = .ok grammar) :
    compile (grammar.collapsed.rules.map fun rule => (rule.name, .leaf (.finished rule.form))) =
      .ok grammar.collapsed := by
  have before := compile_eq_ok_iff.mp compiled
  have names := grammar.names_collapsed
  have named : WellNamed grammar.collapsed.rules := by
    constructor
    · rw [names]
      exact before.named.distinct
    · rw [names]
      exact before.named.unreserved
  have rooted : rootName ∈ grammar.collapsed.ruleNames := by
    rw [ruleNames, names]
    exact before.rooted
  have closed : Closed grammar.collapsed.rules := by
    intro rule member name referred
    rcases List.mem_map.mp member with ⟨original, among, rfl⟩
    rw [Form.references_collapse] at referred
    rw [names]
    exact before.closed original among name referred
  refine compile_eq_ok_iff.mpr ⟨?_, named, rooted, closed, before.root, before.depthLimit⟩
  rw [List.forall₂_map_left_iff]
  exact List.forall₂_same.mpr fun rule _ => ⟨rfl, rfl⟩

theorem between_collapsing (grammar : Grammar) :
    collapsing.Between grammar grammar.collapsed where
  forms := grammar.form?_collapsed
  limits := rfl

theorem finish_of_answers {source : List Char} {outcome image : Outcome source}
    (answers : collapsing.Answers collapsing.tree outcome image) (root : String) :
    (∃ node imageNode, finish root outcome = .ok node ∧ finish root image = .ok imageNode ∧
        imageNode.stop = node.stop ∧ imageNode.withEmptyTexts = node.withEmptyTexts) ∨
      ∃ error : MatchError (Form Pattern), finish root outcome = .error error.report ∧
        finish root image = .error (error.map Form.collapse).report := by
  cases answers with
  | failed error =>
      refine .inr ⟨error, rfl, ?_⟩
      rw [finish, Correspondence.failure]
      exact congrArg (fun failure => Except.error failure.report) (MatchError.shift_start _)
  | @matched body behind imageBody later same moved =>
      cases moved.eq_of_start
      by_cases done : behind.rest.isEmpty
      · left
        refine ⟨⟨root, body.asValue, .start, behind.position⟩,
          ⟨root, imageBody.asValue, .start, behind.position⟩, ?_, ?_, rfl, ?_⟩
        · rw [finish, if_pos done]
        · rw [finish, if_pos done]
        · rw [Node.withEmptyTexts, Node.withEmptyTexts, MatchTree.SameParts.value_eq same]
      · right
        refine ⟨⟨some root, .trailing root, behind.position⟩, ?_, ?_⟩
        · rw [finish, if_neg done]
          rfl
        · rw [finish, if_neg done]
          rfl

/-- A grammar and the one without sequences of one form parse a source alike. They both succeed,
with the same node if an empty list in a node is read as an empty text, or they both fail, with the
same failure except that the form that was expected has lost its sequences of one form too. -/
theorem collapsing_preserves_parses (grammar : Grammar) (source : String) :
    (∃ node image, grammar.parse source = .ok node ∧ grammar.collapsed.parse source = .ok image ∧
        image.stop = node.stop ∧ image.withEmptyTexts = node.withEmptyTexts) ∨
      ∃ error : MatchError (Form Pattern), grammar.parse source = .error error.report ∧
        grammar.collapsed.parse source = .error (error.map Form.collapse).report := by
  have first : (Cursor.atStart source.toList).Shifted .start (Cursor.atStart source.toList) :=
    ⟨(Position.start_shift _).symm, rfl⟩
  have answers :=
    grammar.between_collapsing.matchRule_answers collapsing_lawful [] grammar.root first
  rw [parse_eq_finish, parse_eq_finish]
  exact finish_of_answers answers grammar.root

def wrapped : Grammar := ⟨[⟨"Root", .sequence [.optional (.literal "x")]⟩], "Root", none⟩

example : wrapped.parse "" = .ok ⟨"Root", .list [], .start, .start⟩ ∧
    wrapped.collapsed.parse "" = .ok ⟨"Root", .text "", .start, .start⟩ := by
  with_unfolding_all exact ⟨rfl, rfl⟩

end Grammar

end TextGrammar
