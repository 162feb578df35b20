import Mathlib.Data.List.Infix
import TextGrammar.Proofs.Reports
import TextGrammar.Proofs.Subforms

/-! Where failures come from. When a part of a form fails for good, each of the rules that are being
matched is referred to in the form of the one around it, and the part belongs to the form of the
innermost. That rule is the one that the failure is attributed to. -/

namespace TextGrammar

variable {source : List Char}

namespace Form

/-- The forms that fail because they were expected. Sequences and references pass on the failures of
others, and an optional form has none. -/
def CanBeExpected {α : Type} : Form α → Prop
  | .literal _ | .leaf _ | .oneOf _ | .manyOf _ | .except _ _ => True
  | .sequence _ | .optional _ | .reference _ => False

inductive Fails (resolve : String → Cursor source → Outcome source) (form : Form Pattern)
    (cursor : Cursor source) : MatchError (Form Pattern) → Prop
  | part {part later} (after : cursor ≤ later) (inside : part ∈ form.subforms)
      (own : part.CanBeExpected) : Fails resolve form cursor (part.expected later)
  | reference {name later error} (after : cursor ≤ later) (referred : name ∈ form.references)
      (failed : resolve name later = .error error) : Fails resolve form cursor error

variable {resolve : String → Cursor source → Outcome source} {form whole : Form Pattern}
  {cursor later : Cursor source} {error : MatchError (Form Pattern)}

theorem Fails.of_part (failure : Fails resolve form later error) (after : cursor ≤ later)
    (parts : ∀ part ∈ form.subforms, part.CanBeExpected → part ∈ whole.subforms)
    (references : ∀ name ∈ form.references, name ∈ whole.references) :
    Fails resolve whole cursor error := by
  cases failure with
  | part further inside own => exact .part (after.trans further) (parts _ inside own) own
  | reference further referred failed =>
      exact .reference (after.trans further) (references _ referred) failed

theorem Fails.of_fatal (failure : Fails resolve form cursor error) (fatal : error.reason.isFatal)
    (references : ∀ name ∈ form.references, name ∈ whole.references) :
    Fails resolve whole cursor error := by
  cases failure with
  | part => cases fatal
  | reference after referred failed => exact .reference after (references _ referred) failed

/-- Failures that are recovered from leave no trace, so whatever a form fails with is due to one of
its own parts or to one of its references. -/
theorem fails_of_matchWith
    (forward : ∀ name cursor tree behind, resolve name cursor = .ok (tree, behind) →
      cursor ≤ behind)
    (failed : form.matchWith resolve cursor = .error error) : Fails resolve form cursor error := by
  induction form, cursor using match_induction generalizing error with
  | literal text cursor =>
      rw [matchWith] at failed
      split at failed <;> cases failed
      exact .part le_rfl (self_mem_subforms _) trivial
  | leaf pattern cursor =>
      rw [matchWith] at failed
      split at failed <;> cases failed
      exact .part le_rfl (self_mem_subforms _) trivial
  | sequence_nil cursor =>
      rw [matchWith_sequence_nil] at failed
      cases failed
  | sequence_cons form rest cursor first others =>
      rw [matchWith_sequence_cons] at failed
      split at failed
      · rename_i head
        cases failed
        apply (first head).of_part le_rfl
        · intro part inside _
          simp [subforms, subformsOfAll, inside]
        · intro name referred
          simp [references, referencesAll, referred]
      · rename_i behind head
        split at failed <;> cases failed
        rename_i tail
        have after := le_of_matchWith forward head
        apply (others behind tail).of_part after
        · intro part inside own
          -- The sequence of the others is no part of the whole, but it is not expected either.
          rcases List.mem_cons.mp inside with rfl | deeper
          · cases own
          · simp [subforms, subformsOfAll, deeper]
        · intro name referred
          exact List.mem_append_right _ referred
  | oneOf_nil cursor =>
      rw [matchWith_oneOf_nil] at failed
      cases failed
      exact .part le_rfl (self_mem_subforms _) trivial
  | oneOf_cons form rest cursor first others =>
      rw [matchWith_oneOf_cons] at failed
      split at failed
      · cases failed
      · rename_i head
        split at failed
        · cases failed
          apply (first head).of_part le_rfl
          · intro part inside _
            simp [subforms, subformsOfAll, inside]
          · intro name referred
            simp [references, referencesAll, referred]
        · split at failed
          · cases failed
          · rename_i tail
            split at failed <;> cases failed
            · rename_i fatal
              apply (others tail).of_fatal fatal
              intro name referred
              exact List.mem_append_right _ referred
            · exact .part le_rfl (self_mem_subforms _) trivial
  | manyOf form cursor once again =>
      rw [matchWith_manyOf] at failed
      split at failed
      · rename_i head
        split at failed <;> cases failed
        · rename_i fatal
          exact (once head).of_fatal fatal fun name referred => referred
        · exact .part le_rfl (self_mem_subforms _) trivial
      · rename_i behind head
        split at failed
        · rename_i moved
          split at failed
          · rename_i tail
            split at failed <;> cases failed
            have after := Cursor.le_of_offset_lt moved
            exact (again behind moved tail).of_part after (fun part inside _ => inside)
              fun name referred => referred
          · cases failed
        · cases failed
  | optional form cursor ih =>
      rw [matchWith] at failed
      split at failed
      · cases failed
      · rename_i head
        split at failed <;> cases failed
        rename_i fatal
        exact (ih head).of_fatal fatal fun name referred => referred
  | reference name cursor =>
      rw [matchWith] at failed
      split at failed <;> cases failed
      rename_i rule
      exact .reference le_rfl List.mem_cons_self rule
  | except form exclusions cursor ih =>
      rw [matchWith] at failed
      split at failed
      · rename_i head
        cases failed
        exact (ih head).of_part le_rfl (fun part inside _ => List.mem_cons_of_mem _ inside)
          fun name referred => referred
      · split at failed <;> cases failed
        exact .part le_rfl (self_mem_subforms _) trivial

end Form

namespace Grammar

def Refers (grammar : Grammar) (rule name : String) : Prop :=
  ∃ form, grammar.form? rule = some form ∧ name ∈ form.references

def LeadsTo (grammar : Grammar) (form : Form Pattern) (name : String) : Prop :=
  ∃ first ∈ form.references, Relation.ReflTransGen grammar.Refers first name

theorem leadsTo_reference_iff {grammar : Grammar} {first name : String} :
    grammar.LeadsTo (.reference first) name ↔ Relation.ReflTransGen grammar.Refers first name := by
  simp [LeadsTo, Form.references]

theorem LeadsTo.tail {grammar : Grammar} {form : Form Pattern} {rule name : String}
    (path : grammar.LeadsTo form rule) (refers : grammar.Refers rule name) :
    grammar.LeadsTo form name := by
  rcases path with ⟨first, referred, steps⟩
  exact ⟨first, referred, steps.tail refers⟩

/-- The rules that are being matched since some form was asked for, innermost first, and the form of
the innermost: how they were entered one from the other up to a cursor. -/
structure Trail (grammar : Grammar) (asked : Form Pattern) (active : List ActiveRule)
    (form : Form Pattern) (cursor : Cursor source) : Prop where
  distinct : active.Nodup
  ordered : active.Pairwise fun inner outer => outer.offset ≤ inner.offset
  passed : ∀ entry ∈ active, entry.offset ≤ cursor.position.offset
  linked : active.IsChain fun inner outer => grammar.Refers outer.rule inner.rule
  outermost : ∀ entry ∈ active.getLast?, entry.rule ∈ asked.references
  reached : ∀ entry ∈ active, grammar.LeadsTo asked entry.rule
  innermost : ∀ entry ∈ active.head?, grammar.form? entry.rule = some form
  unentered : active = [] → form = asked
  room : ∀ limit, grammar.depthLimit = some limit → active.length ≤ limit

namespace Trail

variable {grammar : Grammar} {asked form body : Form Pattern} {active : List ActiveRule}
  {cursor later : Cursor source} {name : String}

theorem start (grammar : Grammar) (asked : Form Pattern) (cursor : Cursor source) :
    grammar.Trail asked [] asked cursor where
  distinct := List.nodup_nil
  ordered := .nil
  passed := by simp
  linked := .nil
  outermost := by simp
  reached := by simp
  innermost := by simp
  unentered := by simp
  room := by simp

theorem forward (trail : grammar.Trail asked active form cursor) (after : cursor ≤ later) :
    grammar.Trail asked active form later where
  distinct := trail.distinct
  ordered := trail.ordered
  passed entry member := (trail.passed entry member).trans (Cursor.offset_le_of_le after)
  linked := trail.linked
  outermost := trail.outermost
  reached := trail.reached
  innermost := trail.innermost
  unentered := trail.unentered
  room := trail.room

theorem refers {entry : ActiveRule} (trail : grammar.Trail asked (entry :: active) form cursor)
    (referred : name ∈ form.references) : grammar.Refers entry.rule name :=
  ⟨form, trail.innermost entry rfl, referred⟩

theorem enter (trail : grammar.Trail asked active form cursor) (referred : name ∈ form.references)
    (found : grammar.form? name = some body) (fresh : ⟨name, cursor.position.offset⟩ ∉ active)
    (room : grammar.HasRoom active) :
    grammar.Trail asked (⟨name, cursor.position.offset⟩ :: active) body cursor where
  distinct := List.nodup_cons.mpr ⟨fresh, trail.distinct⟩
  ordered := List.pairwise_cons.mpr ⟨trail.passed, trail.ordered⟩
  passed := List.forall_mem_cons.mpr ⟨le_rfl, trail.passed⟩
  linked := by
    cases active with
    | nil => exact .singleton _
    | cons entry rest => exact .cons_cons (trail.refers referred) trail.linked
  outermost := by
    cases active with
    | nil =>
        rw [trail.unentered rfl] at referred
        simpa using referred
    | cons entry rest =>
        have last := trail.outermost
        simpa using last
  reached := by
    refine List.forall_mem_cons.mpr ⟨?_, trail.reached⟩
    cases active with
    | nil =>
        rw [trail.unentered rfl] at referred
        exact ⟨name, referred, .refl⟩
    | cons entry rest =>
        exact (trail.reached entry List.mem_cons_self).tail (trail.refers referred)
  innermost := by simpa using found
  unentered := by simp
  room limit limited := room limit limited

end Trail

/-- A goal where a failure comes from: its form is a part of the form of the innermost rule. -/
structure Origin (grammar : Grammar) (asked : Form Pattern) (error : MatchError (Form Pattern))
    (goal : Goal source) (owner : Form Pattern) : Prop where
  trail : grammar.Trail asked goal.active owner goal.cursor
  part : goal.form ∈ owner.subforms
  raised : grammar.Raises goal error.reason
  own : ∀ form, error.reason = .expected form → form.CanBeExpected
  place : error.position = goal.cursor.position

section

variable {grammar : Grammar} {asked form owner : Form Pattern} {active : List ActiveRule}
  {name : String} {cursor : Cursor source} {error : MatchError (Form Pattern)} {goal : Goal source}

theorem Origin.within (origin : grammar.Origin asked error goal owner) :
    grammar.Origin asked (error.within name) goal owner :=
  ⟨origin.trail, origin.part, origin.raised, origin.own, origin.place⟩

theorem Trail.origin_of_part {part : Form Pattern}
    (trail : grammar.Trail asked active form cursor) (inside : part ∈ form.subforms)
    (own : part.CanBeExpected) :
    grammar.Origin asked (part.expected cursor) ⟨active, part, cursor⟩ form where
  trail := trail
  part := inside
  raised := .expected
  own := by
    rintro other ⟨⟩
    exact own
  place := rfl

theorem Trail.origin_of_reference {reason : Reason (Form Pattern)}
    (trail : grammar.Trail asked active form cursor) (referred : name ∈ form.references)
    (raised : grammar.Raises ⟨active, .reference name, cursor⟩ reason)
    (entry : ∀ other, reason ≠ .expected other) :
    grammar.Origin asked ⟨none, reason, cursor.position⟩ ⟨active, .reference name, cursor⟩
      form where
  trail := trail
  part := (Form.mem_references_iff name form).mp referred
  raised := raised
  own := fun other same => absurd same (entry other)
  place := rfl

/-- A rule fails where it is to be entered, and the failure is not attributed yet, or it fails
inside and the failure is attributed to the innermost rule. -/
theorem exists_origin_of_matchRule (trail : grammar.Trail asked active form cursor)
    (referred : name ∈ form.references)
    (failed : grammar.matchRule active name cursor = .error error) :
    ∃ (goal : Goal source) (owner : Form Pattern), grammar.Origin asked error goal owner ∧
      ((goal.active = active ∧ error.rule = none) ∨
        (⟨name, cursor.position.offset⟩ :: active <:+ goal.active ∧
          error.rule = goal.active.head?.map (·.rule))) := by
  fun_induction grammar.matchRule active name cursor generalizing form error with
  | case1 active name cursor missing =>
      cases failed
      exact ⟨_, form, trail.origin_of_reference referred (.undefined missing) (by simp),
        .inl ⟨rfl, rfl⟩⟩
  | case2 active name cursor =>
      rename_i body found taken
      cases failed
      exact ⟨_, form, trail.origin_of_reference referred (.circular found taken) (by simp),
        .inl ⟨rfl, rfl⟩⟩
  | case3 active name cursor =>
      rename_i body found fresh limit limited
      cases failed
      rcases filter_depthLimit_eq_some_iff.mp limited with ⟨limited, full⟩
      have raised := Raises.depthLimit found fresh limited full
      exact ⟨_, form, trail.origin_of_reference referred raised (by simp), .inl ⟨rfl, rfl⟩⟩
  | case4 active name cursor =>
      rename_i body found fresh unlimited ih
      have room := filter_depthLimit_eq_none_iff.mp unlimited
      have entered := trail.enter referred found fresh room
      rcases error_of_mapError_eq_error failed with ⟨original, bodyFailed, rfl⟩
      cases Form.fails_of_matchWith (fun _ _ _ _ => le_of_matchRule) bodyFailed with
      | part after inside own =>
          have origin := (entered.forward after).origin_of_part inside own
          exact ⟨_, body, origin.within, .inr ⟨List.suffix_rfl, rfl⟩⟩
      | @reference inner later _ after deeper failed =>
          rcases ih inner later (entered.forward after) deeper failed with
            ⟨goal, owner, origin, ⟨same, unattributed⟩ | ⟨further, attributed⟩⟩
          · refine ⟨goal, owner, origin.within, .inr ⟨?_, ?_⟩⟩
            · rw [same]
            · rw [MatchError.within, unattributed, same]
              rfl
          · have outer := (List.suffix_cons _ _).trans further
            refine ⟨goal, owner, origin.within, .inr ⟨outer, ?_⟩⟩
            cases rules : goal.active with
            | nil =>
                rw [rules] at further
                exact absurd (List.suffix_nil.mp further) (List.cons_ne_nil _ _)
            | cons innermost others =>
                rw [rules] at attributed
                simp [MatchError.within, attributed]

/-- A failure of the form that was asked for is attributed to the innermost of the rules that are
being matched where it comes from, and to none if there is no such rule. -/
theorem exists_origin_of_matchAt (failed : grammar.matchAt asked cursor = .error error) :
    ∃ (goal : Goal source) (owner : Form Pattern), grammar.Origin asked error goal owner ∧
      error.rule = goal.active.head?.map (·.rule) := by
  have trail := Trail.start grammar asked cursor
  cases Form.fails_of_matchWith (fun _ _ _ _ => le_of_matchRule) failed with
  | part after inside own =>
      exact ⟨_, asked, (trail.forward after).origin_of_part inside own, rfl⟩
  | reference after referred failed =>
      rcases exists_origin_of_matchRule (trail.forward after) referred failed with
        ⟨goal, owner, origin, ⟨same, unattributed⟩ | ⟨_, attributed⟩⟩
      · refine ⟨goal, owner, origin, ?_⟩
        rw [same, unattributed]
        rfl
      · exact ⟨goal, owner, origin, attributed⟩

theorem exists_origin_of_root (failed : grammar.matchRule [] name cursor = .error error) :
    ∃ (goal : Goal source) (owner : Form Pattern),
      grammar.Origin (.reference name) error goal owner ∧
        error.rule = goal.active.head?.map (·.rule) ∧
        (goal.active = [] ∨ [⟨name, cursor.position.offset⟩] <:+ goal.active) := by
  have trail := Trail.start grammar (.reference name) cursor
  rcases exists_origin_of_matchRule trail List.mem_cons_self failed with
    ⟨goal, owner, origin, ⟨same, unattributed⟩ | ⟨further, attributed⟩⟩
  · refine ⟨goal, owner, origin, ?_, .inl same⟩
    rw [same, unattributed]
    rfl
  · exact ⟨goal, owner, origin, attributed, .inr further⟩

theorem exists_origin_of_matchForm {source : String} {position : Position}
    {error : MatchError String} (failed : grammar.matchForm form source position = .error error) :
    (Cursor.at? source.toList position = none ∧
        error = ⟨none, .expected form.sources.rendering, position⟩) ∨
      ∃ (original : MatchError (Form Pattern)) (goal : Goal source.toList) (owner : Form Pattern),
        error = original.report ∧ grammar.Origin form original goal owner ∧
          original.rule = goal.active.head?.map (·.rule) := by
  cases found : Cursor.at? source.toList position with
  | none =>
      rw [matchForm_of_at?_eq_none _ _ found] at failed
      cases failed
      exact .inl ⟨rfl, rfl⟩
  | some cursor =>
      rw [← Cursor.eq_of_at?_eq_some found, matchForm_position] at failed
      rcases Outcome.error_of_report_eq_error failed with ⟨original, outcome, rfl⟩
      rcases exists_origin_of_matchAt outcome with ⟨goal, owner, origin, attributed⟩
      exact .inr ⟨original, goal, owner, rfl, origin, attributed⟩

/-- What a parse fails for: that source is left over, or where some goal fails. -/
theorem exists_origin_of_parse {source : String} {error : MatchError String}
    (failed : grammar.parse source = .error error) :
    (∃ body behind,
        grammar.matchRule [] grammar.root (.atStart source.toList) = .ok (body, behind) ∧
          behind.rest ≠ [] ∧
          error = ⟨some grammar.root, .trailing grammar.root, behind.position⟩) ∨
      ∃ (original : MatchError (Form Pattern)) (goal : Goal source.toList) (owner : Form Pattern),
        error = original.report ∧ grammar.Origin (.reference grammar.root) original goal owner ∧
          original.rule = goal.active.head?.map (·.rule) ∧
          (goal.active = [] ∨ [⟨grammar.root, 0⟩] <:+ goal.active) := by
  rw [parse_eq_finish] at failed
  rcases error_of_finish_eq_error failed with ⟨original, outcome, rfl⟩ | trailing
  · rcases exists_origin_of_root outcome with ⟨goal, owner, origin, attributed, outermost⟩
    exact .inr ⟨original, goal, owner, rfl, origin, attributed, outermost⟩
  · exact .inl trailing

end

end Grammar

end TextGrammar
