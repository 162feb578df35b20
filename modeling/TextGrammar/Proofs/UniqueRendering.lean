import TextGrammar.Regex.Engine
import TextGrammar.Proofs.Quoting
import TextGrammar.Proofs.Reports
import TextGrammar.Proofs.Rereading

/-! A form is known by how it is written, if no pattern in it has a slash, which would end the
pattern early. Every written form shows where it ends, as quotes, slashes and brackets do, and so
the forms in a list can be told apart. -/

namespace TextGrammar

/-- Written texts of things that can be told apart, whatever follows them. -/
def ToldApart {α : Type} (write : α → List Char) (first second : α) : Prop :=
  ∀ left right, write first ++ left = write second ++ right → first = second ∧ left = right

section Lists

variable {α : Type} {write : α → List Char} {items others : List α} {left right : List Char}

theorem append_cons_inj {close : Char} {first second : List Char} (absent : close ∉ first)
    (missing : close ∉ second) (same : first ++ close :: left = second ++ close :: right) :
    first = second ∧ left = right := by
  induction first generalizing second with
  | nil =>
      cases second with
      | nil => exact ⟨rfl, (List.cons.inj same).2⟩
      | cons d more =>
          obtain ⟨rfl, -⟩ := List.cons.inj same
          exact absurd List.mem_cons_self missing
  | cons c rest ih =>
      cases second with
      | nil =>
          obtain ⟨rfl, -⟩ := List.cons.inj same
          exact absurd List.mem_cons_self absent
      | cons d more =>
          obtain ⟨rfl, tails⟩ := List.cons.inj same
          obtain ⟨rfl, ends⟩ := ih (List.not_mem_of_not_mem_cons absent)
            (List.not_mem_of_not_mem_cons missing) tails
          exact ⟨rfl, ends⟩

theorem flatMap_append_inj {close : Char} (apart : close ≠ ',')
    (each : ∀ item ∈ items, ∀ other ∈ others, ToldApart write item other)
    (same : items.flatMap (fun item => ", ".toList ++ write item) ++ close :: left =
      others.flatMap (fun item => ", ".toList ++ write item) ++ close :: right) :
    items = others ∧ left = right := by
  induction items generalizing others with
  | nil =>
      cases others with
      | nil => simpa using same
      | cons other more => simp [apart] at same
  | cons item rest ih =>
      cases others with
      | nil => simp [Ne.symm apart] at same
      | cons other more =>
          simp only [List.flatMap_cons, List.append_assoc, List.append_cancel_left_eq] at same
          obtain ⟨rfl, following⟩ := each item List.mem_cons_self other List.mem_cons_self _ _ same
          have later : ∀ item ∈ rest, ∀ other ∈ more, ToldApart write item other :=
            fun item member other among => each item (List.mem_cons_of_mem _ member) other
              (List.mem_cons_of_mem _ among)
          obtain ⟨rfl, ends⟩ := ih later following
          exact ⟨rfl, ends⟩

end Lists

namespace Form

section Same

variable {α β : Type} [BEq α] {f : α → β}

mutual

theorem same_iff_map_eq (alike : ∀ value other : α, (value == other) = true ↔ f value = f other) :
    ∀ form other : Form α, form.same other = true ↔ form.map f = other.map f
  | .literal _, other => by cases other <;> simp [same, map]
  | .leaf _, other => by cases other <;> simp [same, map, alike]
  | .sequence forms, other => by cases other <;> simp [same, map, sameAll_iff_mapAll_eq alike forms]
  | .oneOf forms, other => by cases other <;> simp [same, map, sameAll_iff_mapAll_eq alike forms]
  | .manyOf form, other => by cases other <;> simp [same, map, same_iff_map_eq alike form]
  | .optional form, other => by cases other <;> simp [same, map, same_iff_map_eq alike form]
  | .reference _, other => by cases other <;> simp [same, map]
  | .except form _, other => by cases other <;> simp [same, map, same_iff_map_eq alike form]

theorem sameAll_iff_mapAll_eq
    (alike : ∀ value other : α, (value == other) = true ↔ f value = f other) :
    ∀ forms others : List (Form α), sameAll forms others = true ↔ mapAll f forms = mapAll f others
  | [], others => by cases others <;> simp [sameAll, mapAll]
  | form :: rest, others => by
      cases others <;>
        simp [sameAll, mapAll, same_iff_map_eq alike form, sameAll_iff_mapAll_eq alike rest]

end

end Same

theorem beq_iff_sources_eq {form other : Form Pattern} :
    (form == other) = true ↔ form.sources = other.sources := by
  apply same_iff_map_eq
  intro pattern another
  change (pattern.source == another.source) = true ↔ _
  exact beq_iff_eq

section Written

variable {forms others : List (Form String)} {left right : List Char}

@[simp] theorem render_literal (text : String) :
    (literal text).render = Text.quote text.toList := rfl

@[simp] theorem render_leaf (source : String) :
    (leaf source).render = '/' :: (source.toList ++ ['/']) := rfl

@[simp] theorem render_sequence (forms : List (Form String)) :
    (sequence forms).render = '[' :: (renderAll forms ++ [']']) := rfl

@[simp] theorem render_oneOf (forms : List (Form String)) :
    (oneOf forms).render = "oneOf(".toList ++ (renderAll forms ++ [')']) := rfl

@[simp] theorem render_manyOf (form : Form String) :
    (manyOf form).render = "manyOf(".toList ++ (form.render ++ [')']) := rfl

@[simp] theorem render_optional (form : Form String) :
    (optional form).render = "optional(".toList ++ (form.render ++ [')']) := rfl

@[simp] theorem render_reference (name : String) :
    (reference name).render = "ref(".toList ++ (Text.quote name.toList ++ [')']) := rfl

@[simp] theorem render_except (form : Form String) (exclusions : List String) :
    (except form exclusions).render =
      "except(".toList ++ (form.render ++
        (exclusions.flatMap (fun text => ", ".toList ++ Text.quote text.toList) ++ [')'])) := rfl

theorem renderAll_cons (form : Form String) (rest : List (Form String)) :
    renderAll (form :: rest) =
      form.render ++ rest.flatMap fun form => ", ".toList ++ form.render := by
  induction rest generalizing form with
  | nil => exact (List.append_nil _).symm
  | cons second rest ih =>
      calc
        renderAll (form :: second :: rest) =
            form.render ++ (", ".toList ++ renderAll (second :: rest)) := rfl
        _ = _ := by rw [ih, List.flatMap_cons, List.append_assoc]

theorem render_append_ne {close : Char} (closes : close = ')' ∨ close = ']') (form : Form String) :
    form.render ++ left ≠ close :: right := by
  rcases closes with rfl | rfl <;> cases form <;> simp [Text.quote]

theorem renderAll_append_inj {close : Char} (closes : close = ')' ∨ close = ']')
    (each : ∀ form ∈ forms, ∀ other ∈ others, ToldApart render form other)
    (same : renderAll forms ++ close :: left = renderAll others ++ close :: right) :
    forms = others ∧ left = right := by
  have apart : close ≠ ',' := by rcases closes with rfl | rfl <;> decide
  cases forms with
  | nil =>
      cases others with
      | nil => simpa [renderAll] using same
      | cons other more =>
          rw [renderAll_cons, List.append_assoc] at same
          exact absurd same.symm (render_append_ne closes other)
  | cons form rest =>
      cases others with
      | nil =>
          rw [renderAll_cons, List.append_assoc] at same
          exact absurd same (render_append_ne closes form)
      | cons other more =>
          rw [renderAll_cons, renderAll_cons, List.append_assoc, List.append_assoc] at same
          rw [List.forall_mem_cons] at each
          obtain ⟨rfl, following⟩ := each.1 other List.mem_cons_self _ _ same
          have later : ∀ form ∈ rest, ∀ other ∈ more, ToldApart render form other :=
            fun form member other among => each.2 form member other (List.mem_cons_of_mem _ among)
          obtain ⟨rfl, ends⟩ := flatMap_append_inj apart later following
          exact ⟨rfl, ends⟩

end Written

def SlashFree (form : Form String) : Prop := ∀ source ∈ form.leaves, '/' ∉ source.toList

theorem slashFree_of_mem {form : Form String} {forms : List (Form String)}
    (plain : ∀ source ∈ leavesOfAll forms, '/' ∉ source.toList) (member : form ∈ forms) :
    form.SlashFree :=
  fun source inside => plain source (mem_leavesOfAll_iff.mpr ⟨form, member, inside⟩)

theorem quote_toldApart (text other : String) :
    ToldApart (fun text : String => Text.quote text.toList) text other := by
  intro left right same
  obtain ⟨chars, ends⟩ := Text.quote_append_inj same
  exact ⟨String.toList_injective chars, ends⟩

theorem enclosed_inj (opening : List Char) {first second left right : List Char} {close : Char}
    (same : opening ++ (first ++ [close]) ++ left = opening ++ (second ++ [close]) ++ right) :
    first ++ close :: left = second ++ close :: right := by
  simpa using same

mutual

/-- A form without slashes in its patterns shows where it ends and what it is. -/
theorem render_toldApart : ∀ form other : Form String, form.SlashFree → other.SlashFree →
    ToldApart render form other
  | .literal text, other, _, _, left, right, same => by
      cases other with
      | literal another =>
          obtain ⟨rfl, ends⟩ := quote_toldApart text another left right same
          exact ⟨rfl, ends⟩
      | _ => simp [Text.quote] at same
  | .leaf source, other, plain, also, left, right, same => by
      cases other with
      | leaf another =>
          have inside := enclosed_inj ['/'] same
          obtain ⟨chars, ends⟩ := append_cons_inj (plain source List.mem_cons_self)
            (also another List.mem_cons_self) inside
          exact ⟨congrArg leaf (String.toList_injective chars), ends⟩
      | _ => simp [Text.quote] at same
  | .sequence forms, other, plain, also, left, right, same => by
      cases other with
      | sequence others =>
          have inside := enclosed_inj ['['] same
          obtain ⟨rfl, ends⟩ := renderAll_append_inj (.inr rfl)
            (renderAll_toldApart forms others plain also) inside
          exact ⟨rfl, ends⟩
      | _ => simp [Text.quote] at same
  | .oneOf forms, other, plain, also, left, right, same => by
      cases other with
      | oneOf others =>
          rw [render_oneOf, render_oneOf] at same
          obtain ⟨rfl, ends⟩ := renderAll_append_inj (.inl rfl)
            (renderAll_toldApart forms others plain also) (enclosed_inj _ same)
          exact ⟨rfl, ends⟩
      | _ => simp [Text.quote] at same
  | .manyOf form, other, plain, also, left, right, same => by
      cases other with
      | manyOf inner =>
          rw [render_manyOf, render_manyOf] at same
          obtain ⟨rfl, ends⟩ := render_toldApart form inner plain also _ _ (enclosed_inj _ same)
          exact ⟨rfl, (List.cons.inj ends).2⟩
      | _ => simp [Text.quote] at same
  | .optional form, other, plain, also, left, right, same => by
      cases other with
      | optional inner =>
          rw [render_optional, render_optional] at same
          obtain ⟨rfl, ends⟩ := render_toldApart form inner plain also _ _ (enclosed_inj _ same)
          exact ⟨rfl, (List.cons.inj ends).2⟩
      | _ => simp [Text.quote] at same
  | .reference name, other, _, _, left, right, same => by
      cases other with
      | reference another =>
          rw [render_reference, render_reference] at same
          obtain ⟨rfl, ends⟩ := quote_toldApart name another _ _ (enclosed_inj _ same)
          exact ⟨rfl, (List.cons.inj ends).2⟩
      | _ => simp [Text.quote] at same
  | .except form exclusions, other, plain, also, left, right, same => by
      cases other with
      | except inner excluded =>
          -- The form and the exclusions are taken out of the parentheses together.
          rw [render_except, render_except, ← List.append_assoc form.render,
            ← List.append_assoc inner.render] at same
          have inside := enclosed_inj _ same
          rw [List.append_assoc, List.append_assoc] at inside
          obtain ⟨rfl, following⟩ := render_toldApart form inner plain also _ _ inside
          obtain ⟨rfl, ends⟩ := flatMap_append_inj (by decide)
            (fun text _ another _ => quote_toldApart text another) following
          exact ⟨rfl, ends⟩
      | _ => simp [Text.quote] at same

theorem renderAll_toldApart : ∀ forms others : List (Form String),
    (∀ source ∈ leavesOfAll forms, '/' ∉ source.toList) →
      (∀ source ∈ leavesOfAll others, '/' ∉ source.toList) →
        ∀ form ∈ forms, ∀ other ∈ others, ToldApart render form other
  | form :: rest, others, plain, also, part, member, other, among => by
      rw [leavesOfAll, List.forall_mem_append] at plain
      rcases List.mem_cons.mp member with same | later
      · rw [same]
        exact render_toldApart form other plain.1 (slashFree_of_mem also among)
      · exact renderAll_toldApart rest others plain.2 also part later other among

end

theorem rendering_eq_iff {form other : Form String} (plain : form.SlashFree)
    (also : other.SlashFree) : form.rendering = other.rendering ↔ form = other := by
  constructor
  · intro same
    have chars : form.render ++ [] = other.render ++ [] := by
      rw [List.append_nil, List.append_nil]
      exact String.ofList_injective same
    exact (render_toldApart form other plain also [] [] chars).1
  · rintro rfl
    rfl

/-- A pattern with slashes may look like two patterns. -/
example : (sequence [leaf "a/, /b"]).rendering = (sequence [leaf "a", leaf "b"]).rendering := rfl

theorem slashFree_sources {form : Form Pattern}
    (plain : ∀ pattern ∈ form.leaves, '/' ∉ pattern.source.toList) : form.sources.SlashFree := by
  intro source member
  rw [sources, leaves_map] at member
  rcases List.mem_map.mp member with ⟨pattern, inside, rfl⟩
  exact plain pattern inside

theorem message_of_expected {error : MatchError (Form Pattern)} {form : Form Pattern}
    (expects : error.reason = .expected form) :
    error.report.message = "expected " ++ form.sources.rendering := by
  rcases error with ⟨rule, reason, position⟩
  cases expects
  rfl

/-- Forms whose patterns have no slashes are written in the same way only if they are the same, and
so what a failure says was expected tells which form it was. -/
theorem rendering_identifies_form {form other : Form Pattern}
    (plain : ∀ pattern ∈ form.leaves, '/' ∉ pattern.source.toList)
    (also : ∀ pattern ∈ other.leaves, '/' ∉ pattern.source.toList) :
    (form.sources.rendering = other.sources.rendering ↔ (form == other) = true) ∧
      ∀ error failure : MatchError (Form Pattern), error.reason = .expected form →
        failure.reason = .expected other → error.report.message = failure.report.message →
          (form == other) = true := by
  have identified : form.sources.rendering = other.sources.rendering ↔ (form == other) = true := by
    rw [beq_iff_sources_eq]
    exact rendering_eq_iff (slashFree_sources plain) (slashFree_sources also)
  refine ⟨identified, ?_⟩
  intro error failure expects expectsToo same
  rw [message_of_expected expects, message_of_expected expectsToo] at same
  have chars := congrArg String.toList same
  rw [String.toList_append, String.toList_append] at chars
  exact identified.mp (String.toList_injective (List.append_cancel_left chars))

def disguised (pattern : Pattern) : Form Pattern :=
  .except (.sequence [.literal "a\", \"b", .leaf pattern]) ["\")", ""]

theorem rendering_identifies_form_disguised :
    (∃ first second, Pattern.ofRegex? "c, d" false false = some first ∧
      Pattern.ofRegex? "c, d" true false = some second ∧
      (disguised first == disguised second) = true) ∧
    (sequence [literal "a\", \"b"] : Form Pattern).sources.rendering ≠
      (sequence [literal "a", literal "b"] : Form Pattern).sources.rendering := by
  constructor
  · have compiles : (Pattern.ofRegex? "c, d" false false).map (·.source) = some "c, d" := by
      decide +kernel
    have compilesToo : (Pattern.ofRegex? "c, d" true false).map (·.source) = some "c, d" := by
      decide +kernel
    rcases Option.map_eq_some_iff.mp compiles with ⟨first, made, source⟩
    rcases Option.map_eq_some_iff.mp compilesToo with ⟨second, madeToo, sourceToo⟩
    have plain : ∀ pattern ∈ (disguised first).leaves, '/' ∉ pattern.source.toList := by
      simp [disguised, leaves, leavesOfAll, source]
    have also : ∀ pattern ∈ (disguised second).leaves, '/' ∉ pattern.source.toList := by
      simp [disguised, leaves, leavesOfAll, sourceToo]
    have same : (disguised first).sources.rendering = (disguised second).sources.rendering := by
      simp [disguised, sources, map, mapAll, source, sourceToo]
    exact ⟨first, second, made, madeToo, (rendering_identifies_form plain also).1.mp same⟩
  · intro same
    have alike := (rendering_identifies_form (by simp [leaves, leavesOfAll])
      (by simp [leaves, leavesOfAll])).1.mp same
    exact absurd alike (by decide)

end Form

end TextGrammar
