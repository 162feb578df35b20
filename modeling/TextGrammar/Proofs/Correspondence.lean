import Mathlib.Data.List.Forall2
import TextGrammar.Proofs.Calls
import TextGrammar.Proofs.Shifting

/-! Matches that correspond to each other. Positions of one are those of the other counted from some
origin, and each form and each match has an image. Where references correspond, so do the outcomes
of a form and its image, and hence those of the rules of two grammars. -/

namespace TextGrammar

/-- The origin that positions are counted from, the image of a form, and the images of a match. -/
structure Correspondence where
  origin : Position
  form : Form Pattern → Form Pattern
  tree : MatchTree → MatchTree → Prop

namespace Correspondence

def failure (c : Correspondence) (error : MatchError (Form Pattern)) : MatchError (Form Pattern) :=
  (error.map c.form).shift c.origin

theorem isFatal_failure (c : Correspondence) (error : MatchError (Form Pattern)) :
    (c.failure error).reason.isFatal = error.reason.isFatal := by
  rcases error with ⟨rule, reason, position⟩
  cases reason <;> rfl

/-- A correspondence that matching respects. Forms keep their kinds, but a sequence of one form may
become the image of that form, if its match then corresponds to the match of the form. -/
structure Lawful (c : Correspondence) : Prop where
  literal : ∀ text, c.form (.literal text) = .literal text
  leaf : ∀ pattern, c.form (.leaf pattern) = .leaf pattern
  sequence : ∀ forms,
    (c.form (.sequence forms) = .sequence (forms.map c.form) ∧
      ∀ start stop trees images, List.Forall₂ c.tree trees images →
        c.tree (.sequence start stop trees)
          (.sequence (c.origin.shift start) (c.origin.shift stop) images)) ∨
    ∃ only, forms = [only] ∧ c.form (.sequence forms) = c.form only ∧
      ∀ start stop tree image, c.tree tree image → c.tree (.sequence start stop [tree]) image
  oneOf : ∀ forms, c.form (.oneOf forms) = .oneOf (forms.map c.form)
  manyOf : ∀ form, c.form (.manyOf form) = .manyOf (c.form form)
  optional : ∀ form, c.form (.optional form) = .optional (c.form form)
  reference : ∀ name, c.form (.reference name) = .reference name
  except : ∀ form exclusions, c.form (.except form exclusions) = .except (c.form form) exclusions
  text : ∀ start stop content,
    c.tree (.text start stop content)
      (.text (c.origin.shift start) (c.origin.shift stop) content)
  empty : ∀ start stop,
    c.tree (.empty start stop) (.empty (c.origin.shift start) (c.origin.shift stop))
  repetition : ∀ start stop trees images, List.Forall₂ c.tree trees images →
    c.tree (.repetition start stop trees)
      (.repetition (c.origin.shift start) (c.origin.shift stop) images)
  rule : ∀ start stop name body image, c.tree body image →
    c.tree (.rule start stop name body)
      (.rule (c.origin.shift start) (c.origin.shift stop) name image)

variable {source other : List Char} {c : Correspondence}

inductive Answers (c : Correspondence) {α β : Type} (content : α → β → Prop) :
    Except (MatchError (Form Pattern)) (α × Cursor source) →
      Except (MatchError (Form Pattern)) (β × Cursor other) → Prop
  | failed (error) : Answers c content (.error error) (.error (c.failure error))
  | matched {value behind image later} (same : content value image)
      (moved : behind.Shifted c.origin later) :
      Answers c content (.ok (value, behind)) (.ok (image, later))

variable {cursor behind : Cursor source} {image : Cursor other}

section

variable {α β : Type} {content : α → β → Prop} {error : MatchError (Form Pattern)} {value : α}
  {outcome : Except (MatchError (Form Pattern)) (α × Cursor source)}
  {result : Except (MatchError (Form Pattern)) (β × Cursor other)}

theorem Answers.eq_error
    (answers : c.Answers content (.error error : Except _ (α × Cursor source)) result) :
    result = .error (c.failure error) := by
  cases answers
  rfl

theorem Answers.exists_ok (answers : c.Answers content (.ok (value, behind)) result) :
    ∃ image later, result = .ok (image, later) ∧ content value image ∧
      behind.Shifted c.origin later := by
  cases answers with
  | matched same moved => exact ⟨_, _, rfl, same, moved⟩

theorem Answers.error_or_ok (answers : c.Answers content outcome result) :
    (∃ error, outcome = .error error ∧ result = .error (c.failure error)) ∨
      ∃ value behind image later, outcome = .ok (value, behind) ∧ result = .ok (image, later) ∧
        content value image ∧ behind.Shifted c.origin later := by
  cases answers with
  | failed error => exact .inl ⟨error, rfl, rfl⟩
  | matched same moved => exact .inr ⟨_, _, _, _, rfl, rfl, same, moved⟩

end

theorem expected_answers {form formImage : Form Pattern}
    (becomes : c.form form = formImage) (shifted : cursor.Shifted c.origin image) :
    c.Answers c.tree (.error (form.expected cursor) : Outcome source)
      (.error (formImage.expected image) : Outcome other) := by
  have same : formImage.expected image = c.failure (form.expected cursor) := by
    rw [Form.expected, shifted.position, ← becomes]
    rfl
  rw [same]
  exact .failed _

theorem repeatMatch_answers {step : Cursor source → Outcome source}
    {stepImage : Cursor other → Outcome other}
    (each : ∀ {cursor image}, cursor.Shifted c.origin image →
      c.Answers c.tree (step cursor) (stepImage image))
    (shifted : cursor.Shifted c.origin image) :
    c.Answers (List.Forall₂ c.tree) (Form.repeatMatch step cursor)
      (Form.repeatMatch stepImage image) := by
  -- Both go on for as many rounds, since a round moves one offset if it moves the other.
  fun_induction Form.repeatMatch step cursor generalizing image with
  | case1 cursor error failed fatal =>
      have round := each shifted
      rw [failed] at round
      rw [Form.repeatMatch, round.eq_error]
      simp only [c.isFatal_failure, fatal, if_true]
      exact .failed error
  | case2 cursor error failed mild =>
      have round := each shifted
      rw [failed] at round
      rw [Form.repeatMatch, round.eq_error]
      simp only [c.isFatal_failure, mild]
      exact .matched .nil shifted
  | case3 cursor tree behind matched moved error again ih =>
      have round := each shifted
      rw [matched] at round
      rcases round.exists_ok with ⟨_, later, found, same, ahead⟩
      have others := ih ahead
      rw [again] at others
      rw [Form.repeatMatch, found]
      simp only [(shifted.offset_lt_iff ahead).mpr moved, if_true, others.eq_error]
      exact .failed error
  | case4 cursor tree behind matched moved trees last again ih =>
      have round := each shifted
      rw [matched] at round
      rcases round.exists_ok with ⟨_, later, found, same, ahead⟩
      have others := ih ahead
      rw [again] at others
      rcases others.exists_ok with ⟨_, final, followed, rest, beyond⟩
      rw [Form.repeatMatch, found]
      simp only [(shifted.offset_lt_iff ahead).mpr moved, if_true, followed]
      exact .matched (.cons same rest) beyond
  | case5 cursor tree behind matched still =>
      have round := each shifted
      rw [matched] at round
      rcases round.exists_ok with ⟨_, later, found, same, ahead⟩
      have stillImage := mt (shifted.offset_lt_iff ahead).mp still
      rw [Form.repeatMatch, found]
      simp only [stillImage, if_false]
      exact .matched (.cons same .nil) ahead

section

variable {resolve : String → Cursor source → Outcome source}
  {resolveImage : String → Cursor other → Outcome other} {forms : List (Form Pattern)}

theorem matchAll_answers
    (each : ∀ form ∈ forms, ∀ {cursor image}, cursor.Shifted c.origin image →
      c.Answers c.tree (form.matchWith resolve cursor)
        ((c.form form).matchWith resolveImage image))
    (shifted : cursor.Shifted c.origin image) :
    c.Answers (List.Forall₂ c.tree) (Form.matchAll resolve forms cursor)
      (Form.matchAll resolveImage (forms.map c.form) image) := by
  induction forms generalizing cursor image with
  | nil => exact .matched .nil shifted
  | cons form rest ih =>
      rcases List.forall_mem_cons.mp each with ⟨first, others⟩
      rw [List.map_cons, Form.matchAll, Form.matchAll]
      rcases (first shifted).error_or_ok with
        ⟨error, failed, failedImage⟩ | ⟨tree, behind, _, later, found, foundImage, same, moved⟩
      · rw [failed, failedImage]
        exact .failed error
      · rw [found, foundImage]
        dsimp only
        rcases (ih others moved).error_or_ok with
          ⟨error, failed, failedImage⟩ |
            ⟨trees, last, _, final, followed, followedImage, rest, beyond⟩
        · rw [failed, failedImage]
          exact .failed error
        · rw [followed, followedImage]
          exact .matched (.cons same rest) beyond

theorem matchFirst_answers
    (each : ∀ form ∈ forms, c.Answers c.tree (form.matchWith resolve cursor)
      ((c.form form).matchWith resolveImage image)) :
    Option.Rel (c.Answers c.tree) (Form.matchFirst resolve forms cursor)
      (Form.matchFirst resolveImage (forms.map c.form) image) := by
  induction forms with
  | nil => exact .none
  | cons form rest ih =>
      rcases List.forall_mem_cons.mp each with ⟨first, others⟩
      rw [List.map_cons, Form.matchFirst, Form.matchFirst]
      rcases first.error_or_ok with
        ⟨error, failed, failedImage⟩ | ⟨tree, behind, _, later, found, foundImage, same, moved⟩
      · rw [failed, failedImage]
        simp only [c.isFatal_failure]
        split
        · exact .some (.failed error)
        · exact ih others
      · rw [found, foundImage]
        exact .some (.matched same moved)

namespace Lawful

theorem takeText_answers (laws : c.Lawful) (shifted : cursor.Shifted c.origin image)
    (count : Nat) :
    c.Answers c.tree (.ok (Form.takeText cursor count)) (.ok (Form.takeText image count)) := by
  have moved := shifted.advance count
  refine .matched ?_ moved
  rw [shifted.rest, shifted.position, moved.position]
  exact laws.text _ _ _

theorem sequence_answers (laws : c.Lawful)
    (each : ∀ form ∈ forms, ∀ {cursor image}, cursor.Shifted c.origin image →
      c.Answers c.tree (form.matchWith resolve cursor)
        ((c.form form).matchWith resolveImage image))
    (shifted : cursor.Shifted c.origin image) :
    c.Answers c.tree ((Form.sequence forms).matchWith resolve cursor)
      ((c.form (.sequence forms)).matchWith resolveImage image) := by
  rcases laws.sequence forms with ⟨kept, trees⟩ | ⟨only, rfl, replaced, trees⟩
  · rw [kept, Form.matchWith, Form.matchWith]
    rcases (matchAll_answers each shifted).error_or_ok with
      ⟨error, failed, failedImage⟩ | ⟨parts, behind, _, later, found, foundImage, same, moved⟩
    · rw [failed, failedImage]
      exact .failed error
    · rw [found, foundImage]
      refine .matched ?_ moved
      rw [shifted.position, moved.position]
      exact trees _ _ _ _ same
  · rw [replaced, Form.matchWith, Form.matchAll]
    rcases (each only List.mem_cons_self shifted).error_or_ok with
      ⟨error, failed, failedImage⟩ | ⟨tree, behind, _, later, found, foundImage, same, moved⟩
    · rw [failed, failedImage]
      exact .failed error
    · rw [found, foundImage]
      exact .matched (trees _ _ _ _ same) moved

/-- What a form answers corresponds to what its image answers, if what references answer does. -/
theorem matchWith_answers (laws : c.Lawful)
    (references : ∀ name {cursor image}, cursor.Shifted c.origin image →
      c.Answers c.tree (resolve name cursor) (resolveImage name image)) :
    ∀ (form : Form Pattern) {cursor : Cursor source} {image : Cursor other},
      cursor.Shifted c.origin image →
      c.Answers c.tree (form.matchWith resolve cursor)
        ((c.form form).matchWith resolveImage image)
  | .literal text, cursor, image, shifted => by
      rw [laws.literal, Form.matchWith, Form.matchWith, shifted.rest]
      split
      · exact laws.takeText_answers shifted _
      · exact expected_answers (laws.literal text) shifted
  | .leaf pattern, cursor, image, shifted => by
      rw [laws.leaf, Form.matchWith, Form.matchWith, shifted.rest]
      split
      · exact laws.takeText_answers shifted _
      · exact expected_answers (laws.leaf pattern) shifted
  | .sequence forms, cursor, image, shifted => by
      have each (form : Form Pattern) (member : form ∈ forms) {place : Cursor source}
          {later : Cursor other} (moved : place.Shifted c.origin later) :=
        matchWith_answers laws references form moved
      exact laws.sequence_answers each shifted
  | .oneOf forms, cursor, image, shifted => by
      have each (form : Form Pattern) (member : form ∈ forms) :=
        matchWith_answers laws references form shifted
      have first := matchFirst_answers each
      rw [laws.oneOf, Form.matchWith, Form.matchWith]
      generalize Form.matchFirst resolve forms cursor = found at first ⊢
      generalize Form.matchFirst resolveImage (forms.map c.form) image = imageOutcome at first ⊢
      cases first with
      | some answers => exact answers
      | none => exact expected_answers (laws.oneOf forms) shifted
  | .manyOf form, cursor, image, shifted => by
      have rounds := repeatMatch_answers (matchWith_answers laws references form) shifted
      rw [laws.manyOf, Form.matchWith, Form.matchWith]
      rcases rounds.error_or_ok with
        ⟨error, failed, failedImage⟩ | ⟨trees, behind, _, later, found, foundImage, same, moved⟩
      · rw [failed, failedImage]
        exact .failed error
      · rw [found, foundImage]
        cases same with
        | nil => exact expected_answers (laws.manyOf form) shifted
        | cons first others =>
            refine .matched ?_ moved
            rw [shifted.position, moved.position]
            exact laws.repetition _ _ _ _ (.cons first others)
  | .optional form, cursor, image, shifted => by
      rw [laws.optional, Form.matchWith, Form.matchWith]
      rcases (matchWith_answers laws references form shifted).error_or_ok with
        ⟨error, failed, failedImage⟩ | ⟨tree, behind, _, later, found, foundImage, same, moved⟩
      · rw [failed, failedImage]
        simp only [c.isFatal_failure]
        split
        · exact .failed error
        · refine .matched ?_ shifted
          rw [shifted.position]
          exact laws.empty _ _
      · rw [found, foundImage]
        exact .matched same moved
  | .reference name, cursor, image, shifted => by
      rw [laws.reference, Form.matchWith, Form.matchWith]
      rcases (references name shifted).error_or_ok with
        ⟨error, failed, failedImage⟩ | ⟨body, behind, _, later, found, foundImage, same, moved⟩
      · rw [failed, failedImage]
        exact .failed error
      · rw [found, foundImage]
        refine .matched ?_ moved
        rw [shifted.position, moved.position]
        exact laws.rule _ _ _ _ _ same
  | .except form exclusions, cursor, image, shifted => by
      rw [laws.except, Form.matchWith, Form.matchWith]
      rcases (matchWith_answers laws references form shifted).error_or_ok with
        ⟨error, failed, failedImage⟩ | ⟨tree, behind, _, later, found, foundImage, same, moved⟩
      · rw [failed, failedImage]
        exact .failed error
      · rw [found, foundImage]
        simp only [shifted.textTo_eq moved]
        split
        · exact expected_answers (laws.except form exclusions) shifted
        · exact .matched same moved

end Lawful

end

structure Between (c : Correspondence) (grammar imageGrammar : Grammar) : Prop where
  forms : ∀ name, imageGrammar.form? name = (grammar.form? name).map c.form
  limits : imageGrammar.depthLimit = grammar.depthLimit

theorem Between.form?_eq_some {grammar imageGrammar : Grammar}
    (between : c.Between grammar imageGrammar) {name : String} {body : Form Pattern}
    (found : grammar.form? name = some body) :
    imageGrammar.form? name = some (c.form body) := by
  rw [between.forms, found, Option.map_some]

theorem Answers.within {answer : Outcome source} {answerImage : Outcome other}
    (answers : c.Answers c.tree answer answerImage) (name : String) :
    c.Answers c.tree (answer.mapError (·.within name)) (answerImage.mapError (·.within name)) := by
  cases answers with
  | failed error => exact .failed (error.within name)
  | matched same moved => exact .matched same moved

theorem entry_answers (reason : Reason (Form Pattern)) (shifted : cursor.Shifted c.origin image) :
    c.Answers c.tree (.error ⟨none, reason, cursor.position⟩ : Outcome source)
      (.error ⟨none, (reason.map c.form).shift c.origin, image.position⟩ : Outcome other) := by
  rw [shifted.position]
  exact .failed ⟨none, reason, cursor.position⟩

theorem Between.matchRule_answers {grammar imageGrammar : Grammar}
    (between : c.Between grammar imageGrammar) (laws : c.Lawful) (active : List ActiveRule)
    (name : String) (shifted : cursor.Shifted c.origin image) :
    c.Answers c.tree (grammar.matchRule active name cursor)
      (imageGrammar.matchRule (active.map (·.shift c.origin)) name image) := by
  fun_induction grammar.matchRule active name cursor generalizing image with
  | case1 active name cursor missing =>
      have missingImage : imageGrammar.form? name = none := by
        rw [between.forms, missing, Option.map_none]
      rw [Grammar.matchRule_undefined missingImage]
      exact entry_answers (.undefinedRule name) shifted
  | case2 active name cursor _ body found =>
      -- An entry is taken if its image is, since no two offsets become one.
      rename_i taken
      have foundImage := between.form?_eq_some found
      rw [Grammar.matchRule_circular foundImage (shifted.entry_mem_iff.mpr taken),
        ← List.map_reverse]
      exact entry_answers (.circular active.reverse) shifted
  | case3 active name cursor _ body found fresh limit =>
      rename_i limited
      rcases Grammar.filter_depthLimit_eq_some_iff.mp limited with ⟨limited, full⟩
      have foundImage := between.form?_eq_some found
      have freshImage := mt shifted.entry_mem_iff.mp fresh
      rw [Grammar.matchRule_limited foundImage freshImage (between.limits.trans limited)
        (by rwa [List.length_map])]
      exact entry_answers (.depthLimit limit) shifted
  | case4 active name cursor _ body found fresh unlimited =>
      rename_i ih
      have foundImage := between.form?_eq_some found
      have freshImage := mt shifted.entry_mem_iff.mp fresh
      have room : imageGrammar.HasRoom (active.map (·.shift c.origin)) := by
        rw [Grammar.HasRoom, between.limits, List.length_map]
        exact Grammar.filter_depthLimit_eq_none_iff.mp unlimited
      have inside := laws.matchWith_answers (fun inner _ _ moved => ih inner _ moved) body shifted
      rw [Grammar.matchRule_entered foundImage freshImage room, shifted.entry_eq]
      exact inside.within name

theorem Between.matchAt_answers {grammar imageGrammar : Grammar}
    (between : c.Between grammar imageGrammar) (laws : c.Lawful) (form : Form Pattern)
    (shifted : cursor.Shifted c.origin image) :
    c.Answers c.tree (grammar.matchAt form cursor) (imageGrammar.matchAt (c.form form) image) := by
  apply laws.matchWith_answers
  · intro name _ _ moved
    exact between.matchRule_answers laws [] name moved
  · exact shifted

end Correspondence

end TextGrammar
