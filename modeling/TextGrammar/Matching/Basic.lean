import TextGrammar.Form.Draft
import TextGrammar.Matching.Cursor
import TextGrammar.Matching.Error
import TextGrammar.MatchTree

/-!
Matching a form at a cursor. What a reference matches is a parameter here: a function from names
and cursors to outcomes. Alternatives are ordered and the first that matches is taken for good; a
repetition goes on as long as it can.
-/

namespace TextGrammar

abbrev Outcome (source : List Char) :=
  Except (MatchError (Form Pattern)) (MatchTree × Cursor source)

abbrev Outcomes (source : List Char) :=
  Except (MatchError (Form Pattern)) (List MatchTree × Cursor source)

namespace Form

variable {source : List Char}

def expected (form : Form Pattern) (cursor : Cursor source) : MatchError (Form Pattern) :=
  ⟨none, .expected form, cursor.position⟩

def takeText (cursor : Cursor source) (count : Nat) : MatchTree × Cursor source :=
  let behind := cursor.advance count
  (.text cursor.position behind.position (String.ofList (cursor.rest.take count)), behind)

/-- Repeats a match until it fails or takes no text. A match that takes no text is the last. -/
def repeatMatch (step : Cursor source → Outcome source) (cursor : Cursor source) :
    Outcomes source :=
  match step cursor with
  | .error error => if error.reason.isFatal then .error error else .ok ([], cursor)
  | .ok (tree, behind) =>
    if cursor.position.offset < behind.position.offset then
      match repeatMatch step behind with
      | .error error => .error error
      | .ok (trees, last) => .ok (tree :: trees, last)
    else .ok ([tree], behind)
termination_by Text.byteLength source - cursor.position.offset
decreasing_by
  have := behind.offset_le
  omega

mutual

def matchWith (resolve : String → Cursor source → Outcome source) :
    Form Pattern → Cursor source → Outcome source
  | .literal text, cursor =>
    if text.toList.isPrefixOf cursor.rest then .ok (takeText cursor text.toList.length)
    else .error (expected (.literal text) cursor)
  | .leaf pattern, cursor =>
    match pattern.match? cursor.rest with
    | some taken => .ok (takeText cursor taken.length)
    | none => .error (expected (.leaf pattern) cursor)
  | .sequence forms, cursor =>
    match matchAll resolve forms cursor with
    | .error error => .error error
    | .ok (trees, behind) => .ok (.sequence cursor.position behind.position trees, behind)
  | .oneOf forms, cursor =>
    match matchFirst resolve forms cursor with
    | some outcome => outcome
    | none => .error (expected (.oneOf forms) cursor)
  | .manyOf form, cursor =>
    match repeatMatch (form.matchWith resolve) cursor with
    | .error error => .error error
    | .ok ([], _) => .error (expected (.manyOf form) cursor)
    | .ok (trees, behind) => .ok (.repetition cursor.position behind.position trees, behind)
  | .optional form, cursor =>
    match form.matchWith resolve cursor with
    | .ok matched => .ok matched
    | .error error =>
      if error.reason.isFatal then .error error
      else .ok (.empty cursor.position cursor.position, cursor)
  | .reference name, cursor =>
    match resolve name cursor with
    | .error error => .error error
    | .ok (body, behind) => .ok (.rule cursor.position behind.position name body, behind)
  | .except form exclusions, cursor =>
    match form.matchWith resolve cursor with
    | .error error => .error error
    | .ok (tree, behind) =>
      if exclusions.contains (String.ofList (cursor.textTo behind)) then
        .error (expected (.except form exclusions) cursor)
      else .ok (tree, behind)

def matchAll (resolve : String → Cursor source → Outcome source) :
    List (Form Pattern) → Cursor source → Outcomes source
  | [], cursor => .ok ([], cursor)
  | form :: rest, cursor =>
    match form.matchWith resolve cursor with
    | .error error => .error error
    | .ok (tree, behind) =>
      match matchAll resolve rest behind with
      | .error error => .error error
      | .ok (trees, last) => .ok (tree :: trees, last)

def matchFirst (resolve : String → Cursor source → Outcome source) :
    List (Form Pattern) → Cursor source → Option (Outcome source)
  | [], _ => none
  | form :: rest, cursor =>
    match form.matchWith resolve cursor with
    | .ok matched => some (.ok matched)
    | .error error =>
      if error.reason.isFatal then some (.error error) else matchFirst resolve rest cursor

end

variable {resolve : String → Cursor source → Outcome source}

theorem matchWith_sequence_nil (cursor : Cursor source) :
    (sequence []).matchWith resolve cursor =
      .ok (.sequence cursor.position cursor.position [], cursor) := by
  rw [matchWith, matchAll]

theorem matchWith_oneOf_nil (cursor : Cursor source) :
    (oneOf []).matchWith resolve cursor = .error (expected (.oneOf []) cursor) := by
  rw [matchWith, matchFirst]

end Form

end TextGrammar
