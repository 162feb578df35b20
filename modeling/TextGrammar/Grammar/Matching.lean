import TextGrammar.Form.Rendering
import TextGrammar.Grammar.Basic
import TextGrammar.Matching.Basic

/-!
Matching with the rules of a grammar. A rule that is entered at an offset where it is already being
matched would be entered without end, so that fails. Each entry takes up one of finitely many pairs
of a rule and an offset, and hence every match ends.
-/

namespace TextGrammar.Grammar

def vacant (grammar : Grammar) (bytes : Nat) (active : List ActiveRule) : List ActiveRule :=
  (grammar.ruleNames.flatMap fun name => (List.range (bytes + 1)).map (⟨name, ·⟩)).filter
    fun entry => !active.contains entry

theorem mem_ruleNames_of_form? {grammar : Grammar} {name : String} {form : Form Pattern}
    (found : grammar.form? name = some form) : name ∈ grammar.ruleNames := by
  obtain ⟨rule, first, -⟩ := Option.map_eq_some_iff.mp found
  have same : rule.name = name := by simpa using List.find?_some first
  exact List.mem_map.mpr ⟨rule, List.mem_of_find?_eq_some first, same⟩

theorem length_vacant_cons_lt {grammar : Grammar} {bytes : Nat} {active : List ActiveRule}
    {entry : ActiveRule} (named : entry.rule ∈ grammar.ruleNames) (within : entry.offset ≤ bytes)
    (fresh : entry ∉ active) :
    (grammar.vacant bytes (entry :: active)).length < (grammar.vacant bytes active).length := by
  have narrower : grammar.vacant bytes (entry :: active) =
      (grammar.vacant bytes active).filter (· ≠ entry) := by
    simp [vacant, List.filter_filter]
  rw [narrower]
  refine List.length_filter_lt_length_iff_exists.mpr ⟨entry, ?_, by simp⟩
  simp only [vacant, List.mem_filter, List.mem_flatMap, List.mem_map, List.mem_range]
  exact ⟨⟨entry.rule, named, entry.offset, by omega, rfl⟩, by simpa using fresh⟩

variable {source : List Char}

/-- Matches the form of a rule, given the rules that are being matched, innermost first. -/
def matchRule (grammar : Grammar) (active : List ActiveRule) (name : String)
    (cursor : Cursor source) : Outcome source :=
  let entry : ActiveRule := ⟨name, cursor.position.offset⟩
  match _found : grammar.form? name with
  | none => .error ⟨none, .undefinedRule name, cursor.position⟩
  | some form =>
    if _taken : entry ∈ active then .error ⟨none, .circular active.reverse, cursor.position⟩
    else
      match grammar.depthLimit.filter (· ≤ active.length) with
      | some limit => .error ⟨none, .depthLimit limit, cursor.position⟩
      | none =>
        (form.matchWith (fun inner later => grammar.matchRule (entry :: active) inner later)
          cursor).mapError (·.within name)
termination_by (grammar.vacant (Text.byteLength source) active).length
decreasing_by
  exact length_vacant_cons_lt (mem_ruleNames_of_form? _found) cursor.offset_le _taken

def matchAt (grammar : Grammar) (form : Form Pattern) (cursor : Cursor source) : Outcome source :=
  form.matchWith (grammar.matchRule []) cursor

/-- Matches a form at a position of a text. Inside a character and past the end nothing matches. -/
def matchChars (grammar : Grammar) (form : Form Pattern) (source : List Char)
    (position : Position) : Except (MatchError (Form Pattern)) MatchTree :=
  match Cursor.at? source position with
  | none => .error ⟨none, .expected form, position⟩
  | some cursor =>
    match grammar.matchAt form cursor with
    | .error error => .error error
    | .ok (tree, _) => .ok tree

def matchForm (grammar : Grammar) (form : Form Pattern) (source : String) (position : Position) :
    Except (MatchError String) MatchTree :=
  (grammar.matchChars form source.toList position).mapError
    (·.map fun form => form.sources.rendering)

def parseChars (grammar : Grammar) (source : List Char) :
    Except (MatchError (Form Pattern)) Node :=
  match grammar.matchRule [] grammar.root (.atStart source) with
  | .error error => .error error
  | .ok (body, behind) =>
    if behind.rest.isEmpty then .ok ⟨grammar.root, body.asValue, .start, behind.position⟩
    else .error ⟨some grammar.root, .trailing grammar.root, behind.position⟩

def parse (grammar : Grammar) (source : String) : Except (MatchError String) Node :=
  (grammar.parseChars source.toList).mapError (·.map fun form => form.sources.rendering)

end TextGrammar.Grammar
