import TextGrammar.Text.Bytes

/-!
Patterns: regular expressions with the text that they were written as. How expressions are written
and where they are found is the business of an engine. Of the engine only its two laws are known
here: an expression keeps its text, and what it finds stands at the beginning of what is left of
the text. A pattern matches at the beginning of a text only.
-/

namespace TextGrammar

/-- A compiled expression as it can be observed from outside. -/
structure CompiledRegex where
  text : String
  /-- The text in front of the first match, and the match. -/
  find? : List Char → Option (List Char × List Char)
  find?_isPrefix {source before taken : List Char} :
    find? source = some (before, taken) → before ++ taken <+: source

class RegexEngine where
  compile? : String → Option CompiledRegex
  text_of_compile? {text : String} {regex : CompiledRegex} :
    compile? text = some regex → regex.text = text

structure Pattern where
  source : String
  regex : CompiledRegex

namespace Pattern

/-- Compiles a pattern. It is put into a group behind the condition for the start of the text, as
text, so it may close that group and open another. -/
def compile? [RegexEngine] (source : String) : Option Pattern :=
  (RegexEngine.compile? ("^(?:" ++ source ++ ")")).map (⟨source, ·⟩)

def ofRegex (regex : CompiledRegex) : Pattern := ⟨regex.text, regex⟩

-- Patterns that are written the same are the same, whatever they match.
instance : BEq Pattern where
  beq a b := a.source == b.source

def match? (pattern : Pattern) (text : List Char) : Option (List Char) :=
  match pattern.regex.find? text with
  | some ([], taken) => some taken
  | _ => none

theorem match?_isFront {pattern : Pattern} {text taken : List Char}
    (found : pattern.match? text = some taken) : taken <+: text := by
  rw [match?] at found
  split at found <;> cases found
  rename_i first
  exact pattern.regex.find?_isPrefix first

def matchLength? (pattern : Pattern) (text : List Char) : Option Nat :=
  (pattern.match? text).map Text.byteLength

end Pattern

end TextGrammar
