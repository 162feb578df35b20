import TextGrammar.Pattern
import TextGrammar.Regex.Reader
import TextGrammar.Regex.Run
import TextGrammar.Regex.Size

/-!
An engine for regular expressions. It knows no classes of characters by property (`\p`), no
matching of single bytes (`(?-u)`) and no line ends of two characters (`(?R)`), and it takes only
ASCII letters, the Kelvin sign and the long s for letters in two cases. Other modules that state
something of all engines do not depend on this one.
-/

namespace TextGrammar

namespace Regex

def compile? (flags : Flags) (text : String) : Option CompiledRegex := do
  let regex ← ofText? flags text.toList
  if regex.isSmall then
    return ⟨text, regex.program.findFrom [], fun found => Program.findFrom_isPrefix found⟩
  else none

theorem text_of_compile? {flags : Flags} {text : String} {compiled : CompiledRegex}
    (made : compile? flags text = some compiled) : compiled.text = text := by
  obtain ⟨regex, -, kept⟩ := Option.bind_eq_some_iff.mp made
  split at kept <;> cases kept
  rfl

instance : RegexEngine where
  compile? := compile? ⟨false, false, false, false, false⟩
  text_of_compile? := text_of_compile?

end Regex

/-- A pattern for an expression as it stands, with letters in any case or dots that match line
feeds if so asked. -/
def Pattern.ofRegex? (text : String) (ignoreCase dotAll : Bool) : Option Pattern :=
  (Regex.compile? ⟨ignoreCase, false, dotAll, false, false⟩ text).map .ofRegex

theorem Pattern.source_of_ofRegex? {text : String} {ignoreCase dotAll : Bool} {pattern : Pattern}
    (made : Pattern.ofRegex? text ignoreCase dotAll = some pattern) : pattern.source = text := by
  obtain ⟨regex, compiled, rfl⟩ := Option.map_eq_some_iff.mp made
  exact Regex.text_of_compile? compiled

end TextGrammar
