import TextGrammar.Form.Description
import TextGrammar.Decimal.Literal
import TextGrammar.Pattern

/-!
Drafts: forms as they are put together, before they are checked. Normalizing a draft compiles its
patterns, reads its JSON descriptions, and leaves no sequence of one form but those in finished
forms.
-/

namespace TextGrammar

inductive FormError where
  | unsupported (misfit : Misfit)
  | invalidPattern (source : String)
  deriving DecidableEq, Repr

def FormError.message : FormError → String
  | .unsupported misfit => "unsupported form: " ++ misfit.text
  | .invalidPattern source => "invalid pattern /" ++ source ++ "/"

def compilePattern [RegexEngine] (source : String) : Except FormError (Form Pattern) :=
  match Pattern.compile? source with
  | some pattern => .ok (.leaf pattern)
  | none => .error (.invalidPattern source)

namespace Form

def compile [RegexEngine] : Form String → Except FormError (Form Pattern) := expand compilePattern

def sources : Form Pattern → Form String := map Pattern.source

end Form

inductive Ingredient where
  /-- A pattern that is yet to be compiled. -/
  | uncompiled (source : String)
  | compiled (pattern : Pattern)
  | described (json : Json)
  /-- A form that is used as it is. -/
  | finished (form : Form Pattern)

/-- The form that an ingredient becomes. A description is read as a whole before its patterns are
compiled. -/
def Ingredient.form [RegexEngine] : Ingredient → Except FormError (Form Pattern)
  | .uncompiled source => compilePattern source
  | .compiled pattern => .ok (.leaf pattern)
  | .described json => (Form.ofJson json).mapError .unsupported >>= Form.compile
  | .finished form => .ok form

abbrev Draft := Form Ingredient

namespace Draft

def normalize [RegexEngine] : Draft → Except FormError (Form Pattern) :=
  Form.expand Ingredient.form

def ofJson (json : Json) : Draft := .leaf (.described json)

def pattern (source : String) : Draft := .leaf (.uncompiled source)

def ofBool (value : Bool) : Draft := .literal (toString value)

def manyOfAny : List Draft → Draft
  | [only] => .manyOf only
  | drafts => .manyOf (.oneOf drafts)

def manyOfAll (drafts : List Draft) : Draft := .manyOf (.sequence drafts)

def anyNumberOf (drafts : List Draft) : Draft := .optional (manyOfAny drafts)

def anyNumberOfAll (drafts : List Draft) : Draft := .optional (manyOfAll drafts)

def separated (draft separator : Draft) : Draft :=
  .sequence [draft, .optional (.manyOf (.sequence [separator, draft]))]

end Draft

def Form.reread [RegexEngine] (form : Form Pattern) : Except FormError (Form Pattern) :=
  (Draft.ofJson form.sources.toJson).normalize

inductive NumberKind where
  | signed (bits : Nat)
  | unsigned (bits : Nat)
  | binary (format : BinaryFormat)

def NumberKind.literal? (kind : NumberKind) (text : String) : Option String :=
  match kind with
  | .signed bits =>
    (Decimal.readInteger? (-Int.pow 2 (bits - 1)) (Int.pow 2 (bits - 1) - 1) text).map toString
  | .unsigned bits => (Decimal.readInteger? 0 (Int.pow 2 bits - 1) text).map toString
  | .binary format => (Decimal.readBinary? format text).map format.text

end TextGrammar
