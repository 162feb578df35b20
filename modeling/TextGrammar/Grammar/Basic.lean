import TextGrammar.Form.Draft
import TextGrammar.Json.Document

/-!
Grammars: named rules, the rule where a parse starts, and a limit on the nesting of rules. A grammar
is compiled from drafts, or from a JSON object of descriptions; all of its references are to rules
that it has.
-/

namespace TextGrammar

structure Rule where
  name : String
  form : Form Pattern

inductive GrammarError where
  | reservedName
  | duplicateRule (name : String)
  | invalidForm (rule : String) (error : FormError)
  | missingRoot
  | undefinedRule (rule : String) (name : String)
  | noSuchRule (name : String)
  | notAMapping (found : String)
  | invalidDescription
  deriving DecidableEq, Repr

namespace GrammarError

def message : GrammarError → String
  | .reservedName => "the rule name \"Error\" is reserved"
  | .duplicateRule name => "rule \"" ++ name ++ "\" is defined more than once"
  | .invalidForm rule _ => "rule \"" ++ rule ++ "\" has an invalid form"
  | .missingRoot => "grammar has no \"Root\" rule"
  | .undefinedRule rule name =>
    "rule \"" ++ rule ++ "\" references undefined rule \"" ++ name ++ "\""
  | .noSuchRule name => "no rule named \"" ++ name ++ "\""
  | .notAMapping found => "a grammar description must be an object, found " ++ found
  | .invalidDescription => "invalid grammar description"

end GrammarError

structure Grammar where
  rules : List Rule
  root : String
  /-- As many rules may be matched inside each other, if there is a limit. -/
  depthLimit : Option Nat

namespace Grammar

def reservedName : String := "Error"

def rootName : String := "Root"

def lookUp (rules : List Rule) (name : String) : Option (Form Pattern) :=
  (rules.find? (·.name == name)).map (·.form)

def addRule [RegexEngine] (rules : List Rule) (definition : String × Draft) :
    Except GrammarError (List Rule) :=
  let (name, draft) := definition
  if name = reservedName then .error .reservedName
  else if (lookUp rules name).isSome then .error (.duplicateRule name)
  else
    match draft.normalize with
    | .error error => .error (.invalidForm name error)
    | .ok form => .ok (rules ++ [⟨name, form⟩])

/-- The first rule with a reference to no rule, and the first such reference in it. -/
def undefinedReference? (rules : List Rule) : Option (String × String) :=
  rules.findSome? fun rule =>
    (rule.form.references.find? fun name => (lookUp rules name).isNone).map (rule.name, ·)

def compile [RegexEngine] (definitions : List (String × Draft)) :
    Except GrammarError Grammar := do
  let rules ← definitions.foldlM addRule []
  if (lookUp rules rootName).isNone then .error .missingRoot
  else
    match undefinedReference? rules with
    | some (rule, name) => .error (.undefinedRule rule name)
    | none => .ok ⟨rules, rootName, none⟩

def ofJson [RegexEngine] : Json → Except GrammarError Grammar
  | .object members =>
    compile (members.map fun (name, description) => (name, .ofJson description))
  | other => .error (.notAMapping other.kind)

def ofText [RegexEngine] (text : String) : Except GrammarError Grammar :=
  match Json.ofText? text with
  | some json => ofJson json
  | none => .error .invalidDescription

def toJson (grammar : Grammar) : Json :=
  .ofMembers (grammar.rules.map fun rule => (rule.name, rule.form.sources.toJson))

def form? (grammar : Grammar) (name : String) : Option (Form Pattern) :=
  lookUp grammar.rules name

def ruleNames (grammar : Grammar) : List String := grammar.rules.map (·.name)

def setRoot (grammar : Grammar) (name : String) : Grammar × Except GrammarError Unit :=
  if (grammar.form? name).isSome then ({ grammar with root := name }, .ok ())
  else (grammar, .error (.noSuchRule name))

def setDepthLimit (grammar : Grammar) (limit : Option Nat) : Grammar :=
  { grammar with depthLimit := limit }

end Grammar

end TextGrammar
