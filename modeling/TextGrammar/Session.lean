import TextGrammar.Grammar.Matching
import TextGrammar.Regex.Engine

/-!
Sessions with a grammar: requests that are answered one after the other. A request may change the
grammar for those after it; one that is refused leaves it as it was.
-/

namespace TextGrammar

inductive Request where
  | parse (source : String)
  | matchForm (draft : Draft) (source : String) (position : Position)
  | setRoot (name : String)
  | setDepthLimit (limit : Option Nat)
  | state
  | rule (name : String)
  | describe
  /-- Compiles the grammar again from its own description. -/
  | reload

inductive Answer where
  | node (node : Node)
  | tree (tree : MatchTree)
  | state (ruleNames : List String) (root : String) (depthLimit : Option Nat)
  | form (form : Option (Form Pattern))
  | description (json : Json)

inductive Refusal where
  | grammar (error : GrammarError)
  | form (error : FormError)
  | mismatch (error : MatchError String)

namespace Grammar

def state (grammar : Grammar) : Answer :=
  .state grammar.ruleNames grammar.root grammar.depthLimit

variable [RegexEngine]

def matchDraft (grammar : Grammar) (draft : Draft) (source : String) (position : Position) :
    Except Refusal MatchTree := do
  let form ← draft.normalize.mapError .form
  (grammar.matchForm form source position).mapError .mismatch

/-- Answers a request. Gives the grammar that the next request is put to as well. -/
def respond (grammar : Grammar) : Request → Grammar × Except Refusal Answer
  | .parse source => (grammar, .node <$> (grammar.parse source).mapError .mismatch)
  | .matchForm draft source position =>
    (grammar, .tree <$> grammar.matchDraft draft source position)
  | .setRoot name =>
    let (changed, result) := grammar.setRoot name
    (changed, (fun _ => changed.state) <$> result.mapError .grammar)
  | .setDepthLimit limit =>
    let changed := grammar.setDepthLimit limit
    (changed, .ok changed.state)
  | .state => (grammar, .ok grammar.state)
  | .rule name => (grammar, .ok (.form (grammar.form? name)))
  | .describe => (grammar, .ok (.description grammar.toJson))
  | .reload =>
    match ofJson grammar.toJson with
    | .ok reloaded => (reloaded, .ok reloaded.state)
    | .error error => (grammar, .error (.grammar error))

def respondAll (grammar : Grammar) : List Request → Grammar × List (Except Refusal Answer)
  | [] => (grammar, [])
  | request :: rest =>
    let (next, answer) := grammar.respond request
    let (last, answers) := next.respondAll rest
    (last, answer :: answers)

end Grammar

end TextGrammar
