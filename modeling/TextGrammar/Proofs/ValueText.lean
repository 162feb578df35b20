import TextGrammar.Proofs.Matched

/-! The text of a value and the places of its nodes. A value leaves out empty parts, dissolves the
lists among its parts and is no list when only one part is left. No text and no node gets lost or
comes twice by that. -/

namespace TextGrammar

namespace Value

mutual

def chars : Value → List Char
  | .text content => content.toList
  | .list items => charsOfAll items
  | .node _ value _ _ => value.chars

def charsOfAll : List Value → List Char
  | [] => []
  | item :: rest => item.chars ++ charsOfAll rest

end

def wholeText (value : Value) : String := String.ofList value.chars

mutual

def allNodes : Value → List Node
  | .text _ => []
  | .list items => allNodesOfAll items
  | .node rule value start stop => ⟨rule, value, start, stop⟩ :: value.allNodes

def allNodesOfAll : List Value → List Node
  | [] => []
  | item :: rest => item.allNodes ++ allNodesOfAll rest

end

variable {α : Type} {read : Value → List α}

/-- What is read off a list in order off its items, and not off an empty text. -/
structure Additive (read : Value → List α) : Prop where
  list : ∀ items, read (.list items) = items.flatMap read
  empty : read (.text "") = []

theorem Additive.parts (additive : Additive read) (value : Value) :
    value.parts.flatMap read = read value := by
  cases value with
  | text content =>
      by_cases blank : content = ""
      · subst blank
        rw [additive.empty]
        rfl
      · simp [Value.parts, Value.isEmpty, blank]
  | list items => exact (additive.list items).symm
  | node rule value start stop => simp [Value.parts, Value.isEmpty]

theorem Additive.join (additive : Additive read) (values : List Value) :
    read (.join values) = values.flatMap read := by
  match values with
  | [] => exact additive.list []
  | [value] => simp [Value.join]
  | first :: second :: rest => exact additive.list _

theorem Additive.partsOfAll (additive : Additive read) (trees : List MatchTree) :
    (MatchTree.partsOfAll trees).flatMap read = trees.flatMap fun tree => read tree.asValue := by
  induction trees with
  | nil => rfl
  | cons tree rest ih =>
      rw [MatchTree.partsOfAll, List.flatMap_append, additive.parts, ih, List.flatMap_cons]

theorem Additive.of_cons (readAll : List Value → List α)
    (list : ∀ items, read (.list items) = readAll items) (nil : readAll [] = [])
    (cons : ∀ item rest, readAll (item :: rest) = read item ++ readAll rest)
    (empty : read (.text "") = []) : Additive read where
  list items := by
    rw [list]
    induction items with
    | nil => exact nil
    | cons item rest ih => rw [cons, ih, List.flatMap_cons]
  empty := empty

theorem additive_chars : Additive chars :=
  .of_cons charsOfAll (fun _ => by rw [chars]) (by rw [charsOfAll])
    (fun _ _ => by rw [charsOfAll]) rfl

theorem additive_nodes : Additive nodes :=
  .of_cons nodesOfAll (fun _ => by rw [nodes]) (by rw [nodesOfAll])
    (fun _ _ => by rw [nodesOfAll]) rfl

theorem additive_allNodes : Additive allNodes :=
  .of_cons allNodesOfAll (fun _ => by rw [allNodes]) (by rw [allNodesOfAll])
    (fun _ _ => by rw [allNodesOfAll]) rfl

theorem Additive.sequence_cons (additive : Additive read) (tree : MatchTree)
    (trees : List MatchTree) (start stop first last : Position) :
    read (MatchTree.sequence first last (tree :: trees)).asValue =
      read tree.asValue ++ read (MatchTree.sequence start stop trees).asValue := by
  rw [MatchTree.asValue, MatchTree.asValue, additive.join, additive.join, additive.partsOfAll,
    additive.partsOfAll, List.flatMap_cons]

theorem Additive.repetition_cons (additive : Additive read) (tree : MatchTree)
    (trees : List MatchTree) (start stop first last : Position) :
    read (MatchTree.repetition first last (tree :: trees)).asValue =
      read tree.asValue ++ read (MatchTree.repetition start stop trees).asValue :=
  additive.sequence_cons tree trees start stop first last

theorem Additive.sequence_nil (additive : Additive read) (start stop : Position) :
    read (MatchTree.sequence start stop []).asValue = [] := by
  rw [MatchTree.asValue, additive.join]
  rfl

theorem Additive.repetition_once (additive : Additive read) (tree : MatchTree)
    (start stop : Position) :
    read (MatchTree.repetition start stop [tree]).asValue = read tree.asValue := by
  rw [MatchTree.asValue, additive.join, additive.partsOfAll, List.flatMap_singleton]

end Value

def Spaced : List Node → Nat → Nat → Prop
  | [], low, high => low ≤ high
  | node :: rest, low, high =>
    low ≤ node.start.offset ∧ node.start.offset ≤ node.stop.offset ∧
      Spaced rest node.stop.offset high

namespace Spaced

variable {nodes left right : List Node} {low middle high : Nat}

theorem le (spaced : Spaced nodes low high) : low ≤ high := by
  induction nodes generalizing low with
  | nil => exact spaced
  | cons node rest ih =>
      obtain ⟨below, ordered, others⟩ := spaced
      have above := ih others
      omega

theorem append (first : Spaced left low middle) (second : Spaced right middle high) :
    Spaced (left ++ right) low high := by
  induction left generalizing low with
  | nil =>
      have below : low ≤ middle := first
      cases right with
      | nil => exact Nat.le_trans below second
      | cons node rest => exact ⟨Nat.le_trans below second.1, second.2⟩
  | cons node rest ih =>
      obtain ⟨below, ordered, others⟩ := first
      exact ⟨below, ordered, ih others⟩

theorem within (spaced : Spaced nodes low high) :
    ∀ node ∈ nodes, low ≤ node.start.offset ∧ node.stop.offset ≤ high := by
  induction nodes generalizing low with
  | nil => intro node member; cases member
  | cons first rest ih =>
      obtain ⟨below, ordered, others⟩ := spaced
      intro node member
      rcases List.mem_cons.mp member with rfl | later
      · exact ⟨below, others.le⟩
      · have inside := ih others node later
        exact ⟨by omega, inside.2⟩

theorem pairwise (spaced : Spaced nodes low high) :
    nodes.Pairwise fun left right => left.stop.offset ≤ right.start.offset := by
  induction nodes generalizing low with
  | nil => exact .nil
  | cons first rest ih =>
      obtain ⟨below, ordered, others⟩ := spaced
      exact .cons (fun node later => (others.within node later).1) (ih others)

end Spaced

/-- A node whose value is the text that it covers, with its children in order inside of it. -/
structure Node.Faithful (node : Node) (source : String) : Prop where
  text : node.value.wholeText = node.textIn source
  ordered : node.start.offset ≤ node.stop.offset
  inside : ∀ child ∈ node.children,
    node.start.offset ≤ child.start.offset ∧ child.stop.offset ≤ node.stop.offset
  apart : node.children.Pairwise fun left right => left.stop.offset ≤ right.start.offset

namespace Grammar

theorem excerpt_of_append_rest {source : String} {first last : Cursor source.toList}
    {between : List Char} (whole : between ++ last.rest = first.rest) :
    excerpt source first.position last.position = String.ofList between := by
  rw [excerpt, Cursor.slice?_of_append_rest whole]
  rfl

namespace Matched

variable {grammar : Grammar} {form : Form Pattern} {tree : MatchTree}

section

variable {source : List Char} {cursor behind : Cursor source}

theorem chars_append_rest (matched : grammar.Matched form cursor tree behind) :
    tree.asValue.chars ++ behind.rest = cursor.rest := by
  induction matched with
  | literal present => simp [Form.takeText, MatchTree.asValue, Value.chars, Cursor.advance]
  | pattern found => simp [Form.takeText, MatchTree.asValue, Value.chars, Cursor.advance]
  | sequence_nil => rw [Value.additive_chars.sequence_nil, List.nil_append]
  | @sequence_cons _ _ cursor tree behind start stop others last _ _ head tail =>
      calc
        _ = (tree.asValue.chars ++ (MatchTree.sequence start stop others).asValue.chars) ++
            last.rest := by rw [Value.additive_chars.sequence_cons tree others start stop]
        _ = tree.asValue.chars ++ behind.rest := by rw [List.append_assoc, tail]
        _ = cursor.rest := head
  | oneOf _ _ inside => exact inside
  | manyOf_once _ once => rw [Value.additive_chars.repetition_once, once]
  | @manyOf_more _ cursor tree behind start stop others last _ _ _ head tail =>
      calc
        _ = (tree.asValue.chars ++ (MatchTree.repetition start stop others).asValue.chars) ++
            last.rest := by rw [Value.additive_chars.repetition_cons tree others start stop]
        _ = tree.asValue.chars ++ behind.rest := by rw [List.append_assoc, tail]
        _ = cursor.rest := head
  | optional_some _ inside => exact inside
  | optional_none => rfl
  | rule _ _ inside => exact inside
  | except _ _ inside => exact inside

theorem offset_le (matched : grammar.Matched form cursor tree behind) :
    cursor.position.offset ≤ behind.position.offset := by
  have whole := congrArg Text.byteLength matched.chars_append_rest
  have before := cursor.offset_add_byteLength_rest
  have after := behind.offset_add_byteLength_rest
  rw [Text.byteLength_append] at whole
  omega

theorem spaced (matched : grammar.Matched form cursor tree behind) :
    Spaced tree.asValue.nodes cursor.position.offset behind.position.offset := by
  induction matched with
  | @literal text cursor _ => exact Cursor.offset_le_of_le (cursor.le_advance text.toList.length)
  | @pattern _ cursor taken _ => exact Cursor.offset_le_of_le (cursor.le_advance taken.length)
  | sequence_nil =>
      rw [Value.additive_nodes.sequence_nil]
      exact Nat.le_refl _
  | @sequence_cons _ _ cursor tree behind start stop others last _ _ head tail =>
      rw [Value.additive_nodes.sequence_cons tree others start stop]
      exact head.append tail
  | oneOf _ _ inside => exact inside
  | manyOf_once _ once =>
      rw [Value.additive_nodes.repetition_once]
      exact once
  | @manyOf_more _ cursor tree behind start stop others last _ _ _ head tail =>
      rw [Value.additive_nodes.repetition_cons tree others start stop]
      exact head.append tail
  | optional_some _ inside => exact inside
  | optional_none => exact Nat.le_refl _
  | rule _ inner _ => exact ⟨Nat.le_refl _, inner.offset_le, Nat.le_refl _⟩
  | except _ _ inside => exact inside

theorem start_stop (matched : grammar.Matched form cursor tree behind) :
    tree.start = cursor.position ∧ tree.stop = behind.position := by
  induction matched with
  | oneOf _ _ inside => exact inside
  | optional_some _ inside => exact inside
  | except _ _ inside => exact inside
  | _ => exact ⟨rfl, rfl⟩

end

variable {source : String} {cursor behind : Cursor source.toList}

theorem text_eq (matched : grammar.Matched form cursor tree behind) :
    tree.asValue.wholeText = tree.textIn source := by
  obtain ⟨start, stop⟩ := matched.start_stop
  rw [Value.wholeText, MatchTree.textIn, start, stop]
  exact (excerpt_of_append_rest matched.chars_append_rest).symm

theorem node_faithful (rule : String) (matched : grammar.Matched form cursor tree behind) :
    Node.Faithful ⟨rule, tree.asValue, cursor.position, behind.position⟩ source where
  text := (excerpt_of_append_rest matched.chars_append_rest).symm
  ordered := matched.offset_le
  inside := matched.spaced.within
  apart := matched.spaced.pairwise

theorem allNodes_faithful (matched : grammar.Matched form cursor tree behind) :
    ∀ node ∈ tree.asValue.allNodes, node.Faithful source := by
  induction matched with
  | literal present => intro node member; cases member
  | pattern found => intro node member; cases member
  | sequence_nil =>
      rw [Value.additive_allNodes.sequence_nil]
      intro node member
      cases member
  | @sequence_cons _ _ cursor tree behind start stop others last _ _ head tail =>
      rw [Value.additive_allNodes.sequence_cons tree others start stop]
      intro node member
      exact (List.mem_append.mp member).elim (head node) (tail node)
  | oneOf _ _ inside => exact inside
  | manyOf_once _ once =>
      rw [Value.additive_allNodes.repetition_once]
      exact once
  | @manyOf_more _ cursor tree behind start stop others last _ _ _ head tail =>
      rw [Value.additive_allNodes.repetition_cons tree others start stop]
      intro node member
      exact (List.mem_append.mp member).elim (head node) (tail node)
  | optional_some _ inside => exact inside
  | optional_none => intro node member; cases member
  | @rule name _ _ _ _ _ inner inside =>
      intro node member
      rcases List.mem_cons.mp member with rfl | deeper
      · exact inner.node_faithful name
      · exact inside node deeper
  | except _ _ inside => exact inside

end Matched

/-- The value of a parse is its source and the value of a match the text that it covers, without
loss and without repetition, and so it is with each node in them. -/
theorem values_keep_text (grammar : Grammar) (source : String) :
    (∀ node, grammar.parse source = .ok node →
      node.value.wholeText = source ∧
        ∀ inner ∈ node :: node.value.allNodes, inner.Faithful source) ∧
    ∀ form position tree, grammar.matchForm form source position = .ok tree →
      tree.asValue.wholeText = tree.textIn source ∧
        ∀ inner ∈ tree.asValue.allNodes, inner.Faithful source := by
  constructor
  · intro node parsed
    obtain ⟨body, behind, matched, finished, rfl⟩ := exists_matched_of_parse parsed
    have whole : body.asValue.chars = source.toList := by
      have all := matched.chars_append_rest
      rwa [finished, List.append_nil] at all
    exact ⟨by rw [Value.wholeText, whole, String.ofList_toList], matched.allNodes_faithful⟩
  · intro form position tree result
    obtain ⟨cursor, behind, -, matched⟩ := exists_matched_of_matchForm result
    exact ⟨matched.text_eq, matched.allNodes_faithful⟩

def bracketed : Grammar :=
  ⟨[⟨"Root", .optional (.reference "Pair")⟩,
    ⟨"Pair", .sequence [.literal "é", .optional (.literal ":"),
      .sequence [.literal "[", .literal "]"]]⟩], "Root", none⟩

theorem values_keep_text_bracketed :
    bracketed.parse "é[]" =
      .ok ⟨"Root", .node "Pair" (.list [.text "é", .text "[", .text "]"]) .start ⟨4, 0, 3⟩,
        .start, ⟨4, 0, 3⟩⟩ ∧
      ∀ node, bracketed.parse "é[]" = .ok node → node.value.wholeText = "é[]" := by
  constructor
  · have room (active : List ActiveRule) : bracketed.HasRoom active :=
      fun _ limited => nomatch limited
    have pair : bracketed.matchRule [⟨"Root", 0⟩] "Pair" (.atStart "é[]".toList) =
        .ok (.sequence .start ⟨4, 0, 3⟩ [.text .start ⟨2, 0, 1⟩ "é",
          .empty ⟨2, 0, 1⟩ ⟨2, 0, 1⟩, .sequence ⟨2, 0, 1⟩ ⟨4, 0, 3⟩
            [.text ⟨2, 0, 1⟩ ⟨3, 0, 2⟩ "[", .text ⟨3, 0, 2⟩ ⟨4, 0, 3⟩ "]"]],
          (Cursor.atStart "é[]".toList).advance 3) := by
      rw [matchRule_entered rfl (by decide) (room _)]
      rfl
    have root : bracketed.matchRule [] "Root" (.atStart "é[]".toList) = _ :=
      matchRule_entered (show bracketed.form? "Root" = some _ from rfl)
        List.not_mem_nil (room [])
    rw [Form.matchWith, Form.matchWith, show (Cursor.atStart _).position.offset = 0 from rfl,
      pair] at root
    rw [parse_eq_finish]
    exact congrArg (finish "Root") root
  · intro node parsed
    exact ((values_keep_text bracketed "é[]").1 node parsed).1

end Grammar

end TextGrammar
