import Mathlib.Data.List.Forall2
import TextGrammar.Proofs.Tiling

/-! Matches are derivations. A match can be read off the form and the rules alone, whichever
alternatives were given up for it, and no excluded text is among the texts that it covers. -/

namespace TextGrammar.Grammar

inductive Derives (grammar : Grammar) (source : String) : Form Pattern → MatchTree → Prop
  | literal {text start stop} : Derives grammar source (.literal text) (.text start stop text)
  | pattern {pattern start stop content before rest}
      (place : Text.splitAt? start.offset source.toList = some (before, rest))
      (length : pattern.matchLength? rest = some (Text.byteLength content.toList)) :
      Derives grammar source (.leaf pattern) (.text start stop content)
  | sequence {forms start stop children}
      (each : List.Forall₂ (Derives grammar source) forms children) :
      Derives grammar source (.sequence forms) (.sequence start stop children)
  | oneOf {forms form tree} (member : form ∈ forms) (inside : Derives grammar source form tree) :
      Derives grammar source (.oneOf forms) tree
  | manyOf {form start stop children}
      (each : ∀ child ∈ children, Derives grammar source form child) :
      Derives grammar source (.manyOf form) (.repetition start stop children)
  | optional_none {form start stop} :
      Derives grammar source (.optional form) (.empty start stop)
  | optional_some {form tree} (inside : Derives grammar source form tree) :
      Derives grammar source (.optional form) tree
  | rule {name form start stop body} (found : grammar.form? name = some form)
      (inside : Derives grammar source form body) :
      Derives grammar source (.reference name) (.rule start stop name body)
  | except {form exclusions tree} (inside : Derives grammar source form tree)
      (allowed : tree.textIn source ∉ exclusions) :
      Derives grammar source (.except form exclusions) tree

variable {grammar : Grammar} {source : String} {form : Form Pattern} {tree : MatchTree}

theorem Derives.textIn_not_mem {exclusions : List String}
    (derived : grammar.Derives source (.except form exclusions) tree) :
    tree.textIn source ∉ exclusions := by
  cases derived with
  | except _ allowed => exact allowed

section

variable {cursor behind : Cursor source.toList}

theorem takeText_eq_text {content : List Char} (present : content <+: cursor.rest) :
    (Form.takeText cursor content.length).1 =
      .text cursor.position (cursor.advance content.length).position (String.ofList content) := by
  have front : cursor.rest.take content.length = content :=
    (List.prefix_iff_eq_take.mp present).symm
  simp only [Form.takeText, front]

theorem Matched.textTo_eq (matched : grammar.Matched form cursor tree behind) :
    String.ofList (cursor.textTo behind) = tree.textIn source := by
  have whole := matched.chars_append_rest
  rw [← matched.text_eq, Value.wholeText, Cursor.textTo_of_append_rest whole]

theorem Matched.derives (matched : grammar.Matched form cursor tree behind) :
    grammar.Derives source form tree := by
  induction matched with
  | @literal text cursor present =>
      have content := takeText_eq_text present
      rw [String.ofList_toList] at content
      rw [content]
      exact .literal
  | @pattern pattern cursor taken found =>
      obtain ⟨before, place⟩ := cursor.exists_splitAt?_offset
      have length : pattern.matchLength? cursor.rest =
          some (Text.byteLength (String.ofList taken).toList) := by
        rw [Pattern.matchLength?, found, String.toList_ofList]
        rfl
      rw [takeText_eq_text (Pattern.match?_isFront found)]
      exact .pattern place length
  | sequence_nil => exact .sequence .nil
  | sequence_cons _ _ head tail =>
      cases tail with
      | sequence each => exact .sequence (.cons head each)
  | oneOf member _ inside => exact .oneOf member inside
  | manyOf_once _ once => exact .manyOf (List.forall_mem_singleton.mpr once)
  | manyOf_more _ _ _ head tail =>
      cases tail with
      | manyOf each => exact .manyOf (List.forall_mem_cons.mpr ⟨head, each⟩)
  | optional_some _ inside => exact .optional_some inside
  | optional_none => exact .optional_none
  | rule found _ inside => exact .rule found inside
  | except inner allowed inside =>
      rw [inner.textTo_eq] at allowed
      exact .except inside allowed

end

/-- A match derives from its form by the rules of the grammar, left recursion or not. Wherever an
exclusion is tried, whatever rules are being matched there, it accepts none of the texts that it
excludes. -/
theorem matches_derive (grammar : Grammar) (source : String) :
    (∀ form position tree, grammar.matchForm form source position = .ok tree →
      grammar.Derives source form tree) ∧
    ∀ active form exclusions (cursor behind : Cursor source.toList) tree,
      grammar.outcome ⟨active, .except form exclusions, cursor⟩ = .ok (tree, behind) →
      tree.textIn source ∉ exclusions := by
  constructor
  · intro form position tree result
    obtain ⟨cursor, behind, _, matched⟩ := exists_matched_of_matchForm result
    exact matched.derives
  · intro active form exclusions cursor behind tree accepted
    have matched := matched_of_matchWith ⟨active, .except form exclusions, cursor⟩ accepted
    exact matched.derives.textIn_not_mem

def sums : Grammar :=
  ⟨[⟨"Root", .oneOf [.sequence [.reference "Root", .literal "+", .reference "Term"],
      .reference "Term"]⟩,
    ⟨"Term", .except (.manyOf (.literal "a")) ["aa"]⟩], "Root", none⟩

def summed : MatchTree :=
  .rule ⟨0, 0, 0⟩ ⟨3, 0, 3⟩ "Root" (.rule ⟨0, 0, 0⟩ ⟨3, 0, 3⟩ "Term"
    (.repetition ⟨0, 0, 0⟩ ⟨3, 0, 3⟩ [.text ⟨0, 0, 0⟩ ⟨1, 0, 1⟩ "a",
      .text ⟨1, 0, 1⟩ ⟨2, 0, 2⟩ "a", .text ⟨2, 0, 2⟩ ⟨3, 0, 3⟩ "a"]))

theorem matches_derive_summed :
    sums.matchForm (.reference "Root") "aaa+a" .start = .ok summed ∧
      sums.Derives "aaa+a" (.reference "Root") summed := by
  have result : sums.matchForm (.reference "Root") "aaa+a" .start = .ok summed := by
    with_unfolding_all rfl
  exact ⟨result, (matches_derive sums "aaa+a").1 _ _ _ result⟩

end TextGrammar.Grammar
