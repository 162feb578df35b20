import TextGrammar.Json.Token
import TextGrammar.Text.Quoted

/-! Texts in quotes are read back. A quoted text is the token of a JSON string, whatever follows, so
the quotes show where the text ends and what it is. -/

namespace TextGrammar

namespace Text

theorem character?_toNat (c : Char) : character? c.toNat = some c := by
  have valid : c.toNat.isValidChar := c.valid
  rw [character?, dif_pos valid]
  rfl

theorem hexNumber?_hexPair {code : Nat} (control : code < 0x20) :
    hexNumber? ('0' :: '0' :: hexPair code) = some code := by
  have each : ∀ code < 0x20, hexNumber? ('0' :: '0' :: hexPair code) = some code := by decide
  exact each code control

end Text

namespace JsonToken

open Text

variable {read rest : List Char} {c : Char}

theorem scanString_simple {mark : Char} (stands : simpleEscape? mark = some c) :
    scanString read ('\\' :: mark :: rest) = scanString (c :: read) rest := by
  rw [scanString, stands]
  rintro _ _ _ _ _ rfl _
  cases stands

theorem scanString_control (control : c.toNat < 0x20) :
    scanString read ('\\' :: 'u' :: '0' :: '0' :: hexPair c.toNat ++ rest) =
      scanString (c :: read) rest := by
  have number := hexNumber?_hexPair control
  rw [hexPair] at number ⊢
  simp only [List.cons_append, List.nil_append]
  rw [scanString, number]
  simp only [character?_toNat]

theorem scanString_plain (quote : c ≠ '"') (backslash : c ≠ '\\') (visible : ¬ c.toNat < 0x20) :
    scanString read (c :: rest) = scanString (c :: read) rest := by
  rw [scanString, if_neg visible]
  · exact quote
  · intro _ _ _ _ _ same _
    exact backslash same
  · intro _ _ same _
    exact backslash same

theorem escape_cases (c : Char) :
    (∃ mark, simpleEscape? mark = some c ∧ escape c = ['\\', mark]) ∨
      (c.toNat < 0x20 ∧ escape c = '\\' :: 'u' :: '0' :: '0' :: hexPair c.toNat) ∨
      (c ≠ '"' ∧ c ≠ '\\' ∧ ¬ c.toNat < 0x20 ∧ escape c = [c]) := by
  by_cases marked : c ∈ ['"', '\\', '\n', '\r', '\t', '\x08', '\x0c']
  · left
    simp only [List.mem_cons, List.not_mem_nil, or_false] at marked
    rcases marked with rfl | rfl | rfl | rfl | rfl | rfl | rfl
    · exact ⟨'"', rfl, rfl⟩
    · exact ⟨'\\', rfl, rfl⟩
    · exact ⟨'n', rfl, rfl⟩
    · exact ⟨'r', rfl, rfl⟩
    · exact ⟨'t', rfl, rfl⟩
    · exact ⟨'b', rfl, rfl⟩
    · exact ⟨'f', rfl, rfl⟩
  · right
    simp only [List.mem_cons, List.not_mem_nil, or_false, not_or] at marked
    obtain ⟨quote, backslash, others⟩ := marked
    by_cases control : c.toNat < 0x20
    · exact .inl ⟨control, by simp [escape, quote, backslash, others, control]⟩
    · exact .inr ⟨quote, backslash, control, by simp [escape, quote, backslash, others, control]⟩

theorem scanString_escape : scanString read (escape c ++ rest) = scanString (c :: read) rest := by
  rcases escape_cases c with ⟨mark, stands, written⟩ | ⟨control, written⟩ |
    ⟨quote, backslash, visible, written⟩
  · rw [written]
    exact scanString_simple stands
  · rw [written]
    exact scanString_control control
  · rw [written]
    exact scanString_plain quote backslash visible

theorem scanString_flatMap_escape (text : List Char) :
    scanString read (text.flatMap escape ++ '"' :: rest) =
      some (String.ofList (read.reverse ++ text), rest) := by
  induction text generalizing read with
  | nil => simp [scanString]
  | cons c others ih =>
      rw [List.flatMap_cons, List.append_assoc, scanString_escape, ih]
      simp

theorem scanOne_quote (text rest : List Char) :
    scanOne (quote text ++ rest) = some (.scalar (.string (String.ofList text)), rest) := by
  rw [quote, List.cons_append, List.append_assoc, scanOne]
  change (scanString [] (text.flatMap escape ++ '"' :: rest)).map _ = _
  rw [scanString_flatMap_escape]
  rfl

end JsonToken

namespace Text

/-- A quoted text shows where it ends. -/
theorem quote_append_inj {text other left right : List Char}
    (same : quote text ++ left = quote other ++ right) : text = other ∧ left = right := by
  have read := JsonToken.scanOne_quote text left
  rw [same, JsonToken.scanOne_quote] at read
  simp only [Option.some.injEq, Prod.mk.injEq, JsonToken.scalar.injEq, Json.string.injEq] at read
  exact ⟨(String.ofList_injective read.1).symm, read.2.symm⟩

end Text

end TextGrammar
