import Mathlib.Data.String.Basic
import Mathlib.Tactic.SplitIfs

/-! The order of texts is the order of their bytes in UTF-8. -/

namespace TextGrammar.Text

theorem cons_lt_cons_of_digits {low high lead : Nat} {rest others : List UInt8}
    (within : high + lead < 256) (digits : low < high ∨ low = high ∧ rest < others) :
    UInt8.ofNat (low + lead) :: rest < UInt8.ofNat (high + lead) :: others := by
  refine List.cons_lt_cons_iff.mpr ?_
  rcases digits with less | ⟨rfl, tails⟩
  · left
    refine (UInt8.ofNat_lt_iff_lt ?_ within).mpr (Nat.add_lt_add_right less lead)
    exact Nat.lt_trans (Nat.add_lt_add_right less lead) within
  · exact .inr ⟨rfl, tails⟩

theorem digits_of_lt {low high : Nat} (less : low < high) :
    low / 262144 < high / 262144 ∨ low / 262144 = high / 262144 ∧
      (low / 4096 % 64 < high / 4096 % 64 ∨ low / 4096 % 64 = high / 4096 % 64 ∧
        (low / 64 % 64 < high / 64 % 64 ∨ low / 64 % 64 = high / 64 % 64 ∧
          low % 64 < high % 64)) := by
  have inDigits (n : Nat) :
      n = ((n / 262144 * 64 + n / 4096 % 64) * 64 + n / 64 % 64) * 64 + n % 64 := by omega
  have ofLow := inDigits low
  have ofHigh := inDigits high
  omega

theorem encode_append_lt_of_long {c d : Char} (long : 0xFFFF < c.val.toNat)
    (less : c.val.toNat < d.val.toNat) (rest others : List UInt8) :
    String.utf8EncodeChar c ++ rest < String.utf8EncodeChar d ++ others := by
  have valid : d.val.toNat < 0x110000 := by
    rcases d.valid with below | ⟨_, below⟩
    · exact Nat.lt_trans below (by decide)
    · exact below
  -- Four bytes carry the digits in base 64, the most significant of them first.
  have digits := digits_of_lt less
  simp (disch := omega) only [String.utf8EncodeChar, if_neg, List.cons_append, List.nil_append]
  generalize c.val.toNat = low, d.val.toNat = high at *
  have first (n : Nat) (within : n < 0x110000) : n / 262144 % 8 = n / 262144 :=
    Nat.mod_eq_of_lt (by omega)
  rw [first low (less.trans valid), first high valid]
  refine cons_lt_cons_of_digits (by omega) (digits.imp_right fun digits => ⟨digits.1, ?_⟩)
  refine cons_lt_cons_of_digits (by omega) (digits.2.imp_right fun digits => ⟨digits.1, ?_⟩)
  refine cons_lt_cons_of_digits (by omega) (digits.2.imp_right fun digits => ⟨digits.1, ?_⟩)
  exact cons_lt_cons_of_digits (by omega) (.inl digits.2)

theorem encode_append_lt {c d : Char} (less : c < d) (rest others : List UInt8) :
    String.utf8EncodeChar c ++ rest < String.utf8EncodeChar d ++ others := by
  have less : c.val.toNat < d.val.toNat := less
  by_cases long : 0xFFFF < c.val.toNat
  · exact encode_append_lt_of_long long less rest others
  -- The longer of two spellings begins with the greater byte; equally long ones have few digits.
  · simp only [String.utf8EncodeChar]
    generalize c.val.toNat = low, d.val.toNat = high at *
    split_ifs <;>
      simp only [List.cons_append, List.nil_append, List.cons_lt_cons_iff, UInt8.lt_iff_toNat_lt,
        ← UInt8.toNat_inj, UInt8.toNat_ofNat'] <;>
      omega

theorem utf8_lt_of_lt {text other : List Char} (less : text < other) :
    text.flatMap String.utf8EncodeChar < other.flatMap String.utf8EncodeChar := by
  induction less with
  | @nil c rest =>
      have positive : 0 < (String.utf8EncodeChar c).length := by
        rw [String.length_utf8EncodeChar]
        exact c.utf8Size_pos
      obtain ⟨byte, bytes, spelled⟩ := List.exists_cons_of_length_pos positive
      rw [List.flatMap_cons, spelled]
      exact List.nil_lt_cons byte _
  | rel less => exact encode_append_lt less _ _
  | cons tails ih => exact List.append_left_lt ih

theorem toUTF8_lt_of_lt {text other : String} (less : text < other) :
    text.toUTF8.data.toList < other.toUTF8.data.toList := by
  have bytes (text : String) :
      text.toUTF8.data.toList = text.toList.flatMap String.utf8EncodeChar := by
    rw [String.toUTF8, ← String.utf8Encode_toList, List.utf8Encode, List.toList_data_toByteArray]
  rw [bytes, bytes]
  exact utf8_lt_of_lt (String.lt_iff_toList_lt.mp less)

end TextGrammar.Text
