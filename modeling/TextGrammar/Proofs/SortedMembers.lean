import Mathlib.Data.String.Basic
import Mathlib.Data.List.Perm.Basic
import Mathlib.Data.List.Nodup
import TextGrammar.Json.Basic

/-! The members of an object that is built from members of distinct names. They are the given ones,
in ascending order of their names, and so they depend on nothing else. -/

namespace TextGrammar.Json

def Ascending (members : List (String × Json)) : Prop :=
  (members.map Prod.fst).Pairwise (· < ·)

theorem ascending_nil : Ascending [] := List.Pairwise.nil

theorem ascending_cons_iff {member : String × Json} {rest : List (String × Json)} :
    Ascending (member :: rest) ↔
      (∀ name ∈ rest.map Prod.fst, member.1 < name) ∧ Ascending rest := by
  rw [Ascending, List.map_cons, List.pairwise_cons, Ascending]

theorem Ascending.nodup {members : List (String × Json)} (ascending : Ascending members) :
    (members.map Prod.fst).Nodup :=
  List.Pairwise.imp (fun less => ne_of_lt less) ascending

section Insert

variable {name : String} {members : List (String × Json)}

theorem insertMember_perm (value : Json) (fresh : name ∉ members.map Prod.fst) :
    (insertMember name value members).Perm ((name, value) :: members) := by
  induction members with
  | nil => exact .refl _
  | cons member rest ih =>
      obtain ⟨other, kept⟩ := member
      obtain ⟨different, absent⟩ := not_or.mp (List.mem_cons.not.mp fresh)
      rw [insertMember]
      split
      · exact .refl _
      · exact ((ih absent).cons _).trans (.swap _ _ _)

theorem Ascending.insertMember (value : Json) (ascending : Ascending members)
    (fresh : name ∉ members.map Prod.fst) : Ascending (insertMember name value members) := by
  induction members with
  | nil => exact List.pairwise_singleton _ _
  | cons member rest ih =>
      obtain ⟨other, kept⟩ := member
      obtain ⟨different, absent⟩ := not_or.mp (List.mem_cons.not.mp fresh)
      obtain ⟨first, others⟩ := ascending_cons_iff.mp ascending
      rw [Json.insertMember]
      split
      · rename_i less
        refine ascending_cons_iff.mpr ⟨?_, ascending⟩
        intro later member
        rcases List.mem_cons.mp member with rfl | member
        · exact less
        · exact lt_trans less (first later member)
      · rename_i notLess
        have greater : other < name := lt_of_le_of_ne (not_lt.mp notLess) (Ne.symm different)
        refine ascending_cons_iff.mpr ⟨?_, ih others absent⟩
        intro later member
        have moved := ((insertMember_perm value absent).map Prod.fst).mem_iff.mp member
        rcases List.mem_cons.mp moved with rfl | member
        · exact greater
        · exact first later member

end Insert

theorem foldl_insertMember {members sorted : List (String × Json)} (ascending : Ascending sorted)
    (distinct : ((members ++ sorted).map Prod.fst).Nodup) :
    Ascending (members.foldl (fun sorted (name, value) => insertMember name value sorted) sorted) ∧
      (members.foldl (fun sorted (name, value) => insertMember name value sorted) sorted).Perm
        (members ++ sorted) := by
  induction members generalizing sorted with
  | nil => exact ⟨ascending, .refl _⟩
  | cons member rest ih =>
      obtain ⟨name, value⟩ := member
      have named : (((name, value) :: (rest ++ sorted)).map Prod.fst).Nodup := distinct
      obtain ⟨absent, _⟩ := List.nodup_cons.mp named
      rw [List.map_append] at absent
      have fresh : name ∉ sorted.map Prod.fst :=
        fun taken => absent (List.mem_append_right _ taken)
      have inserted := insertMember_perm value fresh
      have moved : (rest ++ insertMember name value sorted).Perm
          ((name, value) :: (rest ++ sorted)) :=
        (inserted.append_left rest).trans List.perm_middle
      obtain ⟨ordered, permuted⟩ :=
        ih (ascending.insertMember value fresh) ((moved.map Prod.fst).nodup_iff.mpr named)
      exact ⟨ordered, permuted.trans moved⟩

theorem Ascending.eq_of_perm {members others : List (String × Json)}
    (ascending : Ascending members) (ascendingToo : Ascending others)
    (permuted : members.Perm others) : members = others := by
  rw [Ascending, List.pairwise_map] at ascending ascendingToo
  exact permuted.eq_of_pairwise (fun _ _ _ _ less greater => absurd greater (lt_asymm less))
    ascending ascendingToo

/-- An object consists of the members that it is built from, in ascending order. -/
theorem ofMembers_eq_of_perm {members sorted : List (String × Json)} (ascending : Ascending sorted)
    (permuted : sorted.Perm members) : ofMembers members = .object sorted := by
  have distinct := (permuted.map Prod.fst).nodup_iff.mp ascending.nodup
  rw [← List.append_nil members] at distinct
  obtain ⟨ordered, reached⟩ := foldl_insertMember ascending_nil distinct
  rw [List.append_nil] at reached
  exact congrArg Json.object (ordered.eq_of_perm ascending (reached.trans permuted.symm))

end TextGrammar.Json
