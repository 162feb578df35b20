/-!
Text measured in bytes of UTF-8. A text is a list of characters; an offset into it counts bytes,
so only some offsets lie between two characters. `splitAt?` cuts a text at such an offset and
refuses every other one, and `splitAt?_eq_some_iff` says that it does nothing else.
-/

namespace TextGrammar.Text

def byteLength : List Char → Nat
  | [] => 0
  | c :: rest => c.utf8Size + byteLength rest

@[simp] theorem byteLength_nil : byteLength [] = 0 := rfl

@[simp] theorem byteLength_cons (c : Char) (rest : List Char) :
    byteLength (c :: rest) = c.utf8Size + byteLength rest := rfl

@[simp] theorem byteLength_append (left right : List Char) :
    byteLength (left ++ right) = byteLength left + byteLength right := by
  induction left with
  | nil => simp
  | cons c rest ih => simp [ih, Nat.add_assoc]

theorem byteLength_eq_zero_iff {text : List Char} : byteLength text = 0 ↔ text = [] := by
  cases text with
  | nil => simp
  | cons c rest =>
      have positive := Char.utf8Size_pos c
      simp
      omega

/-- Cuts a text after its first `offset` bytes. There is no cut inside a character or past the
end. -/
def splitAt? : Nat → List Char → Option (List Char × List Char)
  | 0, text => some ([], text)
  | _ + 1, [] => none
  | offset + 1, c :: rest =>
    if c.utf8Size ≤ offset + 1 then
      (splitAt? (offset + 1 - c.utf8Size) rest).map fun (before, after) => (c :: before, after)
    else none

theorem splitAt?_byteLength (before after : List Char) :
    splitAt? (byteLength before) (before ++ after) = some (before, after) := by
  induction before with
  | nil => simp [splitAt?]
  | cons c rest ih =>
      have positive := Char.utf8Size_pos c
      obtain ⟨n, hn⟩ : ∃ n, c.utf8Size + byteLength rest = n + 1 :=
        ⟨c.utf8Size + byteLength rest - 1, by omega⟩
      have tail : n + 1 - c.utf8Size = byteLength rest := by omega
      simp [hn, splitAt?, tail, ih]
      omega

theorem splitAt?_eq_some_iff {offset : Nat} {text before after : List Char} :
    splitAt? offset text = some (before, after) ↔
      before ++ after = text ∧ byteLength before = offset := by
  constructor
  · intro found
    induction text generalizing offset before with
    | nil =>
        cases offset with
        | zero => simp [splitAt?] at found; simp [found]
        | succ offset => simp [splitAt?] at found
    | cons c rest ih =>
        cases offset with
        | zero => simp [splitAt?] at found; simp [found]
        | succ offset =>
            simp only [splitAt?] at found
            split at found
            · obtain ⟨⟨first, second⟩, inner, pair⟩ := Option.map_eq_some_iff.mp found
              obtain ⟨rfl, rfl⟩ := Prod.mk.inj pair
              obtain ⟨whole, length⟩ := ih inner
              simp [whole, length]
              omega
            · simp at found
  · rintro ⟨rfl, rfl⟩
    exact splitAt?_byteLength before after

def slice? (text : List Char) (start stop : Nat) : Option (List Char) :=
  if start ≤ stop then do
    let (_, rest) ← splitAt? start text
    let (middle, _) ← splitAt? (stop - start) rest
    return middle
  else none

end TextGrammar.Text
