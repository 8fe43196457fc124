import Mathlib.Data.List.DropRight

-- Python's operations on text, on lists of characters.
namespace Text

def isSpace (c : Char) : Bool :=
  let n := c.toNat
  decide ((9 ≤ n ∧ n ≤ 13) ∨ (28 ≤ n ∧ n ≤ 32) ∨ n ∈ [0x85,0xA0,0x1680,0x2028,0x2029,0x202F,0x205F,0x3000] ∨
    (0x2000 ≤ n ∧ n ≤ 0x200A))

def strip (p : Char → Bool) (text : List Char) : List Char := ((text.dropWhile p).reverse.dropWhile p).reverse

def join (separator : Char) (parts : List String) : String := String.ofList ([separator].intercalate (parts.map String.toList))

theorem strip_sublist (p : Char → Bool) (text : List Char) : (strip p text).Sublist text := by
  have back := (List.dropWhile_suffix (l := (text.dropWhile p).reverse) p).sublist.reverse
  rw [List.reverse_reverse] at back
  exact back.trans (List.dropWhile_suffix p).sublist

theorem strip_nil (p : Char → Bool) (text : List Char) : strip p text = [] ↔ ∀ c ∈ text, p c = true := by
  unfold strip
  rw [List.reverse_eq_nil_iff,List.dropWhile_eq_nil_iff]
  simp only [List.mem_reverse]
  constructor
  · intro blank
    rw [← List.dropWhile_eq_nil_iff]
    cases left : text.dropWhile p with
    | nil => rfl
    | cons c rest =>
      have member : c ∈ text.dropWhile p := left ▸ List.mem_cons_self
      have first : ¬p c = true := by
        have head := List.head_dropWhile_not p (l := text) (by simp [left])
        simpa [left] using head
      exact absurd (blank c member) first
  · intro blank c member
    exact blank c ((List.dropWhile_suffix p).sublist.subset member)

theorem strip_twice (p : Char → Bool) (text : List Char) : strip p (strip p text) = strip p text := by
  have front : (strip p text).dropWhile p = strip p text := by
    have begins : strip p text <+: text.dropWhile p := List.rdropWhile_prefix p _
    cases stripped : strip p text with
    | nil => rfl
    | cons c rest =>
      obtain ⟨more,whole⟩ := stripped ▸ begins
      have kept : (text.dropWhile p).dropWhile p = text.dropWhile p := List.dropWhile_idempotent p text
      rw [← whole,List.dropWhile_eq_self_iff] at kept
      exact List.dropWhile_cons_of_neg (kept (by simp))
  calc strip p (strip p text) = (((strip p text).dropWhile p).reverse.dropWhile p).reverse := rfl
    _ = ((text.dropWhile p).reverse.dropWhile p |>.dropWhile p).reverse := by rw [front,strip,List.reverse_reverse]
    _ = strip p text := by rw [List.dropWhile_idempotent]; rfl

-- What does not change whether a character is stripped can be done before.
theorem strip_map (f : Char → Char) (p : Char → Bool) (keeps : ∀ c, p (f c) = p c) (text : List Char) :
    strip p (text.map f) = (strip p text).map f := by
  have same : p ∘ f = p := funext keeps
  rw [strip,List.dropWhile_map,same,← List.map_reverse,List.dropWhile_map,same,← List.map_reverse,strip]

-- A fact about the characters below 128 and about those above.
theorem ascii_cases (p : Char → Prop) (small : ∀ n < 128, p (Char.ofNat n)) (large : ∀ c : Char, 128 ≤ c.toNat → p c) (c : Char) : p c := by
  rcases Nat.lt_or_ge c.toNat 128 with below | above
  · rw [← Char.ofNat_toNat c]
    exact small _ below
  · exact large c above

theorem toLower_large {c : Char} (large : 128 ≤ c.toNat) : c.toLower = c := by
  apply dif_neg
  rintro ⟨_,upper⟩
  have small : c.toNat ≤ 90 := UInt32.le_iff_toNat_le.mp upper
  omega

theorem toUpper_large {c : Char} (large : 128 ≤ c.toNat) : c.toUpper = c := by
  apply dif_neg
  rintro ⟨_,upper⟩
  have small : c.toNat ≤ 122 := UInt32.le_iff_toNat_le.mp upper
  omega

theorem toLower_twice (c : Char) : c.toLower.toLower = c.toLower := by
  refine ascii_cases (fun c => c.toLower.toLower = c.toLower) (by decide +kernel) ?_ c
  intro c large
  rw [toLower_large large,toLower_large large]

theorem toUpper_twice (c : Char) : c.toUpper.toUpper = c.toUpper := by
  refine ascii_cases (fun c => c.toUpper.toUpper = c.toUpper) (by decide +kernel) ?_ c
  intro c large
  rw [toUpper_large large,toUpper_large large]

theorem isSpace_toUpper (c : Char) : isSpace c.toUpper = isSpace c := by
  refine ascii_cases (fun c => isSpace c.toUpper = isSpace c) (by decide +kernel) ?_ c
  intro c large
  rw [toUpper_large large]

theorem toUpper_uncased (c : Char) : c.toUpper.toLower = c.toUpper → c.toLower = c.toUpper := by
  refine ascii_cases (fun c => c.toUpper.toLower = c.toUpper → c.toLower = c.toUpper) (by decide +kernel) ?_ c
  intro c large _
  rw [toLower_large large,toUpper_large large]

end Text
