import RiskPulse.AmountParsing
import RiskPulse.DateParsing
import RiskPulse.Library.Whitespace
import RiskPulse.TagStripping

namespace RiskPulse
open Regex

-- lower() or upper(): it gives characters that it keeps, is the identity on a text of such,
-- and composing them gives such again.
structure CaseMap (nfc : List Char → List Char) where
  apply : List Char → List Char
  given : ∀ text, ∀ c ∈ apply text, apply [c] = [c]
  kept : ∀ text, (∀ c ∈ text, apply [c] = [c]) → apply text = text
  composed : ∀ text, (∀ c ∈ text, apply [c] = [c]) → ∀ c ∈ nfc text, apply [c] = [c]
  space : apply [' '] = [' ']

-- What the cleaning takes of the language. Normalising keeps the number of parts that the
-- canonical decomposition has, a blank is one part, an ASCII text stays, and blanks other than
-- the space are not made from it. Rounding twice is rounding once, and no numeral has a bracket.
structure CleaningHost where
  dates : DateHost
  amounts : AmountHost
  nfc : List Char → List Char
  control : Char → Bool
  lower : CaseMap nfc
  upper : CaseMap nfc
  str : Value → String
  readBytes : List UInt8 → Option PyFloat
  decomposed : ∃ parts : Char → Nat, (∀ c, 0 < parts c) ∧ (∀ c, Text.isSpace c = true → parts c = 1) ∧
    ∀ text, Text.weight parts (nfc text) = Text.weight parts text
  ascii : ∀ text, (∀ c ∈ text, c.toNat < 128) → nfc text = text
  blanks : ∀ text, (∀ c ∈ text, Text.isSpace c = true → c = ' ') → ∀ c ∈ nfc text, Text.isSpace c = true → c = ' '
  rounded : ∀ x, amounts.round (amounts.round x 4) 4 = amounts.round x 4
  unbracketed : ∀ text, '<' ∈ text → amounts.readFloat text = none
  early : ∀ y, 1 ≤ y → y < 1000 → dates.year y = Decimal.fixed 4 y ∨ dates.year y = Nat.toDigits 10 y

namespace DataCleaner

def trimFields : List String :=
  ["external_transaction_id","account_id","customer_id","merchant_id","merchant_name","merchant_category_code","transaction_currency",
    "card_last_four","ip_address","device_id","geo_country","geo_city"]

def lowercaseFields : List String := ["transaction_type","channel","card_type","device_type"]

def uppercaseFields : List String := ["transaction_currency","geo_country"]

section Tags
variable (word : Char → Bool)

def untag (text : List Char) : List Char := tagRe.sub word [] 0 [] text

theorem untag_replaced (text : List Char) : Replaced word tagRe [] [] text (untag word text) :=
  sub_replaced word tagRe [] (tagRe_visible word) [] text

theorem replaced_sublist {back text result : List Char} (replaced : Replaced word tagRe [] back text result) : result.Sublist text := by
  induction replaced with
  | stop => exact List.Sublist.slnil
  | keep c unmatched later ih => exact ih.cons_cons c
  | cut m matched later ih => exact List.sublist_append_of_sublist_right ih

theorem untag_sublist (text : List Char) : (untag word text).Sublist text := replaced_sublist word (untag_replaced word text)

theorem replaced_kept {back text result : List Char} (replaced : Replaced word tagRe [] back text result)
    (untagged : ∀ m, IsTag m → ¬m <:+: text) : result = text := by
  induction replaced with
  | stop => rfl
  | @keep back text result c unmatched later ih =>
    rw [ih fun m tag inside => untagged m tag (inside.trans (List.suffix_cons c text).isInfix)]
  | @cut back rest result m matched later ih =>
    exact absurd (List.prefix_append m rest).isInfix (untagged m ((tagRe_matches word _ _ _).mp matched))

theorem untag_twice (text : List Char) : untag word (untag word text) = untag word text :=
  replaced_kept word (untag_replaced word _) (replaced_untagged word (untag_replaced word text))

theorem untag_plain (text : List Char) (plain : '<' ∉ text) : untag word text = text := by
  refine replaced_kept word (untag_replaced word text) ?_
  rintro m ⟨inner,rfl,_⟩ inside
  exact plain (inside.subset List.mem_cons_self)

end Tags

variable (h : CleaningHost)

section Encoding

-- _ASCII_CONTROL_TRANSLATION has no tab and no line feed.
def asciiControl (c : Char) : Bool := decide ((c.toNat < 32 ∨ c.toNat = 127) ∧ c.toNat ≠ 9 ∧ c.toNat ≠ 10)

-- unicodedata.category(c).startswith("C")
def otherCategory (c : Char) : Bool := if c.toNat < 128 then decide (c.toNat < 32 ∨ c.toNat = 127) else h.control c

def fixText (value : List Char) : List Char :=
  let normalized := h.nfc value
  if normalized.all fun c => decide (c.toNat < 128) then normalized.filter fun c => !asciiControl c
  else normalized.filter fun c => decide (c = '\n' ∨ c = '\t') || !otherCategory h c

def controls (c : Char) : Bool := !(decide (c = '\n' ∨ c = '\t') || !otherCategory h c)

theorem controls_ascii (c : Char) (small : c.toNat < 128) : controls h c = asciiControl c := by
  have feed : c = '\n' ↔ c.toNat = 10 := ⟨fun same => by rw [same]; rfl,fun same => by rw [← Char.ofNat_toNat c,same]⟩
  have tab : c = '\t' ↔ c.toNat = 9 := ⟨fun same => by rw [same]; rfl,fun same => by rw [← Char.ofNat_toNat c,same]⟩
  simp only [controls,asciiControl,otherCategory,if_pos small,feed,tab]
  rw [Bool.eq_iff_iff]
  simp
  omega

-- Both ways of removing control characters are one.
theorem fixText_filter (value : List Char) : fixText h value = (h.nfc value).filter fun c => !controls h c := by
  unfold fixText
  simp only
  split
  · rename_i all
    apply List.filter_congr
    intro c member
    rw [controls_ascii h c (of_decide_eq_true (List.all_eq_true.mp all c member))]
  · apply List.filter_congr
    intro c member
    rw [controls,Bool.not_not]

theorem fixText_sublist (value : List Char) : (fixText h value).Sublist (h.nfc value) := by
  rw [fixText_filter]
  exact List.filter_sublist

theorem fixText_fixed (text : List Char) (normal : h.nfc text = text) (uncontrolled : ∀ c ∈ text, controls h c = false) :
    fixText h text = text := by
  rw [fixText_filter,normal,List.filter_eq_self]
  intro c member
  rw [uncontrolled c member]
  rfl

end Encoding

section Heads
variable (key : String)

def trimText (text : List Char) : List Char := if key ∈ trimFields then Text.trim text else text

def caseText (text : List Char) : List Char :=
  if key ∈ lowercaseFields then h.lower.apply text else if key ∈ uppercaseFields then h.upper.apply text else text

-- A field's text after the passes before the dates.
def headText (text : List Char) : List Char := caseText h key (trimText key (fixText h text))

-- A character that the case of the field keeps.
def Cased (c : Char) : Prop := caseText h key [c] = [c]

theorem caseText_given (text : List Char) : ∀ c ∈ caseText h key text, Cased h key c := by
  unfold Cased caseText
  split
  · exact fun c member => h.lower.given text c member
  · split
    · exact fun c member => h.upper.given text c member
    · exact fun _ _ => rfl

theorem caseText_kept (text : List Char) : (∀ c ∈ text, Cased h key c) → caseText h key text = text := by
  unfold Cased caseText
  split
  · exact h.lower.kept text
  · split
    · exact h.upper.kept text
    · exact fun _ => rfl

theorem cased_composed (text : List Char) : (∀ c ∈ text, Cased h key c) → ∀ c ∈ h.nfc text, Cased h key c := by
  unfold Cased caseText
  split
  · exact h.lower.composed text
  · split
    · exact h.upper.composed text
    · exact fun _ _ _ => rfl

theorem cased_space : Cased h key ' ' := by
  unfold Cased caseText
  split
  · exact h.lower.space
  · split
    · exact h.upper.space
    · rfl

-- Trimming what has been encoded takes nothing else than its characters and spaces.
theorem cased_trimmed (text : List Char) (cased : ∀ c ∈ text, Cased h key c) : ∀ c ∈ trimText key (fixText h text), Cased h key c := by
  have inside : ∀ c ∈ fixText h text, Cased h key c :=
    fun c member => cased_composed h key text cased c ((fixText_sublist h text).subset member)
  unfold trimText
  split
  · intro c member
    rcases Text.trim_chars _ c member with rfl | ⟨old,_⟩
    · exact cased_space h key
    · exact inside c old
  · exact inside

theorem trimText_weight {parts : Char → Nat} (positive : ∀ c, 0 < parts c) (blank : ∀ c, Text.isSpace c = true → parts c = 1)
    (text : List Char) : Text.weight parts (trimText key text) ≤ Text.weight parts text := by
  unfold trimText
  split
  · exact (Text.trim_weight positive blank text).1
  · exact Nat.le_refl _

end Heads

section Texts
variable (key : String)

-- A text that no pass over texts changes.
structure TextClean (value : List Char) : Prop where
  normal : h.nfc value = value
  uncontrolled : ∀ c ∈ value, controls h c = false
  spaced : key ∈ trimFields → Text.Spaced value
  cased : ∀ c ∈ value, Cased h key c
  untagged : untag h.amounts.word value = value

theorem head_clean (value : List Char) (clean : TextClean h key value) : headText h key value = value := by
  have trimmed : trimText key value = value := by
    unfold trimText
    split
    · rename_i trims
      exact (Text.trim_fixed value).mpr (clean.spaced trims)
    · rfl
  rw [headText,fixText_fixed h value clean.normal clean.uncontrolled,trimmed,caseText_kept h key value clean.cased]

-- Composing is undone by trimming only where it has done nothing.
theorem trim_normal (value : List Char) (same : trimText key (h.nfc value) = value) : h.nfc value = value := by
  obtain ⟨parts,positive,blank,kept⟩ := h.decomposed
  unfold trimText at same
  split at same
  · have mapped := (Text.trim_weight positive blank (h.nfc value)).2 (by rw [same,kept])
    rw [same] at mapped
    have spaces : ∀ c ∈ value, Text.isSpace c = true → c = ' ' := by
      intro c member blanks
      rw [← same] at member
      rcases Text.trim_chars _ c member with space | ⟨_,visible⟩
      · exact space
      · rw [visible] at blanks
        cases blanks
    have left : (h.nfc value).map Text.spaced = (h.nfc value).map id := by
      apply List.map_congr_left
      intro c member
      unfold Text.spaced
      split
      · rename_i blanks
        exact (h.blanks value spaces c member blanks).symm
      · rfl
    rw [left,List.map_id] at mapped
    exact mapped.symm
  · exact same

-- The passes over texts take parts away or nothing, so where they give a text back each of
-- them has left it alone.
theorem text_fixed (value : List Char) : untag h.amounts.word (headText h key value) = value ↔ TextClean h key value := by
  constructor
  · intro same
    obtain ⟨parts,positive,blank,kept⟩ := h.decomposed
    have cased : ∀ c ∈ value, Cased h key c := by
      intro c member
      rw [← same] at member
      exact caseText_given h key _ c ((untag_sublist _ _).subset member)
    rw [headText,caseText_kept h key _ (cased_trimmed h key value cased)] at same
    have fixed := fixText_sublist h value
    have light := Text.weight_sublist (w := parts) fixed
    rw [kept] at light
    have trimmed := trimText_weight key positive blank (fixText h value)
    have stripped := untag_sublist h.amounts.word (trimText key (fixText h value))
    have untagged := Text.sublist_weight positive stripped (by rw [same]; exact trimmed.trans light)
    rw [same] at untagged
    have whole : fixText h value = h.nfc value := by
      refine Text.sublist_weight positive fixed ?_
      rw [kept]
      calc Text.weight parts value = Text.weight parts (trimText key (fixText h value)) := by rw [← untagged]
        _ ≤ Text.weight parts (fixText h value) := trimmed
    rw [whole] at untagged same
    have normal := trim_normal h key value untagged.symm
    rw [normal] at untagged same whole
    refine ⟨normal,?_,?_,cased,?_⟩
    · rw [fixText_filter,normal,List.filter_eq_self] at whole
      intro c member
      have left := whole c member
      rwa [Bool.not_eq_true'] at left
    · intro trims
      rw [trimText,if_pos trims] at untagged
      exact (Text.trim_fixed value).mp untagged.symm
    · rwa [← untagged] at same
  · intro clean
    rw [head_clean h key value clean]
    exact clean.untagged

end Texts

end DataCleaner
end RiskPulse
