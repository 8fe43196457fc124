import RiskPulse.DataCleaner
import RiskPulse.Library.Fallible

namespace RiskPulse
namespace DataCleaner

def defaultPiiFields : List String :=
  ["card_number","card_last_four","ssn","social_security_number","email","email_address","phone","phone_number","date_of_birth",
    "dob","name","first_name","last_name","full_name","customer_name","address","street_address","zip_code","postal_code",
    "password","secret","token","api_key","ip_address","device_id"]

-- How many characters at the end are shown; an e-mail address is handled apart.
def partialMaskFields : List (String × Nat) :=
  [("card_number",4),("card_last_four",4),("phone",4),("phone_number",4),("email",0),("email_address",0)]

def emailFields : List String := ["email","email_address"]

-- split("@", 1) and rsplit(".", 1), on a text that has the separator.
def splitFirst (separator : Char) (value : List Char) : List Char × List Char :=
  (value.takeWhile (· ≠ separator),(value.dropWhile (· ≠ separator)).tail)

def splitLast (separator : Char) (value : List Char) : List Char × List Char :=
  ((value.reverse.dropWhile (· ≠ separator)).tail.reverse,(value.reverse.takeWhile (· ≠ separator)).reverse)

def lastChars (n : Nat) (value : List Char) : List Char := value.drop (value.length - n)

def maskText (lower : String) (value : List Char) : Except String (List Char) :=
  let keep := (OrderedDict.lookupEntry lower partialMaskFields).getD 0
  if lower ∈ emailFields ∧ '@' ∈ value then
    match (splitFirst '@' value).1 with
    | [] => .error "string index out of range"
    | first :: _ => .ok (first :: ("***@".toList ++ (splitFirst '@' value).2))
  else if 0 < keep ∧ keep < value.length then .ok (List.replicate (value.length - keep) '*' ++ lastChars keep value)
  else if lower = "ip_address" ∧ '.' ∈ value then .ok ((splitLast '.' value).1 ++ ".***".toList)
  else if lower = "device_id" ∧ 8 < value.length then .ok (value.take 4 ++ "***".toList ++ lastChars 4 value)
  else .ok "***MASKED***".toList

def maskValue (text : KeyText) (fieldName : String) (value : Value) : Except String String :=
  if value = .none then .ok "***"
  else
    let strVal := text.str value
    if strVal = "" then .ok "***" else (maskText (text.lower fieldName) strVal.toList).map String.ofList

def maskEntry (text : KeyText) (piiFields : List String) (masked : Record) (entry : String × Value) : Except String Record :=
  if text.lower entry.1 ∈ piiFields then (maskValue text entry.1 entry.2).map fun mask => masked.set entry.1 (.str mask)
  else .ok masked

def maskPii (text : KeyText) (piiFields : List String) (record : Record) : Except String Record :=
  record.entries.foldlM (maskEntry text piiFields) record

-- mask_field: value[-visible_chars:] is all of the value when nothing is to be visible.
def visibleSuffix (visibleChars : Int) (value : List Char) : List Char :=
  if visibleChars ≤ 0 then value.drop (-visibleChars).toNat else lastChars visibleChars.toNat value

def maskField (value : String) (visibleChars : Int) (maskChar : String) : String :=
  let chars := value.toList
  if chars = [] then ""
  else if chars.length ≤ visibleChars then String.ofList (List.replicate chars.length maskChar.toList).flatten
  else
    let maskedLength := (chars.length - visibleChars).toNat
    String.ofList ((List.replicate maskedLength maskChar.toList).flatten ++ visibleSuffix visibleChars chars)

-- What the documentation says is shown of a text: the first character and the domain of an
-- e-mail address, the end of a card or telephone number, an address but for its last octet,
-- both ends of a device id.
def visiblePart (lower : String) (value : List Char) : Option (List Char × List Char) :=
  if lower ∈ emailFields then if '@' ∈ value then some (value.take 1,(splitFirst '@' value).2) else none
  else if lower ∈ ["card_number","card_last_four","phone","phone_number"] then some ([],lastChars 4 value)
  else if lower = "ip_address" then if '.' ∈ value then some ((splitLast '.' value).1,[]) else none
  else if lower = "device_id" then some (value.take 4,lastChars 4 value)
  else none

theorem mask_email (email : lower ∈ emailFields) (marked : '@' ∈ value) :
    maskText lower value = match value.take 1 with
      | [] => .error "string index out of range"
      | first :: _ => if first = '@' then .error "string index out of range" else .ok (first :: ("***@".toList ++ (splitFirst '@' value).2)) := by
  unfold maskText
  rw [if_pos ⟨email,marked⟩]
  cases value with
  | nil => cases marked
  | cons first rest =>
    by_cases sign : first = '@'
    · simp [splitFirst,sign]
    · simp [splitFirst,sign]

theorem mask_plain (email : lower ∈ emailFields) (unmarked : '@' ∉ value) : maskText lower value = .ok "***MASKED***".toList := by
  unfold maskText
  rw [if_neg fun both => unmarked both.2]
  have kind : (OrderedDict.lookupEntry lower partialMaskFields).getD 0 = 0 ∧ lower ≠ "ip_address" ∧ lower ≠ "device_id" := by
    rcases List.mem_pair.mp email with rfl | rfl <;> decide
  obtain ⟨keep,address,device⟩ := kind
  rw [keep,if_neg fun both => absurd both.1 (by decide),if_neg fun both => address both.1,if_neg fun both => device both.1]

theorem mask_number (number : lower ∈ ["card_number","card_last_four","phone","phone_number"]) :
    maskText lower value =
      if 4 < value.length then .ok (List.replicate (value.length - 4) '*' ++ lastChars 4 value) else .ok "***MASKED***".toList := by
  have four : (OrderedDict.lookupEntry lower partialMaskFields).getD 0 = 4 ∧ lower ∉ emailFields ∧ lower ≠ "ip_address" ∧ lower ≠ "device_id" := by
    simp only [List.mem_cons,List.not_mem_nil,or_false] at number
    rcases number with rfl | rfl | rfl | rfl <;> decide
  obtain ⟨keep,email,address,device⟩ := four
  unfold maskText
  dsimp only
  rw [if_neg fun both => email both.1,keep]
  by_cases long : 4 < value.length
  · rw [if_pos ⟨by decide,long⟩,if_pos long]
  · rw [if_neg fun both => long both.2,if_neg fun both => address both.1,if_neg fun both => device both.1,if_neg long]

theorem mask_address : maskText "ip_address" value =
    if '.' ∈ value then .ok ((splitLast '.' value).1 ++ ".***".toList) else .ok "***MASKED***".toList := by
  have kind : (OrderedDict.lookupEntry "ip_address" partialMaskFields).getD 0 = 0 ∧ "ip_address" ∉ emailFields ∧
      "ip_address" ≠ "device_id" := by decide
  obtain ⟨keep,email,device⟩ := kind
  unfold maskText
  dsimp only
  rw [if_neg fun both => email both.1,keep,if_neg fun both => absurd both.1 (by decide)]
  by_cases dotted : '.' ∈ value
  · rw [if_pos ⟨rfl,dotted⟩,if_pos dotted]
  · rw [if_neg fun both => dotted both.2,if_neg fun both => device both.1,if_neg dotted]

theorem mask_device : maskText "device_id" value =
    if 8 < value.length then .ok (value.take 4 ++ "***".toList ++ lastChars 4 value) else .ok "***MASKED***".toList := by
  have kind : (OrderedDict.lookupEntry "device_id" partialMaskFields).getD 0 = 0 ∧ "device_id" ∉ emailFields ∧
      "device_id" ≠ "ip_address" := by decide
  obtain ⟨keep,email,address⟩ := kind
  unfold maskText
  dsimp only
  rw [if_neg fun both => email both.1,keep,if_neg fun both => absurd both.1 (by decide),if_neg fun both => address both.1]
  by_cases long : 8 < value.length
  · rw [if_pos ⟨rfl,long⟩,if_pos long]
  · rw [if_neg fun both => long both.2,if_neg long]

theorem mask_other (other : lower ∉ emailFields) (number : lower ∉ ["card_number","card_last_four","phone","phone_number"])
    (address : lower ≠ "ip_address") (device : lower ≠ "device_id") : maskText lower value = .ok "***MASKED***".toList := by
  have none : (OrderedDict.lookupEntry lower partialMaskFields).getD 0 = 0 := by
    simp only [List.mem_cons,List.not_mem_nil,or_false,not_or,emailFields] at other number
    obtain ⟨a,b,c,d⟩ := number
    obtain ⟨e,f⟩ := other
    simp [OrderedDict.lookupEntry,partialMaskFields,Ne.symm a,Ne.symm b,Ne.symm c,Ne.symm d,Ne.symm e,Ne.symm f]
  unfold maskText
  dsimp only
  rw [if_neg fun both => other both.1,none,if_neg fun both => absurd both.1 (by decide),if_neg fun both => address both.1,
    if_neg fun both => device both.1]

-- By the kind of the field: the mask is made of the visible part and the length.
theorem mask_hidden (same : visiblePart lower a = visiblePart lower b) (length : a.length = b.length) :
    maskText lower a = maskText lower b := by
  unfold visiblePart at same
  by_cases email : lower ∈ emailFields
  · rw [if_pos email,if_pos email] at same
    by_cases marked : '@' ∈ a
    · by_cases other : '@' ∈ b
      · rw [if_pos marked,if_pos other] at same
        obtain ⟨first,domain⟩ := Prod.mk.inj (Option.some.inj same)
        rw [mask_email email marked,mask_email email other,first,domain]
      · rw [if_pos marked,if_neg other] at same
        cases same
    · by_cases other : '@' ∈ b
      · rw [if_neg marked,if_pos other] at same
        cases same
      · rw [mask_plain email marked,mask_plain email other]
  · rw [if_neg email,if_neg email] at same
    by_cases number : lower ∈ ["card_number","card_last_four","phone","phone_number"]
    · rw [if_pos number,if_pos number] at same
      rw [mask_number number,mask_number number,length,(Prod.mk.inj (Option.some.inj same)).2]
    · rw [if_neg number,if_neg number] at same
      by_cases address : lower = "ip_address"
      · subst address
        rw [if_pos rfl,if_pos rfl] at same
        rw [mask_address,mask_address]
        split at same <;> split at same
        · rename_i dotted other
          rw [if_pos dotted,if_pos other,(Prod.mk.inj (Option.some.inj same)).1]
        · cases same
        · cases same
        · rename_i plain other
          rw [if_neg plain,if_neg other]
      · rw [if_neg address,if_neg address] at same
        by_cases device : lower = "device_id"
        · subst device
          rw [if_pos rfl,if_pos rfl] at same
          obtain ⟨first,last⟩ := Prod.mk.inj (Option.some.inj same)
          rw [mask_device,mask_device,length,first,last]
        · rw [mask_other email number address device,mask_other email number address device]

-- Only an e-mail address whose local part is empty cannot be masked.
theorem maskText_ok : (∃ mask, maskText lower value = .ok mask) ↔ ¬(lower ∈ emailFields ∧ value.head? = some '@') := by
  by_cases email : lower ∈ emailFields
  · by_cases marked : '@' ∈ value
    · rw [mask_email email marked]
      cases value with
      | nil => cases marked
      | cons first rest =>
        by_cases sign : first = '@'
        · simp [email,sign]
        · simp [sign]
    · rw [mask_plain email marked]
      refine ⟨fun _ both => marked (List.mem_of_mem_head? both.2),fun _ => ⟨_,rfl⟩⟩
  · refine ⟨fun _ both => email both.1,fun _ => ?_⟩
    by_cases number : lower ∈ ["card_number","card_last_four","phone","phone_number"]
    · rw [mask_number number]
      split <;> exact ⟨_,rfl⟩
    · by_cases address : lower = "ip_address"
      · rw [address,mask_address]
        split <;> exact ⟨_,rfl⟩
      · by_cases device : lower = "device_id"
        · rw [device,mask_device]
          split <;> exact ⟨_,rfl⟩
        · exact ⟨_,mask_other email number address device⟩

variable (text : KeyText) (piiFields : List String)

-- An e-mail field whose text begins with the sign.
def EmptyLocalPart (field : String) (value : Value) : Prop :=
  value ≠ .none ∧ text.lower field ∈ emailFields ∧ (text.str value).toList.head? = some '@'

theorem maskValue_ok (field : String) (value : Value) :
    (∃ mask, maskValue text field value = .ok mask) ↔ ¬EmptyLocalPart text field value := by
  unfold maskValue EmptyLocalPart
  by_cases missing : value = .none
  · rw [if_pos missing]
    exact ⟨fun _ both => both.1 missing,fun _ => ⟨_,rfl⟩⟩
  · rw [if_neg missing]
    dsimp only
    by_cases blank : text.str value = ""
    · rw [if_pos blank,blank]
      exact ⟨(fun _ both => by cases both.2.2),fun _ => ⟨_,rfl⟩⟩
    · rw [if_neg blank]
      have masked := @maskText_ok (text.lower field) (text.str value).toList
      constructor
      · rintro ⟨mask,made⟩ both
        obtain ⟨chars,came,_⟩ := Fallible.map_ok.mp made
        exact masked.mp ⟨chars,came⟩ both.2
      · intro fine
        obtain ⟨chars,came⟩ := masked.mpr fun both => fine ⟨missing,both⟩
        exact ⟨_,Fallible.map_ok.mpr ⟨chars,came,rfl⟩⟩

theorem maskPii_ok (record : Record) : (∃ masked, maskPii text piiFields record = .ok masked) ↔
    ∀ entry ∈ record.entries, text.lower entry.1 ∈ piiFields → ¬EmptyLocalPart text entry.1 entry.2 := by
  apply Fallible.fold_succeeds
  intro entry _ masked
  unfold maskEntry
  by_cases pii : text.lower entry.1 ∈ piiFields
  · rw [if_pos pii,← maskValue_ok]
    constructor
    · rintro ⟨t,made⟩ _
      obtain ⟨mask,came,_⟩ := Fallible.map_ok.mp made
      exact ⟨mask,came⟩
    · intro fine
      obtain ⟨mask,came⟩ := fine pii
      exact ⟨_,Fallible.map_ok.mpr ⟨mask,came,rfl⟩⟩
  · rw [if_neg pii]
    exact ⟨fun _ named => absurd named pii,fun _ => ⟨_,rfl⟩⟩

-- An entry changes its own field only, and that only where it is personal.
theorem maskEntry_frame (made : maskEntry text piiFields masked entry = .ok t) (listed : entry.1 ∈ masked.keys) :
    t.keys = masked.keys ∧ ∀ key, key ≠ entry.1 ∨ text.lower key ∉ piiFields → Record.value t key = Record.value masked key := by
  unfold maskEntry at made
  by_cases pii : text.lower entry.1 ∈ piiFields
  · rw [if_pos pii] at made
    obtain ⟨mask,_,rfl⟩ := Fallible.map_ok.mp made
    refine ⟨(OrderedDict.insertEntry_keys _ _ _).trans (if_pos listed),?_⟩
    intro key other
    rw [Record.value_set]
    apply if_neg
    rintro rfl
    exact other.elim (fun different => different rfl) fun plain => plain pii
  · rw [if_neg pii] at made
    cases made
    exact ⟨rfl,fun _ _ => rfl⟩

theorem maskPii_frame (record : Record) (made : maskPii text piiFields record = .ok masked) :
    masked.keys = record.keys ∧ ∀ key, text.lower key ∉ piiFields → Record.value masked key = record.value key := by
  apply Fallible.fold_keeps (fun t : Record => t.keys = record.keys ∧ ∀ key, text.lower key ∉ piiFields →
    Record.value t key = record.value key) record.entries ?_ made ⟨rfl,fun _ _ => rfl⟩
  intro entry member s t step kept
  have listed : entry.1 ∈ s.keys := kept.1 ▸ List.mem_map_of_mem member
  obtain ⟨keys,values⟩ := maskEntry_frame text piiFields step listed
  exact ⟨keys.trans kept.1,fun key plain => (values key (.inr plain)).trans (kept.2 key plain)⟩

-- A personal field holds its mask: the entries before and after it do not change it.
theorem maskPii_masked (record : Record) (made : maskPii text piiFields record = .ok masked)
    (pii : text.lower key ∈ piiFields) (held : record.get? key = some value) :
    ∃ mask, maskValue text key value = .ok mask ∧ Record.value masked key = .str mask := by
  obtain ⟨before,after,split⟩ := List.append_of_mem ((OrderedDict.get?_entry record key value).mpr held)
  have unique := record.unique
  rw [split,List.map_append,List.map_cons] at unique
  have later : ∀ entry ∈ after, key ≠ entry.1 := by
    intro entry member same
    exact (List.nodup_cons.mp (List.nodup_append.mp unique).2.1).1 (List.mem_map.mpr ⟨entry,member,same.symm⟩)
  unfold maskPii at made
  rw [split] at made
  obtain ⟨u,first,more⟩ := (Fallible.fold_append before _).mp made
  obtain ⟨v,here,rest⟩ := (Fallible.fold_cons _ after).mp more
  have listed : ∀ entry ∈ record.entries, entry.1 ∈ record.keys := fun entry member => List.mem_map_of_mem member
  have keys : u.keys = record.keys := by
    apply Fallible.fold_keeps (fun t : Record => t.keys = record.keys) before ?_ first rfl
    intro entry member s t step kept
    have inside : entry.1 ∈ s.keys := kept ▸ listed entry (by rw [split]; exact List.mem_append_left _ member)
    exact (maskEntry_frame text piiFields step inside).1.trans kept
  have place : key ∈ record.keys := (OrderedDict.mem_keys record key).mpr ⟨value,held⟩
  have keysHere := (maskEntry_frame text piiFields here (keys ▸ place)).1.trans keys
  unfold maskEntry at here
  rw [if_pos pii] at here
  obtain ⟨mask,came,rfl⟩ := Fallible.map_ok.mp here
  refine ⟨mask,came,?_⟩
  have kept : Record.value masked key = .str mask ∧ masked.keys = record.keys := by
    apply Fallible.fold_keeps (fun t : Record => Record.value t key = .str mask ∧ t.keys = record.keys) after ?_ rest
    · refine ⟨?_,keysHere⟩
      rw [Record.value_set,if_pos rfl]
    · intro entry member s t step kept
      have inside : entry.1 ∈ s.keys :=
        kept.2 ▸ listed entry (by rw [split]; exact List.mem_append_right _ (List.mem_cons_of_mem _ member))
      obtain ⟨same,values⟩ := maskEntry_frame text piiFields step inside
      exact ⟨(values key (.inl (later entry member))).trans kept.1,same.trans kept.2⟩
  exact kept.1

-- Two values whose texts agree on what may be seen and on the length.
def LooksAlike (field : String) (a b : Value) : Prop :=
  visiblePart (text.lower field) (text.str a).toList = visiblePart (text.lower field) (text.str b).toList ∧
    (text.str a).toList.length = (text.str b).toList.length

theorem maskValue_hidden (alike : LooksAlike text field a b) (known : a ≠ .none) (other : b ≠ .none) :
    maskValue text field a = maskValue text field b := by
  obtain ⟨same,length⟩ := alike
  have blank : text.str a = "" ↔ text.str b = "" := by
    rw [← String.toList_inj,← String.toList_inj,String.toList_empty,← List.length_eq_zero_iff,← List.length_eq_zero_iff,length]
  unfold maskValue
  dsimp only
  rw [if_neg known,if_neg other,mask_hidden same length]
  by_cases empty : text.str a = ""
  · rw [if_pos empty,if_pos (blank.mp empty)]
  · rw [if_neg empty,if_neg fun here => empty (blank.mpr here)]

theorem maskField_hidden (visible : 0 < visibleChars) (length : v.toList.length = w.toList.length)
    (same : lastChars visibleChars v.toList = lastChars visibleChars w.toList) :
    maskField v visibleChars "*" = maskField w visibleChars "*" := by
  have some : ¬((visibleChars : Nat) : Int) ≤ 0 := by omega
  have blank : v.toList = [] ↔ w.toList = [] := by
    rw [← List.length_eq_zero_iff,← List.length_eq_zero_iff,length]
  unfold maskField visibleSuffix
  dsimp only
  rw [if_neg some,if_neg some,Int.toNat_natCast,same,length]
  by_cases empty : v.toList = []
  · rw [if_pos empty,if_pos (blank.mp empty)]
  · rw [if_neg empty,if_neg fun here => empty (blank.mpr here)]

-- With nothing to be visible the value follows its own mask.
theorem maskField_zero (filled : v.toList ≠ []) :
    maskField v 0 "*" = String.ofList (List.replicate v.toList.length '*' ++ v.toList) := by
  have long : ¬((v.toList.length : Int) ≤ 0) := by
    have positive := List.length_pos_of_ne_nil filled
    omega
  unfold maskField visibleSuffix
  dsimp only
  rw [if_neg filled,if_neg long,if_pos (Int.le_refl 0)]
  simp

structure MasksDocumented (record : Record) (length visibleChars : Nat) : Prop where
  returns : ∃ masked, maskPii text piiFields record = .ok masked
  others : ∀ masked, maskPii text piiFields record = .ok masked → masked.keys = record.keys ∧
    ∀ key, text.lower key ∉ piiFields → Record.value masked key = record.value key
  hidden : ∀ key value other masked changed, record.get? key = some value → text.lower key ∈ piiFields → value ≠ .none → other ≠ .none →
    LooksAlike text key value other → maskPii text piiFields record = .ok masked →
    maskPii text piiFields (record.set key other) = .ok changed → Record.value masked key = Record.value changed key
  field : ∀ v w : String, v.toList.length = length → w.toList.length = length →
    lastChars visibleChars v.toList = lastChars visibleChars w.toList →
    maskField v visibleChars "*" = maskField w visibleChars "*"

-- Masking keeps to what is documented exactly where no e-mail field begins with the sign,
-- and mask_field where it is asked to show something or has nothing to show.
theorem masking_documented (record : Record) (length visibleChars : Nat) :
    MasksDocumented text piiFields record length visibleChars ↔
      (∀ entry ∈ record.entries, text.lower entry.1 ∈ piiFields → ¬EmptyLocalPart text entry.1 entry.2) ∧
        (0 < visibleChars ∨ length = 0) := by
  constructor
  · intro law
    refine ⟨(maskPii_ok text piiFields record).mp law.returns,?_⟩
    by_contra hides
    rw [not_or,Nat.not_lt,Nat.le_zero] at hides
    obtain ⟨rfl,long⟩ := hides
    have filled : ∀ c : Char, (String.ofList (List.replicate length c)).toList ≠ [] := by
      intro c
      rw [String.toList_ofList]
      exact fun none => long (List.replicate_eq_nil_iff c |>.mp none)
    have sizes : ∀ c : Char, (String.ofList (List.replicate length c)).toList.length = length := by
      intro c
      rw [String.toList_ofList,List.length_replicate]
    have same := law.field _ _ (sizes 'a') (sizes 'b') (by simp [lastChars])
    change maskField _ 0 "*" = maskField _ 0 "*" at same
    rw [maskField_zero (filled 'a'),maskField_zero (filled 'b'),String.ofList_inj,sizes,sizes,List.append_cancel_left_eq,
      String.toList_ofList,String.toList_ofList,List.replicate_right_inj long] at same
    exact absurd same (by decide)
  · intro ⟨maskable,visible⟩
    refine ⟨(maskPii_ok text piiFields record).mpr maskable,fun masked made => maskPii_frame text piiFields record made,?_,?_⟩
    · intro key value other masked changed held pii known named alike made remade
      obtain ⟨mask,came,first⟩ := maskPii_masked text piiFields record made pii held
      obtain ⟨again,recame,second⟩ := maskPii_masked text piiFields (record.set key other) remade pii
        (by rw [OrderedDict.get?_set,if_pos rfl])
      rw [maskValue_hidden text alike known named,recame] at came
      cases came
      rw [first,second]
    · intro v w long longer same
      rcases visible with some | none
      · exact maskField_hidden some (long.trans longer.symm) same
      · subst none
        have empty : v = w := by
          rw [← String.toList_inj,List.length_eq_zero_iff.mp long,List.length_eq_zero_iff.mp longer]
        rw [empty]

-- An address without a local part, and two words with nothing to be visible.
theorem empty_local_part_raises_and_zero_shows :
    ¬MasksDocumented plainText defaultPiiFields (.ofList [("email",.str "@example.com")]) 0 4 ∧
      ¬MasksDocumented plainText defaultPiiFields .empty 6 0 ∧
      maskField "secret" 0 "*" = "******secret" ∧ maskField "public" 0 "*" = "******public" := by
  refine ⟨?_,?_,by decide +kernel,by decide +kernel⟩
  · intro law
    have maskable := (maskPii_ok plainText defaultPiiFields _).mp law.returns
    exact maskable _ List.mem_cons_self (by decide +kernel) ⟨Value.noConfusion,by decide +kernel,by decide +kernel⟩
  · intro law
    have same := law.field "secret" "public" (by decide +kernel) (by decide +kernel) (by decide +kernel)
    revert same
    decide +kernel

end DataCleaner
end RiskPulse
