import RiskPulse.IsoDates

namespace RiskPulse
open Calendar
namespace DataCleaner
variable (h : CleaningHost)

section Passes
variable (imputation : Record) (key : String)

-- The passes before the imputation leave nothing in a field that has a default.
def Defaulted (value : Value) : Prop := imputation.value key ≠ .none ∧ blankValue (onText (headText h key) value) = true

-- A value that no pass changes, the imputation apart.
structure Kept (value : Value) : Prop where
  text : ∀ s, value = .str s → TextClean h key s.toList
  date : dateValue h key value = .ok value
  numeric : numericValue h key value = .ok value

-- Where a default stands in, it is the value itself.
structure Clean (value : Value) : Prop where
  default_value : Defaulted h imputation key value → tailValue h key (imputation.value key) = .ok value
  kept : ¬Defaulted h imputation key value → Kept h key value

theorem onText_other (f : List Char → List Char) (value : Value) (other : ∀ s, value ≠ .str s) : onText f value = value := by
  cases value with
  | str s => exact absurd rfl (other s)
  | _ => rfl

-- What a date becomes.
theorem date_result {value result : Value} (ran : dateValue h key value = .ok result) :
    result = value ∨ key = "transaction_timestamp" ∧ ∃ wall, result = .str (String.ofList (isoOf h wall)) ∧
      (Representable wall ∨ ∃ offset, value = .datetime wall offset) := by
  unfold dateValue at ran
  split at ran
  · rename_i here
    unfold datedValue at ran
    split at ran
    · rename_i wall offset
      cases ran
      exact .inr ⟨here,wall,rfl,.inr ⟨offset,rfl⟩⟩
    · split at ran
      · cases ran
        exact .inl rfl
      · split at ran
        · cases ran
        · cases ran
          exact .inl rfl
        · split at ran
          · rename_i inside
            cases ran
            exact .inr ⟨here,_,rfl,.inl inside⟩
          · cases ran
    · cases ran
      exact .inl rfl
  · cases ran
    exact .inl rfl

-- What a number becomes.
theorem numeric_result {value result : Value} (ran : numericValue h key value = .ok result) :
    result = value ∨ result = .none ∨ ∃ x, result = .float x := by
  have amounts : ∀ {result}, amountValue h value = .ok result → result = value ∨ result = .none ∨ ∃ x, result = .float x := by
    intro result ran
    unfold amountValue at ran
    split at ran
    · cases ran
      exact .inl rfl
    · split at ran
      · cases ran
      · cases ran
        exact .inl rfl
      · cases ran
        split
        · exact .inr (.inr ⟨_,rfl⟩)
        · exact .inl rfl
  have coordinates : ∀ {limit result}, coordinateValue h limit value = .ok result → result = value ∨ result = .none ∨ ∃ x, result = .float x := by
    intro limit result ran
    unfold coordinateValue at ran
    split at ran
    · cases ran
      exact .inl rfl
    · split at ran
      · cases ran
      · cases ran
        exact .inr (.inl rfl)
      · cases ran
        split
        · exact .inr (.inl rfl)
        · exact .inl rfl
  unfold numericValue at ran
  split at ran
  · exact amounts ran
  · split at ran
    · exact coordinates ran
    · split at ran
      · exact coordinates ran
      · cases ran
        exact .inl rfl

theorem blank_dated (value : Value) (blank : blankValue value = true) : dateValue h key value = .ok value := by
  unfold dateValue
  split
  · unfold datedValue
    cases value with
    | str s =>
      simp only
      split
      · rfl
      · have stripped : Text.strip Text.isSpace s.toList = [] := List.isEmpty_iff.mp blank
        rw [tryParseDate_blank h.dates s.toList stripped]
    | none => rfl
    | _ => cases blank
  · rfl

theorem iso_visible (wall : Int) : blankValue (.str (String.ofList (isoOf h wall))) = false := by
  rw [blankValue,String.toList_ofList]
  cases empty : (Text.strip Text.isSpace (isoOf h wall)).isEmpty with
  | false => rfl
  | true =>
    have blank := (Text.strip_nil _ _).mp (List.isEmpty_iff.mp empty) '-' (isoOf_hyphen h wall)
    revert blank
    decide

theorem field_defaulted (value : Value) (defaulted : Defaulted h imputation key value) :
    fieldValue h imputation key value = tailValue h key (imputation.value key) := by
  rw [fieldValue,blank_dated h key _ defaulted.2]
  exact congrArg (tailValue h key) (if_pos defaulted)

theorem field_undefaulted (value : Value) (other : ¬Defaulted h imputation key value) :
    fieldValue h imputation key value = match dateValue h key (onText (headText h key) value) with
      | .error e => .error e
      | .ok value => tailValue h key value := by
  rw [fieldValue]
  cases dated : dateValue h key (onText (headText h key) value) with
  | error e => rfl
  | ok result =>
    simp only
    rw [imputeValue,if_neg]
    rintro ⟨default_value,blank⟩
    rcases date_result h key dated with same | ⟨_,wall,written,_⟩
    · rw [same] at blank
      exact other ⟨default_value,blank⟩
    · rw [written,iso_visible] at blank
      cases blank

theorem kept_head (value : Value) (kept : Kept h key value) : onText (headText h key) value = value := by
  cases value with
  | str s =>
    rw [onText,head_clean h key s.toList (kept.text s rfl),String.ofList_toList]
  | _ => rfl

theorem kept_tail (value : Value) (kept : Kept h key value) : tailValue h key value = .ok value := by
  rw [tailValue,kept.numeric]
  simp only
  cases value with
  | str s =>
    rw [onText,(kept.text s rfl).untagged,String.ofList_toList]
  | _ => rfl

-- An ISO text is kept by the passes over texts.
theorem iso_clean (wall : Int) (inside : Representable wall) : TextClean h "transaction_timestamp" (isoOf h wall) := by
  have chars := isoOf_isoChars h wall inside
  have plain : ∀ c, IsoChar c → c.toNat < 128 ∧ asciiControl c = false ∧ c ≠ '<' :=
    fun c iso => isoChar_all (fun c => c.toNat < 128 ∧ asciiControl c = false ∧ c ≠ '<') (by decide) iso
  refine ⟨h.ascii _ fun c member => (plain c (chars c member)).1,?_,?_,?_,?_⟩
  · intro c member
    rw [controls_ascii h c (plain c (chars c member)).1]
    exact (plain c (chars c member)).2.1
  · intro trims
    exact absurd trims (by decide)
  · intro c _
    have cased : "transaction_timestamp" ∉ lowercaseFields ∧ "transaction_timestamp" ∉ uppercaseFields := by decide
    rw [Cased,caseText,if_neg cased.1,if_neg cased.2]
  · apply untag_plain
    intro member
    exact (plain '<' (chars _ member)).2.2 rfl

theorem iso_kept (wall : Int) (inside : Representable wall) : Kept h "transaction_timestamp" (.str (String.ofList (isoOf h wall))) := by
  refine ⟨?_,?_,rfl⟩
  · intro s same
    cases same
    rw [String.toList_ofList]
    exact iso_clean h wall inside
  · exact isoOf_dated h wall inside

theorem field_parts (value result : Value) (other : ¬Defaulted h imputation key value) (ran : fieldValue h imputation key value = .ok result) :
    ∃ between last, dateValue h key (onText (headText h key) value) = .ok between ∧ numericValue h key between = .ok last ∧
      result = onText (untag h.amounts.word) last := by
  rw [field_undefaulted h imputation key value other] at ran
  cases dated : dateValue h key (onText (headText h key) value) with
  | error e =>
    rw [dated] at ran
    cases ran
  | ok between =>
    rw [dated] at ran
    simp only [tailValue] at ran
    cases numbered : numericValue h key between with
    | error e =>
      rw [numbered] at ran
      cases ran
    | ok last =>
      rw [numbered] at ran
      exact ⟨between,last,rfl,numbered,(Except.ok.inj ran).symm⟩

theorem untag_text {last : Value} {s : String} (same : .str s = onText (untag h.amounts.word) last) :
    ∃ t, last = .str t ∧ s.toList = untag h.amounts.word t.toList := by
  cases last with
  | str t =>
    refine ⟨t,rfl,?_⟩
    rw [Value.str.inj same,String.toList_ofList]
  | _ => cases same

theorem dated_numeric (value : Value) : numericValue h "transaction_timestamp" value = .ok value := rfl

-- A text that is given back has been left alone by every pass.
theorem kept_text (s : String) (between last : Value) (dated : dateValue h key (onText (headText h key) (.str s)) = .ok between)
    (numbered : numericValue h key between = .ok last) (same : .str s = onText (untag h.amounts.word) last) : Kept h key (.str s) := by
  obtain ⟨t,rfl,untagged⟩ := untag_text h same
  rcases numeric_result h key numbered with whole | gone | ⟨x,float⟩
  · subst whole
    rcases date_result h key dated with unread | ⟨rfl,wall,written,inside⟩
    · have head : t = String.ofList (headText h key s.toList) := Value.str.inj unread
      rw [head,String.toList_ofList] at untagged
      have clean := (text_fixed h key s.toList).mp untagged.symm
      have left : t = s := by rw [head,head_clean h key s.toList clean,String.ofList_toList]
      subst left
      rw [← unread] at dated
      refine ⟨?_,dated,numbered⟩
      intro other equal
      cases equal
      exact clean
    · have proper : Representable wall := by
        rcases inside with inside | ⟨offset,absurdity⟩
        · exact inside
        · cases absurdity
      have iso : s.toList = isoOf h wall := by
        rw [untagged,Value.str.inj written,String.toList_ofList]
        exact (iso_clean h wall proper).untagged
      have text : s = String.ofList (isoOf h wall) := by rw [← iso,String.ofList_toList]
      rw [text]
      exact iso_kept h wall proper
  · cases gone
  · cases float

theorem kept_other (value : Value) (other : ∀ s, value ≠ .str s) (between last : Value)
    (dated : dateValue h key (onText (headText h key) value) = .ok between) (numbered : numericValue h key between = .ok last)
    (same : value = onText (untag h.amounts.word) last) : Kept h key value := by
  have left : last = value := by
    rw [same]
    refine (onText_other _ last ?_).symm
    rintro s rfl
    exact other _ same
  subst left
  rw [onText_other _ last other] at dated
  rcases date_result h key dated with unread | ⟨rfl,wall,written,_⟩
  · subst unread
    exact ⟨fun s text => absurd text (other s),dated,numbered⟩
  · rw [written,dated_numeric] at numbered
    exact absurd (Except.ok.inj numbered).symm (other _)

theorem field_fixed (value : Value) : fieldValue h imputation key value = .ok value ↔ Clean h imputation key value := by
  by_cases defaulted : Defaulted h imputation key value
  · rw [field_defaulted h imputation key value defaulted]
    exact ⟨fun same => ⟨fun _ => same,fun other => absurd defaulted other⟩,fun clean => clean.default_value defaulted⟩
  · constructor
    · intro ran
      refine ⟨fun some_ => absurd some_ defaulted,fun _ => ?_⟩
      obtain ⟨between,last,dated,numbered,same⟩ := field_parts h imputation key value value defaulted ran
      cases value with
      | str s => exact kept_text h key s between last dated numbered same
      | _ => exact kept_other h key _ (fun _ absurdity => by cases absurdity) between last dated numbered same
    · intro clean
      have kept := clean.kept defaulted
      rw [field_undefaulted h imputation key value defaulted,kept_head h key value kept,kept.date]
      exact kept_tail h key value kept

end Passes

section Settling
variable (imputation : Record) (key : String)

-- What is left of a text without its tags gives no pass anything to do.
structure Left (rest : List Char) : Prop where
  default_value : Defaulted h imputation key (.str (String.ofList rest)) →
    tailValue h key (imputation.value key) = .ok (.str (String.ofList rest))
  normal : ¬Defaulted h imputation key (.str (String.ofList rest)) → h.nfc rest = rest ∧ ∀ c ∈ rest, controls h c = false
  spaced : ¬Defaulted h imputation key (.str (String.ofList rest)) → key ∈ trimFields → Text.Spaced rest
  read : ¬Defaulted h imputation key (.str (String.ofList rest)) →
    dateValue h key (.str (String.ofList rest)) = .ok (.str (String.ofList rest)) ∧
      numericValue h key (.str (String.ofList rest)) = .ok (.str (String.ofList rest))

-- When cleaning a field settles it: a default that stands in is clean, what is left of a text
-- that is no date and no number gives nothing to do, and a cleared coordinate has no default.
structure Settled (value : Value) : Prop where
  defaulted : Defaulted h imputation key value → ∀ stood, tailValue h key (imputation.value key) = .ok stood → Clean h imputation key stood
  left : ¬Defaulted h imputation key value → ∀ s, value = .str s →
    dateValue h key (.str (String.ofList (headText h key s.toList))) = .ok (.str (String.ofList (headText h key s.toList))) →
    numericValue h key (.str (String.ofList (headText h key s.toList))) = .ok (.str (String.ofList (headText h key s.toList))) →
    Left h imputation key (untag h.amounts.word (headText h key s.toList))
  cleared : ¬Defaulted h imputation key value → value ≠ .none → numericValue h key (onText (headText h key) value) = .ok .none →
    imputation.value key ≠ .none → tailValue h key (imputation.value key) = .ok .none

theorem left_clean (text : List Char) : Clean h imputation key (.str (String.ofList (untag h.amounts.word (headText h key text)))) ↔
    Left h imputation key (untag h.amounts.word (headText h key text)) := by
  have cased : ∀ c ∈ untag h.amounts.word (headText h key text), Cased h key c :=
    fun c member => caseText_given h key _ c ((untag_sublist _ _).subset member)
  have untagged := untag_twice h.amounts.word (headText h key text)
  constructor
  · intro clean
    refine ⟨clean.default_value,?_,?_,?_⟩
    · intro other
      have kept := (clean.kept other).text _ rfl
      rw [String.toList_ofList] at kept
      exact ⟨kept.normal,kept.uncontrolled⟩
    · intro other
      have kept := (clean.kept other).text _ rfl
      rw [String.toList_ofList] at kept
      exact kept.spaced
    · intro other
      exact ⟨(clean.kept other).date,(clean.kept other).numeric⟩
  · intro left
    refine ⟨left.default_value,?_⟩
    intro other
    refine ⟨?_,(left.read other).1,(left.read other).2⟩
    intro s same
    cases same
    rw [String.toList_ofList]
    exact ⟨(left.normal other).1,(left.normal other).2,left.spaced other,cased,untagged⟩

theorem parseAmount_rounded {value : Value} {x : PyFloat} (parsed : parseAmount h.amounts value = .ok (some x)) : h.amounts.round x 4 = x := by
  obtain ⟨y,rfl⟩ : ∃ y, x = h.amounts.round y 4 := by
    cases value with
    | bool b => exact ⟨_,(Option.some.inj (Except.ok.inj parsed)).symm⟩
    | int n =>
      change (h.amounts.floatOfInt n).map _ = _ at parsed
      cases float : h.amounts.floatOfInt n with
      | error e =>
        rw [float] at parsed
        cases parsed
      | ok y =>
        rw [float] at parsed
        exact ⟨y,(Option.some.inj (Except.ok.inj parsed)).symm⟩
    | float y => exact ⟨y,(Option.some.inj (Except.ok.inj parsed)).symm⟩
    | str text =>
      obtain ⟨y,_,rounded⟩ := Option.map_eq_some_iff.mp (Except.ok.inj parsed)
      exact ⟨y,rounded.symm⟩
    | _ => cases parsed
  exact h.rounded y

-- An amount that has been cleaned is left as it is.
theorem float_kept {value : Value} {x : PyFloat} (ran : numericValue h key value = .ok (.float x)) :
    numericValue h key (.float x) = .ok (.float x) := by
  by_cases same : value = .float x
  · rw [same] at ran
    exact ran
  have coordinates : ∀ limit, coordinateValue h limit value ≠ .ok (.float x) := by
    intro limit ran
    unfold coordinateValue at ran
    split at ran
    · exact same (Except.ok.inj ran)
    · split at ran
      · cases ran
      · cases ran
      · split at ran
        · cases ran
        · exact same (Except.ok.inj ran)
  unfold numericValue at ran ⊢
  by_cases amount : key = "transaction_amount"
  · rw [if_pos amount] at ran ⊢
    unfold amountValue at ran
    split at ran
    · exact absurd (Except.ok.inj ran) same
    · split at ran
      · cases ran
      · exact absurd (Except.ok.inj ran) same
      · rename_i cleaned parsed
        have rounded := parseAmount_rounded h parsed
        split at ran
        · cases ran
          simp [amountValue,parseAmount,rounded]
        · exact absurd (Except.ok.inj ran) same
  · rw [if_neg amount] at ran
    split at ran
    · exact absurd ran (coordinates _)
    · split at ran
      · exact absurd ran (coordinates _)
      · exact absurd (Except.ok.inj ran) same

theorem kept_none : Kept h key .none := by
  refine ⟨(fun s absurdity => by cases absurdity),blank_dated h key .none rfl,?_⟩
  unfold numericValue amountValue coordinateValue
  simp

-- Whether a default stands in for a value that the texts' passes leave.
theorem defaulted_kept (value : Value) (kept : onText (headText h key) value = value) :
    Defaulted h imputation key value ↔ imputation.value key ≠ .none ∧ blankValue value = true := by
  rw [Defaulted,kept]

theorem clean_visible (value : Value) (kept : Kept h key value) (visible : blankValue value = false) : Clean h imputation key value := by
  refine ⟨?_,fun _ => kept⟩
  intro defaulted
  rw [defaulted_kept h imputation key value (kept_head h key value kept),visible] at defaulted
  cases defaulted.2

variable {value : Value} (other : ¬Defaulted h imputation key value)
include other

-- A field that holds no text and no coordinate to clear is settled.
theorem settled_other (plain : ∀ s, value ≠ .str s)
    (uncleared : value ≠ .none → numericValue h key (onText (headText h key) value) ≠ .ok .none) : Settled h imputation key value :=
  ⟨fun defaulted => absurd defaulted other,fun _ s text => absurd text (plain s),
    fun _ present cleared => absurd cleared (uncleared present)⟩

-- So is a text that is a date.
theorem settled_iso (wall : Int) (inside : Representable wall) (timestamp : key = "transaction_timestamp")
    (dated : dateValue h key (onText (headText h key) value) = .ok (.str (String.ofList (isoOf h wall)))) : Settled h imputation key value := by
  subst timestamp
  have iso := iso_clean h wall inside
  have kept := iso_kept h wall inside
  refine ⟨fun defaulted => absurd defaulted other,?_,?_⟩
  · intro _ s text unread _
    rw [text,onText,unread] at dated
    have same : headText h "transaction_timestamp" s.toList = isoOf h wall := by
      have texts := Value.str.inj (Except.ok.inj dated)
      rw [← String.toList_ofList (l := headText h "transaction_timestamp" s.toList),texts,String.toList_ofList]
    rw [same,iso.untagged]
    refine ⟨?_,fun _ => ⟨iso.normal,iso.uncontrolled⟩,fun _ => iso.spaced,fun _ => ⟨kept.date,kept.numeric⟩⟩
    intro defaulted
    rw [defaulted_kept h imputation _ _ (kept_head h _ _ kept),iso_visible] at defaulted
    cases defaulted.2
  · intro _ present cleared
    rw [dated_numeric] at cleared
    exfalso
    apply present
    have none := Except.ok.inj cleared
    cases value with
    | none => rfl
    | _ => cases none

omit other in
theorem clean_none : Clean h imputation key .none ↔ (imputation.value key ≠ .none → tailValue h key (imputation.value key) = .ok .none) := by
  have stands : Defaulted h imputation key .none ↔ imputation.value key ≠ .none :=
    (defaulted_kept h imputation key .none rfl).trans (and_iff_left rfl)
  constructor
  · exact fun clean absent => clean.default_value (stands.mpr absent)
  · exact fun replaced => ⟨fun defaulted => replaced (stands.mp defaulted),fun _ => kept_none h key⟩

-- A cleared coordinate is settled where no default stands in for it the next time.
theorem settled_cleared (present : value ≠ .none) (cleared : numericValue h key (onText (headText h key) value) = .ok .none) :
    Settled h imputation key value ↔ (imputation.value key ≠ .none → tailValue h key (imputation.value key) = .ok .none) := by
  constructor
  · exact fun settled => settled.cleared other present cleared
  · intro replaced
    refine ⟨fun defaulted => absurd defaulted other,?_,fun _ _ _ => replaced⟩
    rintro _ s rfl _ numeric
    change numericValue h key (.str _) = _ at cleared
    rw [numeric] at cleared
    cases cleared

-- A text that is no date and no number is settled by what is left of it.
theorem settled_text (s : String) (text : value = .str s)
    (unread : dateValue h key (.str (String.ofList (headText h key s.toList))) = .ok (.str (String.ofList (headText h key s.toList))))
    (unnumbered : numericValue h key (.str (String.ofList (headText h key s.toList))) = .ok (.str (String.ofList (headText h key s.toList)))) :
    Settled h imputation key value ↔ Left h imputation key (untag h.amounts.word (headText h key s.toList)) := by
  subst text
  constructor
  · exact fun settled => settled.left other s rfl unread unnumbered
  · intro left
    refine ⟨fun defaulted => absurd defaulted other,?_,?_⟩
    · intro _ _ same _ _
      cases same
      exact left
    · intro _ _ cleared
      change numericValue h key (.str _) = _ at cleared
      rw [unnumbered] at cleared
      cases cleared

theorem settled_float (numbered : numericValue h key (onText (headText h key) value) = .ok (.float x)) : Settled h imputation key value := by
  refine ⟨fun defaulted => absurd defaulted other,?_,?_⟩
  · rintro _ s rfl _ numeric
    change numericValue h key (.str _) = _ at numbered
    rw [numeric] at numbered
    cases numbered
  · intro _ _ cleared
    rw [cleared] at numbered
    cases numbered

omit other in
-- A value that cleaning gives is clean exactly where it has been settled.
theorem settled_clean (result : Value) (proper : ∀ wall offset, value = .datetime wall offset → Representable wall)
    (ran : fieldValue h imputation key value = .ok result) : Clean h imputation key result ↔ Settled h imputation key value := by
  by_cases defaulted : Defaulted h imputation key value
  · rw [field_defaulted h imputation key value defaulted] at ran
    constructor
    · intro clean
      refine ⟨?_,fun other => absurd defaulted other,fun other => absurd defaulted other⟩
      intro _ stood tail
      rw [ran] at tail
      cases tail
      exact clean
    · exact fun settled => settled.defaulted defaulted result ran
  · obtain ⟨between,last,dated,numbered,rfl⟩ := field_parts h imputation key value result defaulted ran
    rcases date_result h key dated with unread | ⟨timestamp,wall,written,inside⟩
    · rw [unread] at dated numbered
      rcases numeric_result h key numbered with whole | gone | ⟨x,float⟩
      · rw [whole] at numbered ⊢
        cases value with
        | str s =>
          rw [settled_text h imputation key defaulted s rfl dated numbered,← left_clean,onText,onText,String.toList_ofList]
        | _ =>
          have kept : Kept h key _ := ⟨(fun s absurdity => by cases absurdity),dated,numbered⟩
          refine iff_of_true ⟨fun stands => absurd stands defaulted,fun _ => kept⟩ ?_
          refine settled_other h imputation key defaulted (fun s absurdity => by cases absurdity) ?_
          intro present cleared
          rw [numbered] at cleared
          exact present (Except.ok.inj cleared)
      · rw [gone] at numbered ⊢
        by_cases present : value = .none
        · subst present
          refine iff_of_true ⟨fun stands => absurd stands defaulted,fun _ => kept_none h key⟩ ?_
          exact settled_other h imputation key defaulted (fun s absurdity => by cases absurdity) fun present => absurd rfl present
        · rw [settled_cleared h imputation key defaulted present numbered]
          exact clean_none h imputation key
      · rw [float] at numbered ⊢
        have kept : Kept h key (.float x) := by
          refine ⟨(fun s absurdity => by cases absurdity),?_,float_kept h key numbered⟩
          unfold dateValue datedValue
          simp
        exact iff_of_true (clean_visible h imputation key _ kept rfl) (settled_float h imputation key defaulted numbered)
    · have proper : Representable wall := by
        rcases inside with inside | ⟨offset,same⟩
        · exact inside
        · refine proper wall offset ?_
          cases value with
          | str s => cases same
          | _ => exact same
      subst timestamp
      rw [written,dated_numeric] at numbered
      cases numbered
      rw [written] at dated
      have kept := iso_kept h wall proper
      rw [onText,String.toList_ofList,(iso_clean h wall proper).untagged]
      exact iff_of_true (clean_visible h imputation _ _ kept (iso_visible h wall)) (settled_iso h imputation _ defaulted wall proper rfl dated)

end Settling

section Runs

theorem applySteps_runAll (steps : List CleaningStep) (record : Record) (changes : List String) :
    applySteps steps record changes = match OrderedDict.runAll steps record with
      | .error e => .error e
      | .ok (cleaned,fixes) => .ok ⟨cleaned,false,changes ++ fixes⟩ := by
  induction steps generalizing record changes with
  | nil =>
    simp only [applySteps,OrderedDict.runAll,List.append_nil]
  | cons step rest ih =>
    unfold applySteps OrderedDict.runAll OrderedDict.andThen
    cases step record with
    | error e => rfl
    | ok out =>
      simp only
      rw [ih]
      cases OrderedDict.runAll rest out.1 with
      | error e => rfl
      | ok last => simp only [List.append_assoc]

theorem clean_fresh (cleaner : DataCleaner) (now : Rat) (record : Record) (maxSize : Int) :
    (clean cleaner now record (.fresh maxSize)).1 = applySteps cleaner.steps record [] := rfl

theorem clean_run {cleaner : DataCleaner} {now : Rat} {record : Record} {dedup : LRUDedup} {result : CleaningResult}
    (ran : (clean cleaner now record dedup).1 = .ok result) (first : result.isDuplicate = false) :
    ∃ notes, OrderedDict.runAll cleaner.steps record = .ok (result.record,notes) := by
  unfold clean at ran
  split at ran
  · cases ran
    cases first
  · rw [applySteps_runAll] at ran
    cases whole : OrderedDict.runAll cleaner.steps record with
    | error e =>
      rw [whole] at ran
      cases ran
    | ok out =>
      rw [whole] at ran
      cases ran
      exact ⟨out.2,rfl⟩

-- Cleaning the record with a fresh cache returns, and changes nothing.
def CleansAgain (cleaner : DataCleaner) (record : Record) : Prop :=
  ∀ now maxSize, ∃ again, (clean cleaner now record (.fresh maxSize)).1 = .ok again ∧ again.record = record

theorem cleansAgain_run (cleaner : DataCleaner) (record : Record) :
    CleansAgain cleaner record ↔ ∃ notes, OrderedDict.runAll cleaner.steps record = .ok (record,notes) := by
  constructor
  · intro cleans
    obtain ⟨again,ran,same⟩ := cleans 0 1
    rw [clean_fresh,applySteps_runAll] at ran
    cases whole : OrderedDict.runAll cleaner.steps record with
    | error e =>
      rw [whole] at ran
      cases ran
    | ok out =>
      rw [whole] at ran
      cases ran
      exact ⟨out.2,congrArg (fun cleaned => Except.ok (cleaned,out.2)) same⟩
  · rintro ⟨notes,ran⟩ now maxSize
    refine ⟨⟨record,false,[] ++ notes⟩,?_,rfl⟩
    rw [clean_fresh,applySteps_runAll,ran]

-- Cleaning a cleaned record again changes nothing exactly where every field has been settled.
theorem cleaning_idempotent (text : KeyText) (fields : List String) (imputation record : Record) (now : Rat) (dedup : LRUDedup)
    (result : CleaningResult) (proper : ∀ key wall offset, record.value key = .datetime wall offset → Representable wall)
    (ran : (clean (cleanerOf h text fields imputation) now record dedup).1 = .ok result) (first : result.isDuplicate = false) :
    CleansAgain (cleanerOf h text fields imputation) result.record ↔ ∀ key, Settled h imputation key (record.value key) := by
  obtain ⟨notes,run⟩ := clean_run ran first
  obtain ⟨added,byKey⟩ := cleaner_byKey h text fields imputation
  have values := byKey.values record result.record notes run
  rw [cleansAgain_run,byKey.rerun run]
  constructor
  · intro fixed key
    have clean := (field_fixed h imputation key _).mp (fixed key)
    exact (settled_clean h imputation key _ (proper key) (values key)).mp clean
  · intro settled key
    have clean := (settled_clean h imputation key _ (proper key) (values key)).mpr (settled key)
    exact (field_fixed h imputation key _).mpr clean

end Runs

def exampleCase (f : Char → Char) (twice : ∀ c, f (f c) = f c) (space : f ' ' = ' ') : CaseMap id where
  apply text := text.map f
  given text c member := by
    obtain ⟨d,_,rfl⟩ := List.mem_map.mp member
    rw [List.map_singleton,twice]
  kept text same := by
    conv_rhs => rw [← List.map_id text]
    exact List.map_congr_left fun c member => (List.cons.inj (same c member)).1
  composed _ same := same
  space := by rw [List.map_singleton,space]

theorem roundDecimal_twice (x : PyFloat) : roundDecimal (roundDecimal x 4) 4 = roundDecimal x 4 := by
  cases x with
  | finite q =>
    have whole : ⌊(⌊q * 10 ^ 4 + 1 / 2⌋ / 10 ^ 4 : Rat) * 10 ^ 4 + 1 / 2⌋ = ⌊q * 10 ^ 4 + 1 / 2⌋ := by
      rw [div_mul_cancel₀ _ (by norm_num),Int.floor_eq_iff]
      constructor <;> linarith
    change PyFloat.finite (⌊(⌊q * 10 ^ 4 + 1 / 2⌋ / 10 ^ 4 : Rat) * 10 ^ 4 + 1 / 2⌋ / 10 ^ 4) = _
    rw [whole]
    rfl
  | nan => rfl
  | infinity negative => rfl

theorem toLower_blank : Char.toLower ' ' = ' ' := by decide

theorem toUpper_blank : Char.toUpper ' ' = ' ' := by decide

theorem parts_one : ∃ parts : Char → Nat, (∀ c, 0 < parts c) ∧ (∀ c, Text.isSpace c = true → parts c = 1) ∧
    ∀ text, Text.weight parts (id text) = Text.weight parts text :=
  ⟨fun _ => 1,fun _ => Nat.one_pos,fun _ _ => rfl,fun _ => rfl⟩

theorem exampleDates_early (y : Nat) (_ : 1 ≤ y) (small : y < 1000) :
    exampleDates.year y = Decimal.fixed 4 y ∨ exampleDates.year y = Nat.toDigits 10 y := .inr (if_neg (by omega))

-- Texts of ASCII letters, which are in the normal form.
def exampleCleaning : CleaningHost where
  dates := exampleDates
  amounts := exactAmounts
  nfc := id
  control _ := false
  lower := exampleCase Char.toLower Text.toLower_twice toLower_blank
  upper := exampleCase Char.toUpper Text.toUpper_twice toUpper_blank
  str
    | .str text => text
    | _ => ""
  readBytes _ := none
  decomposed := parts_one
  ascii _ _ := rfl
  blanks _ spaces := spaces
  rounded := roundDecimal_twice
  unbracketed _ _ := rfl
  early := exampleDates_early

def exampleCleaner : DataCleaner := cleanerOf exampleCleaning plainText defaultIdempotencyFields defaultImputation

def exampleEntries (record : Record) : Option (List (String × Value)) :=
  (clean exampleCleaner 0 record (.fresh 10)).1.toOption.map fun result => result.record.entries

def acme : Record := .ofList [("merchant_name",.str "  Acme   <b>Ltd</b>"),("channel",.str " ")]

theorem ok_of_some {found : Except String Value} {value : Value} (some_ : found.toOption = some value) : found = .ok value := by
  cases found with
  | error e => cases some_
  | ok other => exact congrArg Except.ok (Option.some.inj some_)

theorem settled_twice (key : String) (value once : Value) (proper : ∀ wall offset, value ≠ .datetime wall offset)
    (first : (fieldValue exampleCleaning defaultImputation key value).toOption = some once)
    (second : (fieldValue exampleCleaning defaultImputation key once).toOption = some once) :
    Settled exampleCleaning defaultImputation key value := by
  have clean := (field_fixed exampleCleaning defaultImputation key once).mp (ok_of_some second)
  exact (settled_clean exampleCleaning defaultImputation key once (fun wall offset same => absurd same (proper wall offset))
    (ok_of_some first)).mp clean

theorem acme_settled (key : String) : Settled exampleCleaning defaultImputation key (acme.value key) := by
  by_cases listed : key ∈ ["merchant_name","channel","transaction_currency","is_international","device_type"]
  · simp only [List.mem_cons,List.not_mem_nil,or_false] at listed
    rcases listed with rfl | rfl | rfl | rfl | rfl
    · exact settled_twice _ _ (.str "Acme Ltd") (fun _ _ absurdity => by cases absurdity) (by decide +kernel) (by decide +kernel)
    · exact settled_twice _ _ (.str "online") (fun _ _ absurdity => by cases absurdity) (by decide +kernel) (by decide +kernel)
    · exact settled_twice _ _ (.str "USD") (fun _ _ absurdity => by cases absurdity) (by decide +kernel) (by decide +kernel)
    · exact settled_twice _ _ (.bool false) (fun _ _ absurdity => by cases absurdity) (by decide +kernel) (by decide +kernel)
    · exact settled_twice _ _ (.str "unknown") (fun _ _ absurdity => by cases absurdity) (by decide +kernel) (by decide +kernel)
  · have absent : acme.value key = .none := by
      have keys : acme.keys = ["merchant_name","channel"] := by decide +kernel
      rw [Record.value,OrderedDict.getD,(OrderedDict.get?_eq_none acme key).mpr ?_]
      · rfl
      · rw [keys]
        exact fun member => listed (by simp only [List.mem_cons,List.not_mem_nil,or_false] at member ⊢; tauto)
    have plain : defaultImputation.value key = .none := by
      by_contra some_
      have filled : ∀ key ∈ defaultImputation.keys, defaultImputation.value key ≠ .none →
          key ∈ ["merchant_name","channel","transaction_currency","is_international","device_type"] := by decide +kernel
      refine listed (filled key ?_ some_)
      by_contra missing
      apply some_
      rw [Record.value,OrderedDict.getD,(OrderedDict.get?_eq_none defaultImputation key).mpr missing]
      rfl
    rw [absent]
    exact settled_other exampleCleaning defaultImputation key (fun defaulted => defaulted.1 plain) (fun _ absurdity => by cases absurdity)
      fun present => absurd rfl present

theorem acme_proper (key : String) (wall : Int) (offset : Option Int) (dated : acme.value key = .datetime wall offset) : Representable wall := by
  have texts : ∀ entry ∈ acme.entries, ∃ s, entry.2 = .str s := by
    intro entry member
    have shape : acme.entries = [("merchant_name",.str "  Acme   <b>Ltd</b>"),("channel",.str " ")] := by decide +kernel
    rw [shape] at member
    simp only [List.mem_cons,List.not_mem_nil,or_false] at member
    rcases member with rfl | rfl
    · exact ⟨_,rfl⟩
    · exact ⟨_,rfl⟩
  rw [Record.value,OrderedDict.getD] at dated
  cases found : acme.get? key with
  | none =>
    rw [found] at dated
    cases dated
  | some value =>
    rw [found] at dated
    obtain ⟨s,text⟩ := texts _ ((OrderedDict.get?_entry acme key value).mpr found)
    rw [show value = .datetime wall offset from dated] at text
    cases text

theorem cleaning_idempotent_acme : ∃ result, (clean exampleCleaner 0 acme (.fresh 10)).1 = .ok result ∧ CleansAgain exampleCleaner result.record := by
  cases ran : (clean exampleCleaner 0 acme (.fresh 10)).1 with
  | error e =>
    have entries : exampleEntries acme ≠ none := by decide +kernel
    rw [exampleEntries,ran] at entries
    exact absurd rfl entries
  | ok result =>
    have first : result.isDuplicate = false := applySteps_fresh _ _ _ ran
    exact ⟨result,rfl,(cleaning_idempotent exampleCleaning plainText defaultIdempotencyFields defaultImputation acme 0 (.fresh 10) result
      acme_proper ran first).mpr acme_settled⟩

-- Blanks, a missing channel, an amount and a date that tags have hidden.
def hidden : Record :=
  .ofList [("merchant_name",.str "<b> Acme"),("channel",.str "<i>"),("transaction_amount",.str "<b>12"),
    ("transaction_timestamp",.str "<b>2024-02-29")]

def uncovered : Record :=
  .ofList [("merchant_name",.str " Acme"),("channel",.str ""),("transaction_amount",.str "12"),("transaction_timestamp",.str "2024-02-29"),
    ("transaction_currency",.str "USD"),("is_international",.bool false),("device_type",.str "unknown")]

theorem tags_hide_work :
    exampleEntries hidden = some uncovered.entries ∧
    exampleEntries uncovered = some [("merchant_name",.str "Acme"),("channel",.str "online"),("transaction_amount",.float (.finite 12)),
      ("transaction_timestamp",.str "2024-02-29T00:00:00Z"),("transaction_currency",.str "USD"),("is_international",.bool false),
      ("device_type",.str "unknown")] ∧
    ¬CleansAgain exampleCleaner uncovered := by
  have again : exampleEntries uncovered ≠ some uncovered.entries := by decide +kernel
  refine ⟨by decide +kernel,by decide +kernel,?_⟩
  intro cleans
  obtain ⟨result,ran,same⟩ := cleans 0 10
  apply again
  rw [exampleEntries,ran]
  exact congrArg (fun record : Record => some record.entries) same

end DataCleaner
end RiskPulse
