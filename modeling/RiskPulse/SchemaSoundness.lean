import RiskPulse.SchemaValidator

namespace RiskPulse
open Checks

def PyFloat.atMost : PyFloat → Rat → Bool
  | .finite a,bound => decide (a ≤ bound)
  | .infinity negative,_ => negative
  | .nan,_ => false

namespace PyFloat

-- A comparison that fails says the opposite of every number but nan.
theorem not_below (x : PyFloat) (low : Rat) : (PyFloat.finite low).greater x = false ↔ x = .nan ∨ x.atLeast low = true := by
  cases x with
  | finite a => simp [greater,atLeast]
  | nan => simp [greater]
  | infinity negative => simp [greater,atLeast]

theorem not_above (x : PyFloat) (high : Rat) : x.greater (.finite high) = false ↔ x = .nan ∨ x.atMost high = true := by
  cases x with
  | finite a => simp [greater,atMost]
  | nan => simp [greater]
  | infinity negative => simp [greater,atMost]

end PyFloat

namespace SchemaValidator
variable (h : SchemaHost)

def isError (issue : ValidationError) : Bool := decide (issue.severity = .error)

-- A pattern met by the whole of a text, and by all of it but a line break at its end.
def Whole (pattern : Regex) (text : List Char) : Prop := pattern.Matches h.word [] text []

def BeforeBreak (pattern : Regex) (text : List Char) : Prop :=
  ∃ front, text = front ++ ['\n'] ∧ pattern.Matches h.word [] front ['\n']

def HasFormat : FieldFormat → String → Prop
  | .ipAddress,text => h.ipAddress text = true
  | .iso8601,text => h.fromisoformat (replaceZ text) ≠ none

structure TextFits (meets : Regex → List Char → Prop) (config : FieldConfig) (text : String) : Prop where
  least : ∀ least ∈ config.minLength, least ≤ text.length
  most : ∀ most ∈ config.maxLength, text.length ≤ most
  allowed : ∀ allowed ∈ config.allowedValues, text ∈ allowed
  pattern : ∀ pattern ∈ config.pattern, meets pattern text.toList
  format : ∀ format ∈ config.format, HasFormat h format text

structure NumberFits (config : FieldConfig) (x : PyFloat) : Prop where
  least : ∀ low ∈ config.minValue, x.atLeast low = true
  most : ∀ high ∈ config.maxValue, x.atMost high = true

-- What the rules ask of a value that is there.
def Satisfies (config : FieldConfig) (value : Value) : Prop :=
  match config.type with
  | .string => ∃ text, value = .str text ∧ TextFits h (Whole h) config text
  | .number => ∃ x, value.properNumber = some x ∧ NumberFits config x
  | .boolean => ∃ b, value = .bool b

-- What gets past the checks of a field all the same.
def Slips (config : FieldConfig) (value : Value) : Prop :=
  match config.type with
  | .string => ∃ text, value = .str text ∧ ∃ pattern ∈ config.pattern, BeforeBreak h pattern text.toList
  | .number => value = .float .nan
  | .boolean => False

-- An int of more than 4300 digits.
def Huge (value : Value) : Prop := ∃ n : Int, value = .int n ∧ Value.digitLimit ≤ n.natAbs

section Field

theorem patternMatches_exact (pattern : Regex) (text : List Char) :
    patternMatches h pattern text = true ↔ Whole h pattern text ∨ BeforeBreak h pattern text := by
  unfold patternMatches
  rw [List.any_eq_true]
  constructor
  · intro ⟨⟨m,rest⟩,found,ends⟩
    obtain ⟨split,matched⟩ := (Regex.finds_ways h.word pattern [] text m rest).mp found
    rcases of_decide_eq_true ends with last | last
    · have last : rest = [] := last
      rw [last,List.append_nil] at split
      rw [last] at matched
      exact .inl (split ▸ matched)
    · have last : rest = ['\n'] := last
      rw [last] at split matched
      exact .inr ⟨m,split,matched⟩
  · intro met
    rcases met with whole | ⟨front,split,matched⟩
    · exact ⟨(text,[]),(Regex.finds_ways h.word pattern [] text text []).mpr ⟨(List.append_nil _).symm,whole⟩,rfl⟩
    · exact ⟨(front,['\n']),(Regex.finds_ways h.word pattern [] text front ['\n']).mpr ⟨split,matched⟩,rfl⟩

theorem checkRequiredField_finishes (record : Record) (field : String) : Finishes (checkRequiredField record field) := by
  unfold checkRequiredField
  split
  · exact ⟨_,rfl⟩
  · exact report_finishes.mpr fun _ => ⟨_,rfl⟩
  · exact nothing_finishes

-- A field that is there and, if it is text, has a character that is not space.
def Filled (value : Value) : Prop := value ≠ .none ∧ ∀ text, value = .str text → ∃ c ∈ text.toList, Text.isSpace c = false

theorem checkRequiredField_clean (record : Record) (field : String) :
    Clean isError (checkRequiredField record field) ↔ Filled (record.value field) := by
  unfold checkRequiredField Filled
  cases record.value field with
  | none => simp [found_clean,isError]
  | str text =>
    refine (report_clean fun i made => by cases made; rfl).trans ?_
    rw [Text.strip_nil]
    simp
  | bool _ | int _ | float _ | decimal _ _ | bytes _ | datetime _ _ | list _ | dict _ => simp [nothing_clean]

theorem validateFormat_finishes (field : String) (format : FieldFormat) (text : String) :
    Finishes (validateFormat h field format text) := by
  cases format with
  | ipAddress | iso8601 => exact report_finishes.mpr fun _ => ⟨_,rfl⟩

theorem validateFormat_clean (field : String) (format : FieldFormat) (text : String) :
    Clean isError (validateFormat h field format text) ↔ HasFormat h format text := by
  cases format with
  | ipAddress =>
    refine (report_clean fun i made => by cases made; rfl).trans ?_
    simp [HasFormat]
  | iso8601 => exact report_clean fun i made => by cases made; rfl

theorem validateStringField_finishes (field : String) (value : Value) (config : FieldConfig) :
    Finishes (validateStringField h field value config) := by
  unfold validateStringField
  split
  · rw [gather_finishes]
    simp only [List.forall_mem_cons,List.not_mem_nil,false_implies,implies_true,and_true,id,against_finishes,gather_finishes]
    refine ⟨?_,?_,?_,?_,fun format _ => validateFormat_finishes h field format _⟩
    all_goals exact fun _ _ _ => ⟨_,rfl⟩
  · exact ⟨_,rfl⟩

theorem validateStringField_clean (field : String) (value : Value) (config : FieldConfig) :
    Clean isError (validateStringField h field value config) ↔
      ∃ text, value = .str text ∧ TextFits h (fun pattern text => Whole h pattern text ∨ BeforeBreak h pattern text) config text := by
  cases value with
  | str text =>
    have made : ∀ rule message value (i : ValidationError), Except.ok (fieldError field rule message value) = (.ok i : Except String ValidationError) →
        isError i = true := by
      intro rule message value i came
      cases came
      rfl
    unfold validateStringField
    rw [gather_clean]
    simp only [List.forall_mem_cons,List.not_mem_nil,false_implies,implies_true,and_true,id,gather_clean,validateFormat_clean,
      against_clean _ fun _ => made _ _ _,Option.mem_toList]
    constructor
    · intro given
      obtain ⟨least,most,allowed,pattern,format⟩ := given
      refine ⟨text,rfl,fun n set => Nat.le_of_not_lt (least n set),fun n set => Nat.le_of_not_lt (most n set),
        fun l set => not_not.mp (allowed l set),fun p set => ?_,format⟩
      exact (patternMatches_exact h p _).mp (by simpa using pattern p set)
    · intro given
      obtain ⟨_,same,fits⟩ := given
      cases same
      refine ⟨fun n set => Nat.not_lt.mpr (fits.least n set),fun n set => Nat.not_lt.mpr (fits.most n set),
        fun l set => not_not.mpr (fits.allowed l set),fun p set => ?_,fits.format⟩
      simpa using (patternMatches_exact h p _).mpr (fits.pattern p set)
  | none | bool _ | int _ | float _ | decimal _ _ | bytes _ | datetime _ _ | list _ | dict _ =>
    simp [validateStringField,found_clean,isError,typeError]

theorem formatted_ok (value : Value) (f : String → ValidationError) (i : ValidationError) :
    (do let text ← format h value; return f text) = (.ok i : Except String ValidationError) ↔
      value.tooLong = false ∧ i = f (h.str value) := by
  unfold format
  cases value.tooLong with
  | true =>
    refine iff_of_false ?_ (by simp)
    intro came
    cases came
  | false =>
    constructor
    · intro came
      cases came
      exact ⟨rfl,rfl⟩
    · intro ⟨_,same⟩
      rw [same]
      rfl

theorem validateNumberField_clean (field : String) (value : Value) (config : FieldConfig) :
    Clean isError (validateNumberField h field value config) ↔
      value = .float .nan ∨ ∃ x, value.properNumber = some x ∧ NumberFits config x := by
  have inside : ∀ x : PyFloat, ((∀ low ∈ config.minValue, ¬(PyFloat.finite low).greater x = true) ∧
      ∀ high ∈ config.maxValue, ¬x.greater (.finite high) = true) ↔ x = .nan ∨ NumberFits config x := by
    intro x
    simp only [Bool.not_eq_true,PyFloat.not_below,PyFloat.not_above]
    by_cases special : x = .nan
    · simp [special]
    · simp only [special,false_or]
      constructor
      · intro ⟨least,most⟩
        exact ⟨least,most⟩
      · intro fits
        exact ⟨fits.least,fits.most⟩
  have proper : ∀ x, value.properNumber = some x → (Clean isError (validateNumberField h field value config) ↔
      x = .nan ∨ NumberFits config x) := by
    intro x number
    rw [← inside x]
    cases value with
    | int n | float y =>
      cases number
      refine (gather_clean _).trans ?_
      simp only [List.forall_mem_cons,List.not_mem_nil,false_implies,implies_true,and_true,id]
      rw [against_clean,against_clean]
      all_goals
        intro bound i came
        obtain ⟨_,rfl⟩ := (formatted_ok h _ _ i).mp came
        rfl
    | none | bool _ | decimal _ _ | str _ | bytes _ | datetime _ _ | list _ | dict _ => cases number
  cases value with
  | int n =>
    rw [proper _ rfl]
    simp [Value.properNumber,Value.intOrFloat]
  | float y =>
    rw [proper _ rfl]
    simp [Value.properNumber,Value.intOrFloat]
  | none | bool _ | decimal _ _ | str _ | bytes _ | datetime _ _ | list _ | dict _ =>
    simp [validateNumberField,Value.intOrFloat,Value.properNumber,found_clean,isError,typeError]

-- A bound no int of more than 4300 digits keeps.
theorem huge_outside {n : Int} {low high : Rat} (huge : Value.digitLimit ≤ n.natAbs) (least : -10 ^ 10 ≤ low) (most : high ≤ 10 ^ 10) :
    (n : Rat) < low ∨ high < n := by
  have far : 10 ^ 10 < Value.digitLimit := by
    have power : ∀ digits > 10, 10 ^ 10 < 10 ^ digits := fun digits => Nat.pow_lt_pow_right (by decide)
    exact power _ (by decide)
  have apart : 10 ^ 10 < n.natAbs := lt_of_lt_of_le far huge
  rcases Int.natAbs_eq n with up | down
  · right
    have above : (10 ^ 10 : Int) < n := by omega
    exact lt_of_le_of_lt most (by exact_mod_cast above)
  · left
    have below : n < -10 ^ 10 := by omega
    exact lt_of_lt_of_le (by exact_mod_cast below) least

theorem validateNumberField_finishes (field : String) (value : Value) {low high : Rat} (least : -10 ^ 10 ≤ low) (most : high ≤ 10 ^ 10) :
    Finishes (validateNumberField h field value (rangeField low high)) ↔ ¬Huge value := by
  have made : ∀ f : String → ValidationError, (∃ i, (do let text ← format h value; return f text) = (.ok i : Except String ValidationError)) ↔
      value.tooLong = false := by
    intro f
    simp only [formatted_ok]
    simp
  cases value with
  | int n =>
    refine (gather_finishes _).trans ?_
    simp only [List.forall_mem_cons,List.not_mem_nil,false_implies,implies_true,and_true,id,against_finishes,made,rangeField,
      Option.mem_some_iff,forall_eq']
    simp only [PyFloat.greater,decide_eq_true_eq,Value.tooLong,decide_eq_false_iff_not]
    constructor
    · intro given huge
      obtain ⟨notBelow,notAbove⟩ := given
      obtain ⟨_,same,huge⟩ := huge
      cases same
      rcases huge_outside huge least most with below | above
      · exact notBelow below huge
      · exact notAbove above huge
    · intro small
      have short : ¬Value.digitLimit ≤ n.natAbs := fun huge => small ⟨n,rfl,huge⟩
      exact ⟨fun _ => short,fun _ => short⟩
  | float x =>
    refine iff_of_true ((gather_finishes _).mpr ?_) (by simp [Huge])
    simp only [List.forall_mem_cons,List.not_mem_nil,false_implies,implies_true,and_true,id,against_finishes,made,Value.tooLong]
  | none | bool _ | decimal _ _ | str _ | bytes _ | datetime _ _ | list _ | dict _ =>
    exact iff_of_true ⟨_,rfl⟩ (by simp [Huge])

end Field

section Shapes

-- The kinds of field the shipped rules have.
inductive Shaped : FieldConfig → Prop
  | text (config : FieldConfig) (string : config.type = .string) (plain : config.pattern = none) : Shaped config
  | pattern (accepts : Char → Bool) (n : Nat) :
    Shaped {type := .string,pattern := some (.repeated false n (some n) (.one accepts))}
  | range (low high : Rat) (least : -10 ^ 10 ≤ low) (most : high ≤ 10 ^ 10) : Shaped (rangeField low high)
  | boolean : Shaped {type := .boolean}

theorem whole_length (accepts : Char → Bool) (n : Nat) (back text rest : List Char)
    (matched : (Regex.repeated false n (some n) (.one accepts)).Matches h.word back text rest) : text.length = n := by
  obtain ⟨more,few,copied⟩ := matched
  have none := few n rfl
  rw [Nat.sub_self] at none
  rw [Nat.le_zero.mp none] at copied
  exact ((Regex.copies_one h.word accepts n back text rest).mp copied).1

-- What slips past a check does not do what the rule asks.
theorem slips_unsatisfied (shaped : Shaped config) (slips : Slips h config value) : ¬Satisfies h config value := by
  cases shaped with
  | text _ string plain =>
    simp [Slips,string,plain] at slips
  | pattern accepts n =>
    intro satisfied
    obtain ⟨text,rfl,_,set,front,split,matched⟩ := slips
    cases set
    obtain ⟨_,same,fits⟩ := satisfied
    cases same
    have whole := whole_length h accepts n [] text.toList [] (fits.pattern _ rfl)
    have early := whole_length h accepts n [] front ['\n'] matched
    have longer := congrArg List.length split
    rw [List.length_append,List.length_singleton] at longer
    omega
  | range low high least most =>
    intro satisfied
    have slips : value = .float .nan := slips
    obtain ⟨x,number,fits⟩ := satisfied
    rw [slips] at number
    cases number
    cases fits.least low rfl
  | boolean => exact absurd slips id

theorem plain_fits (plain : config.pattern = none) (meets other : Regex → List Char → Prop) (text : String) :
    TextFits h meets config text ↔ TextFits h other config text := by
  have none : ∀ meets : Regex → List Char → Prop, ∀ pattern ∈ config.pattern, meets pattern text.toList := by
    rw [plain]
    exact fun _ _ given => nomatch given
  constructor
  · intro fits
    exact ⟨fits.least,fits.most,fits.allowed,none other,fits.format⟩
  · intro fits
    exact ⟨fits.least,fits.most,fits.allowed,none meets,fits.format⟩

theorem pattern_fits (pattern : Regex) (meets : Regex → List Char → Prop) (text : String) :
    TextFits h meets {type := .string,pattern := some pattern} text ↔ meets pattern text.toList := by
  constructor
  · intro fits
    exact fits.pattern pattern rfl
  · intro met
    refine ⟨nofun,nofun,nofun,?_,nofun⟩
    intro _ same
    cases same
    exact met

theorem checkFieldType_clean (shaped : Shaped config) (record : Record) (field : String) :
    Clean isError (checkFieldType h record field config) ↔ record.value field = .none ∨
      Satisfies h config (record.value field) ∨ Slips h config (record.value field) := by
  unfold checkFieldType
  generalize record.value field = value
  dsimp only
  by_cases absent : value = .none
  · rw [if_pos absent]
    exact iff_of_true (nothing_clean _) (.inl absent)
  rw [if_neg absent]
  simp only [absent,false_or]
  cases shaped with
  | text _ string plain =>
    simp only [string,Satisfies,Slips,plain,validateStringField_clean]
    simp [plain_fits h plain _ (Whole h)]
  | pattern accepts n =>
    simp only [Satisfies,Slips,validateStringField_clean,pattern_fits,Option.mem_some_iff,exists_eq_left']
    rw [← exists_or]
    exact exists_congr fun text => and_or_left
  | range low high least most => exact (validateNumberField_clean h field value _).trans or_comm
  | boolean =>
    simp only [Satisfies,Slips,or_false]
    cases value with
    | bool b => simp [validateBooleanField,nothing_clean]
    | none | int _ | float _ | decimal _ _ | str _ | bytes _ | datetime _ _ | list _ | dict _ =>
      simp [validateBooleanField,found_clean,isError,typeError]

theorem checkFieldType_finishes (shaped : Shaped config) (record : Record) (field : String) :
    Finishes (checkFieldType h record field config) ↔ ¬(config.type = .number ∧ Huge (record.value field)) := by
  unfold checkFieldType
  generalize record.value field = value
  dsimp only
  by_cases absent : value = .none
  · rw [if_pos absent]
    exact iff_of_true nothing_finishes (by simp [absent,Huge])
  rw [if_neg absent]
  cases shaped with
  | text _ string plain =>
    simp only [string]
    exact iff_of_true (validateStringField_finishes h field value config) (by simp)
  | pattern accepts n => exact iff_of_true (validateStringField_finishes h field value _) (by simp)
  | range low high least most =>
    refine (validateNumberField_finishes h field value least most).trans ?_
    simp [rangeField]
  | boolean =>
    refine iff_of_true (show Finishes (validateBooleanField field value) from ?_) (by simp)
    cases value <;> exact ⟨_,rfl⟩

theorem shipped_shaped : ∀ entry ∈ (shippedRules h).fieldTypes, Shaped entry.2 := by
  have plain : ∀ least most, Shaped (textField least most) := fun _ _ => .text _ rfl rfl
  have choice : ∀ allowed, Shaped (choiceField allowed) := fun _ => .text _ rfl rfl
  have formatted : ∀ format, Shaped {type := .string,format := some format} := fun _ => .text _ rfl rfl
  have range : ∀ low high : Rat, -10 ^ 10 ≤ low → high ≤ 10 ^ 10 → Shaped (rangeField low high) := .range
  simp only [shippedRules,List.forall_mem_cons,List.not_mem_nil,false_implies,implies_true,and_true]
  simp only [plain,choice,formatted,true_and,and_true]
  refine ⟨range _ _ ?_ ?_,.pattern _ _,range _ _ ?_ ?_,range _ _ ?_ ?_,.boolean⟩
  all_goals decide +kernel

end Shapes

section Rules
variable (record : Record)

theorem number_short (number : Value.intOrFloat value = some x) (small : ¬Huge value) : value.tooLong = false := by
  cases value with
  | int n =>
    rw [Value.tooLong,decide_eq_false_iff_not]
    exact fun huge => small ⟨n,rfl,huge⟩
  | bool _ | float _ => rfl
  | none | decimal _ _ | str _ | bytes _ | datetime _ _ | list _ | dict _ => cases number

theorem proper_number (number : Value.properNumber value = some x) : Value.intOrFloat value = some x := by
  cases value with
  | bool _ => cases number
  | none | int _ | float _ | decimal _ _ | str _ | bytes _ | datetime _ _ | list _ | dict _ => exact number

theorem international_finishes (rule : CrossFieldRule) : Finishes (ruleInternationalFlag h record rule) ↔
    ¬((record.value "geo_country").tooLong = true ∧ (record.getD "is_international" (.bool false)).truthy = false) := by
  unfold ruleInternationalFlag
  simp only [report_finishes,formatted_ok]
  generalize record.value "geo_country" = geoCountry
  constructor
  · intro finishes given
    obtain ⟨tooLong,domestic⟩ := given
    have there : geoCountry ≠ .none ∧ geoCountry ≠ .str rule.domesticCountry := by
      refine ⟨?_,?_⟩
      all_goals
        intro same
        rw [same] at tooLong
        cases tooLong
    obtain ⟨_,short,_⟩ := finishes ⟨there.1,there.2,domestic⟩
    rw [short] at tooLong
    cases tooLong
  · intro short given
    obtain ⟨_,_,domestic⟩ := given
    exact ⟨_,by simpa [domestic] using short,rfl⟩

theorem refund_finishes (rule : CrossFieldRule) (small : ¬Huge (record.value "transaction_amount")) :
    Finishes (ruleRefundLimit h record rule) := by
  refine (against_finishes _).mpr fun x number _ => ⟨_,(formatted_ok h _ _ _).mpr ⟨?_,rfl⟩⟩
  exact number_short number small

theorem high_value_finishes (rule : CustomRule) (small : ¬Huge (record.value "transaction_amount")) :
    Finishes (ruleHighValue h record rule) := by
  refine (against_finishes _).mpr fun x number _ => ⟨_,(formatted_ok h _ _ _).mpr ⟨?_,rfl⟩⟩
  exact number_short (proper_number number) small

theorem truncated_finishes (x : PyFloat) (bound : Rat) (above : x.greater (.finite bound) = true) :
    (∃ whole, truncated x = .ok whole) ↔ x ≠ .infinity false := by
  cases x with
  | finite q => exact iff_of_true ⟨_,rfl⟩ (by simp)
  | nan => cases above
  | infinity negative =>
    cases negative with
    | true => cases above
    | false => simp [truncated]

-- The amount is made an int before it is compared with one.
theorem round_amount_finishes (rule : CustomRule) (small : ¬Huge (record.value "transaction_amount")) :
    Finishes (ruleRoundAmount h record rule) ↔ record.value "transaction_amount" ≠ .float (.infinity false) := by
  unfold ruleRoundAmount
  have issued : ∀ x, (record.value "transaction_amount").properNumber = some x →
      ∃ i, amountIssue h record rule "Suspicious round amount " " above threshold " = .ok i :=
    fun x number => ⟨_,(formatted_ok h _ _ _).mpr ⟨number_short (proper_number number) small,rfl⟩⟩
  have infinite : record.value "transaction_amount" = .float (.infinity false) ↔
      (record.value "transaction_amount").properNumber = some (.infinity false) := by
    cases record.value "transaction_amount" <;> simp [Value.properNumber,Value.intOrFloat]
  cases number : (record.value "transaction_amount").properNumber with
  | none => simp [nothing_finishes,infinite,number]
  | some x =>
    simp only [Ne,infinite,number,Option.some.injEq]
    by_cases above : x.greater (.finite rule.threshold) = true
    · rw [if_pos above]
      refine Iff.trans ?_ (truncated_finishes x _ above)
      constructor
      · intro given
        obtain ⟨found,came⟩ := given
        obtain ⟨whole,made,_⟩ := Fallible.bind_ok.mp came
        exact ⟨whole,made⟩
      · intro given
        obtain ⟨whole,made⟩ := given
        obtain ⟨found,came⟩ := report_finishes.mpr fun _ : x = .finite whole => issued x number
        exact ⟨found,Fallible.bind_ok.mpr ⟨whole,made,came⟩⟩
    · rw [if_neg above]
      refine iff_of_true nothing_finishes ?_
      intro same
      rw [same] at above
      exact above rfl

-- A rule that only warns has no error to find.
theorem warning_clean (now : String → Int) (rule : CrossFieldRule) (warns : rule.severity = .warning) :
    Clean isError (checkCrossFieldRule h record rule now) ↔ Finishes (checkCrossFieldRule h record rule now) := by
  have uncounted : ∀ i : ValidationError, i.severity = rule.severity → isError i = false := by
    intro i same
    rw [isError,same,warns]
    rfl
  unfold checkCrossFieldRule
  cases rule.condition with
  | internationalFlag =>
    refine report_uncounted fun i made => ?_
    obtain ⟨_,rfl⟩ := (formatted_ok h _ _ i).mp made
    exact uncounted _ rfl
  | refundLimit =>
    refine against_uncounted _ fun _ i made => ?_
    obtain ⟨_,rfl⟩ := (formatted_ok h _ _ i).mp made
    exact uncounted _ rfl
  | cardLastFourRequired | ipRequiredOnline | geoCoordinatesPaired | posRequiresMerchant | atmWithdrawal =>
    exact report_uncounted fun i made => by cases made; exact uncounted _ rfl
  | futureTimestamp | staleTimestamp =>
    exact against_uncounted _ fun _ i made => by cases made; exact uncounted _ rfl

theorem custom_clean (rule : CustomRule) (warns : rule.severity = .warning) :
    Clean isError (checkCustomRule h record rule) ↔ Finishes (checkCustomRule h record rule) := by
  have uncounted : ∀ before after i, amountIssue h record rule before after = .ok i → isError i = false := by
    intro before after i made
    obtain ⟨_,rfl⟩ := (formatted_ok h _ _ i).mp made
    rw [isError,warns]
    rfl
  unfold checkCustomRule
  cases rule.condition with
  | highValue => exact against_uncounted _ fun _ => uncounted _ _
  | roundAmount =>
    refine ⟨Clean.finishes,?_⟩
    dsimp only
    unfold ruleRoundAmount
    cases (record.value "transaction_amount").properNumber with
    | none => exact fun _ => nothing_clean _
    | some x =>
      dsimp only
      by_cases above : x.greater (.finite rule.threshold) = true
      · rw [if_pos above]
        intro ⟨found,came⟩
        obtain ⟨whole,made,reported⟩ := Fallible.bind_ok.mp came
        obtain ⟨_,same,clean⟩ := (report_uncounted (uncounted _ _)).mpr ⟨found,reported⟩
        exact ⟨_,Fallible.bind_ok.mpr ⟨whole,made,same⟩,clean⟩
      · rw [if_neg above]
        exact fun _ => nothing_clean _

-- What the cross-field rules of severity error ask of a record.
structure CrossFieldOk (now : String → Int) : Prop where
  paired : record.value "geo_latitude" = .none ↔ record.value "geo_longitude" = .none
  refund : record.value "transaction_type" = .str "refund" →
    ∀ x ∈ (record.value "transaction_amount").intOrFloat, x.greater (.finite 50000) = false
  notFuture : ∀ ts ∈ timestamp h record, ts.2 ≤ now "future_timestamp_check" + 300 * 1000000
  notStale : ∀ ts ∈ timestamp h record, now "stale_timestamp_check" - 90 * 86400000000 ≤ ts.2

theorem paired_clean (rule : CrossFieldRule) (severe : rule.severity = .error) :
    Clean isError (ruleGeoCoordinatesPaired record rule) ↔
      (record.value "geo_latitude" = .none ↔ record.value "geo_longitude" = .none) := by
  refine (report_clean fun i made => by cases made; rw [isError,severe]; rfl).trans ?_
  simp only [ne_eq,not_not,decide_eq_decide]
  exact not_iff_not

theorem refund_clean (rule : CrossFieldRule) (severe : rule.severity = .error) :
    Clean isError (ruleRefundLimit h record rule) ↔ (record.value "transaction_type" = .str "refund" →
      ∀ x ∈ (record.value "transaction_amount").intOrFloat, x.greater (.finite 50000) = false) := by
  refine (against_clean _ fun x i made => ?_).trans ?_
  · obtain ⟨_,rfl⟩ := (formatted_ok h _ _ i).mp made
    rw [isError,severe]
    rfl
  · simp only [not_and,Bool.not_eq_true]
    exact ⟨fun bounded refund x number => bounded x number refund,fun bounded x number refund => bounded refund x number⟩

theorem future_clean (rule : CrossFieldRule) (severe : rule.severity = .error) (now : Int) :
    Clean isError (ruleFutureTimestamp h record rule now) ↔
      ∀ ts ∈ timestamp h record, ts.2 ≤ now + rule.futureToleranceSeconds * 1000000 := by
  refine (against_clean _ fun ts i made => by cases made; rw [isError,severe]; rfl).trans ?_
  simp only [Int.not_lt]

theorem stale_clean (rule : CrossFieldRule) (severe : rule.severity = .error) (now : Int) :
    Clean isError (ruleStaleTimestamp h record rule now) ↔
      ∀ ts ∈ timestamp h record, now - rule.maxAgeDays * 86400000000 ≤ ts.2 := by
  refine (against_clean _ fun ts i made => by cases made; rw [isError,severe]; rfl).trans ?_
  simp only [Int.not_lt]

theorem quiet_finishes (now : String → Int) (rule : CrossFieldRule)
    (quiet : rule.condition ≠ .internationalFlag ∧ rule.condition ≠ .refundLimit) :
    Finishes (checkCrossFieldRule h record rule now) := by
  unfold checkCrossFieldRule
  cases condition : rule.condition with
  | internationalFlag => exact absurd condition quiet.1
  | refundLimit => exact absurd condition quiet.2
  | cardLastFourRequired | ipRequiredOnline | geoCoordinatesPaired | posRequiresMerchant | atmWithdrawal =>
    exact report_finishes.mpr fun _ => ⟨_,rfl⟩
  | futureTimestamp | staleTimestamp => exact (against_finishes _).mpr fun _ _ _ => ⟨_,rfl⟩

end Rules

section Contract
variable (now : String → Int) (record : Record)

def numberFields : List String := ["transaction_amount","geo_latitude","geo_longitude"]

-- The records that make the validator raise.
inductive Raises : Prop
  | infinite (amount : record.value "transaction_amount" = .float (.infinity false))
  | huge (field : String) (member : field ∈ numberFields) (long : Huge (record.value field))
  | country (long : (record.value "geo_country").tooLong = true)
    (domestic : (record.getD "is_international" (.bool false)).truthy = false)

-- The required fields are filled, and each field that is there satisfies its rule or is
-- excused.
structure Sound (excused : FieldConfig → Value → Prop) : Prop where
  required : ∀ field ∈ (shippedRules h).requiredFields, Filled (record.value field)
  fields : ∀ entry ∈ (shippedRules h).fieldTypes, record.value entry.1 ≠ .none →
    Satisfies h entry.2 (record.value entry.1) ∨ excused entry.2 (record.value entry.1)

def Contract : Prop :=
  ∃ result, validate h (shippedRules h) now record = .ok result ∧
    (result.isValid = true → Sound h record fun _ _ => False)

theorem validate_finishes (rules : ValidationRules) :
    (∃ result, validate h rules now record = .ok result) ↔ ∀ check ∈ checks h rules now record, Finishes check := by
  have gathered : Finishes (gather id (checks h rules now record)) ↔ ∀ check ∈ checks h rules now record, Finishes check :=
    gather_finishes _
  rw [← gathered]
  unfold validate
  constructor
  · intro ⟨result,came⟩
    obtain ⟨found,ran,_⟩ := Fallible.bind_ok.mp came
    exact ⟨found,ran⟩
  · intro ⟨found,ran⟩
    exact ⟨_,Fallible.bind_ok.mpr ⟨found,ran,rfl⟩⟩

theorem validate_valid (rules : ValidationRules) :
    (∃ result, validate h rules now record = .ok result ∧ result.isValid = true) ↔
      ∀ check ∈ checks h rules now record, Clean isError check := by
  have gathered : Clean isError (gather id (checks h rules now record)) ↔
      ∀ check ∈ checks h rules now record, Clean isError check := gather_clean _
  rw [← gathered]
  unfold validate
  constructor
  · intro ⟨result,came,valid⟩
    obtain ⟨found,ran,made⟩ := Fallible.bind_ok.mp came
    cases made
    refine ⟨found,ran,fun issue member => ?_⟩
    have nothing := List.filter_eq_nil_iff.mp (List.isEmpty_iff.mp valid) issue member
    simpa [isError] using nothing
  · intro ⟨found,ran,clean⟩
    refine ⟨_,Fallible.bind_ok.mpr ⟨found,ran,rfl⟩,?_⟩
    refine List.isEmpty_iff.mpr (List.filter_eq_nil_iff.mpr fun issue member => ?_)
    simpa [isError] using clean issue member

theorem fields_finish : Finishes (gather (fun entry => checkFieldType h record entry.1 entry.2) (shippedRules h).fieldTypes) ↔
    ∀ field ∈ numberFields, ¬Huge (record.value field) := by
  rw [gather_finishes]
  have each : ∀ entry ∈ (shippedRules h).fieldTypes, (Finishes (checkFieldType h record entry.1 entry.2) ↔
      ¬(entry.2.type = .number ∧ Huge (record.value entry.1))) :=
    fun entry member => checkFieldType_finishes h (shipped_shaped h entry member) record entry.1
  rw [forall₂_congr each]
  simp [shippedRules,numberFields,textField,choiceField,rangeField]

theorem cross_finishes (small : ¬Huge (record.value "transaction_amount")) :
    Finishes (gather (fun rule => checkCrossFieldRule h record rule now) (shippedRules h).crossFieldRules) ↔
      ¬((record.value "geo_country").tooLong = true ∧ (record.getD "is_international" (.bool false)).truthy = false) := by
  rw [gather_finishes]
  simp only [shippedRules,List.forall_mem_cons,List.not_mem_nil,false_implies,implies_true,and_true]
  rw [← international_finishes h record ⟨"international_flag_matches_country",.internationalFlag,.warning,"USA",300,90⟩]
  constructor
  · intro all
    exact all.1
  · intro international
    refine ⟨international,?_,?_,?_,?_,?_,refund_finishes h record _ small,?_,?_⟩
    all_goals exact quiet_finishes h record now _ ⟨nofun,nofun⟩

theorem custom_finishes (small : ¬Huge (record.value "transaction_amount")) :
    Finishes (gather (checkCustomRule h record) (shippedRules h).customRules) ↔
      record.value "transaction_amount" ≠ .float (.infinity false) := by
  rw [gather_finishes]
  simp only [shippedRules,List.forall_mem_cons,List.not_mem_nil,false_implies,implies_true,and_true]
  rw [← round_amount_finishes h record ⟨"suspicious_round_amount",.roundAmount,1000,.warning⟩ small]
  exact and_iff_left (high_value_finishes h record _ small)

theorem raises_exact : (∃ result, validate h (shippedRules h) now record = .ok result) ↔ ¬Raises record := by
  rw [validate_finishes]
  simp only [checks,List.forall_mem_cons,List.not_mem_nil,false_implies,implies_true,and_true]
  have required : Finishes (gather (checkRequiredField record) (shippedRules h).requiredFields) :=
    (gather_finishes _).mpr fun field _ => checkRequiredField_finishes record field
  constructor
  · intro ⟨_,fields,cross,custom⟩ raises
    have short := (fields_finish h record).mp fields
    have small := short "transaction_amount" (by simp [numberFields])
    cases raises with
    | infinite amount => exact (custom_finishes h record small).mp custom amount
    | huge field member long => exact short field member long
    | country long domestic => exact (cross_finishes h now record small).mp cross ⟨long,domestic⟩
  · intro calm
    have short : ∀ field ∈ numberFields, ¬Huge (record.value field) := fun field member long => calm (.huge field member long)
    have small := short "transaction_amount" (by simp [numberFields])
    refine ⟨required,(fields_finish h record).mpr short,(cross_finishes h now record small).mpr ?_,(custom_finishes h record small).mpr ?_⟩
    · intro ⟨long,domestic⟩
      exact calm (.country long domestic)
    · intro amount
      exact calm (.infinite amount)

theorem cross_clean : Clean isError (gather (fun rule => checkCrossFieldRule h record rule now) (shippedRules h).crossFieldRules) ↔
    Finishes (gather (fun rule => checkCrossFieldRule h record rule now) (shippedRules h).crossFieldRules) ∧
      CrossFieldOk h record now := by
  refine ⟨fun clean => ⟨clean.finishes,?_⟩,?_⟩
  · rw [gather_clean] at clean
    simp only [shippedRules,List.forall_mem_cons,List.not_mem_nil,false_implies,implies_true,and_true] at clean
    obtain ⟨_,_,_,paired,_,_,refund,future,stale⟩ := clean
    exact ⟨(paired_clean record _ rfl).mp paired,(refund_clean h record _ rfl).mp refund,
      (future_clean h record _ rfl _).mp future,(stale_clean h record _ rfl _).mp stale⟩
  · intro ⟨finishes,ok⟩
    rw [gather_finishes] at finishes
    rw [gather_clean]
    intro rule member
    have finished := finishes rule member
    cases severe : rule.severity with
    | warning => exact (warning_clean h record now rule severe).mpr finished
    | error =>
      have four : rule ∈ (shippedRules h).crossFieldRules.filter fun rule => rule.severity = .error :=
        List.mem_filter.mpr ⟨member,by simpa using severe⟩
      have named : ∀ rule ∈ (shippedRules h).crossFieldRules.filter fun rule => rule.severity = .error,
          Clean isError (checkCrossFieldRule h record rule now) := by
        simp only [shippedRules,List.filter_cons,List.filter_nil]
        simp only [reduceCtorEq,decide_false,decide_true,Bool.false_eq_true,if_true,if_false,List.forall_mem_cons,
          List.not_mem_nil,false_implies,implies_true,and_true]
        exact ⟨(paired_clean record _ rfl).mpr ok.paired,(refund_clean h record _ rfl).mpr ok.refund,
          (future_clean h record _ rfl _).mpr ok.notFuture,(stale_clean h record _ rfl _).mpr ok.notStale⟩
      exact named rule four

theorem valid_exact (calm : ¬Raises record) :
    (∃ result, validate h (shippedRules h) now record = .ok result ∧ result.isValid = true) ↔
      Sound h record (Slips h) ∧ CrossFieldOk h record now := by
  obtain ⟨result,came⟩ := (raises_exact h now record).mpr calm
  have finished := (validate_finishes h now record _).mp ⟨result,came⟩
  rw [validate_valid]
  simp only [checks,List.forall_mem_cons,List.not_mem_nil,false_implies,implies_true,and_true] at finished ⊢
  obtain ⟨_,_,cross,custom⟩ := finished
  have quiet : Clean isError (gather (checkCustomRule h record) (shippedRules h).customRules) := by
    rw [gather_finishes] at custom
    rw [gather_clean]
    intro rule member
    refine (custom_clean h record rule ?_).mpr (custom rule member)
    simp only [shippedRules,List.mem_cons,List.not_mem_nil,or_false] at member
    rcases member with rfl | rfl <;> rfl
  have fields : Clean isError (gather (fun entry => checkFieldType h record entry.1 entry.2) (shippedRules h).fieldTypes) ↔
      ∀ entry ∈ (shippedRules h).fieldTypes, record.value entry.1 ≠ .none →
        Satisfies h entry.2 (record.value entry.1) ∨ Slips h entry.2 (record.value entry.1) := by
    rw [gather_clean]
    refine forall₂_congr fun entry member => ?_
    rw [checkFieldType_clean h (shipped_shaped h entry member) record entry.1]
    exact or_iff_not_imp_left
  rw [fields,gather_clean,cross_clean]
  simp only [checkRequiredField_clean]
  constructor
  · intro ⟨required,fields,⟨_,ok⟩,_⟩
    exact ⟨⟨required,fields⟩,ok⟩
  · intro ⟨sound,ok⟩
    exact ⟨sound.required,sound.fields,⟨cross,ok⟩,quiet⟩

theorem slipped_unsound (entry : String × FieldConfig) (member : entry ∈ (shippedRules h).fieldTypes)
    (slips : Slips h entry.2 (record.value entry.1)) : ¬Sound h record fun _ _ => False := by
  intro sound
  have shaped := shipped_shaped h entry member
  have there : record.value entry.1 ≠ .none := by
    intro absent
    rw [absent] at slips
    unfold Slips at slips
    split at slips
    · obtain ⟨_,same,_⟩ := slips
      cases same
    · cases slips
    · exact slips
  rcases sound.fields entry member there with satisfied | excused
  · exact slips_unsatisfied h shaped slips satisfied
  · exact excused

theorem Sound.exact {record : Record} (sound : Sound h record (Slips h))
    (none : ¬∃ entry ∈ (shippedRules h).fieldTypes, Slips h entry.2 (record.value entry.1)) : Sound h record fun _ _ => False := by
  refine ⟨sound.required,fun entry member there => .inl ?_⟩
  rcases sound.fields entry member there with satisfied | slips
  · exact satisfied
  · exact absurd ⟨entry,member,slips⟩ none

-- The validator keeps its contract unless it raises, or a nan or a line break slips into a
-- record with nothing else wrong.
theorem validate_sound : Contract h now record ↔ ¬Raises record ∧
    ¬((∃ entry ∈ (shippedRules h).fieldTypes, Slips h entry.2 (record.value entry.1)) ∧
      Sound h record (Slips h) ∧ CrossFieldOk h record now) := by
  constructor
  · intro ⟨result,came,valid⟩
    have calm := (raises_exact h now record).mp ⟨result,came⟩
    refine ⟨calm,?_⟩
    intro ⟨⟨entry,member,slips⟩,accepted⟩
    obtain ⟨other,again,accepts⟩ := (valid_exact h now record calm).mpr accepted
    cases came.symm.trans again
    exact slipped_unsound h record entry member slips (valid accepts)
  · intro ⟨calm,others⟩
    obtain ⟨result,came⟩ := (raises_exact h now record).mpr calm
    refine ⟨result,came,fun valid => ?_⟩
    obtain ⟨sound,ok⟩ := (valid_exact h now record calm).mp ⟨result,came,valid⟩
    exact sound.exact h fun slips => others ⟨slips,sound,ok⟩

-- Whatever else a record holds, an infinite amount makes the validator raise.
theorem infinite_amount : ¬∀ (h : SchemaHost) (now : String → Int) (record : Record), Contract h now record := by
  intro all
  let str : Value → String := fun value => if value = .float (.infinity false) then "inf" else "999999999.99"
  let host : SchemaHost := ⟨str,Char.isDigit,Char.isAlphanum,fun _ => false,fun _ => none⟩
  obtain ⟨result,came,_⟩ := all host (fun _ => 0) (.ofList [("transaction_amount",.float (.infinity false))])
  exact (raises_exact host _ _).mp ⟨result,came⟩ (.infinite rfl)

end Contract

end SchemaValidator
end RiskPulse
