import RiskPulse.Library.FieldPasses
import RiskPulse.TextCleaning

namespace RiskPulse
namespace DataCleaner
variable (h : CleaningHost)

section Steps

def onText (f : List Char → List Char) : Value → Value
  | .str text => .str (String.ofList (f text.toList))
  | other => other

def fixEncodingStep : CleaningStep :=
  fun record => .ok (rewriteTexts (fun text => String.ofList (fixText h text.toList)) "encoding_fixed" record)

def rewriteKey (rewrite : List Char → List Char) (label key : String) : Value → Option (Value × String)
  | .str text =>
    let rewritten := String.ofList (rewrite text.toList)
    if rewritten = text then none else some (.str rewritten,s!"{label}:{key}")
  | _ => none

-- The loops over the sets of fields take them in any order.
def trimWhitespaceStep : CleaningStep :=
  fun record => .ok (OrderedDict.eachKey .none (rewriteKey Text.trim "whitespace_trimmed") trimFields record)

def standardizeStringsStep : CleaningStep :=
  OrderedDict.andThen
    (fun record => .ok (OrderedDict.eachKey .none (rewriteKey h.lower.apply "lowercased") lowercaseFields record))
    (fun record => .ok (OrderedDict.eachKey .none (rewriteKey h.upper.apply "uppercased") uppercaseFields record))

def defaultImputation : Record :=
  .ofList [("transaction_currency",.str "USD"),("is_international",.bool false),("channel",.str "online"),("card_type",.none),
    ("geo_country",.none),("geo_city",.none),("device_type",.str "unknown")]

-- current is None, or a text with nothing but blanks
def blankValue : Value → Bool
  | .none => true
  | .str text => (Text.strip Text.isSpace text.toList).isEmpty
  | _ => false

def imputeChange (imputation : Record) (key : String) (current : Value) : Option (Value × String) :=
  let default_value := imputation.value key
  if default_value = .none then none
  else if blankValue current then some (default_value,s!"imputed:{key}={h.str default_value}") else none

def imputeMissingStep (imputation : Record) : CleaningStep :=
  fun record => .ok (OrderedDict.eachKey .none (imputeChange h imputation) imputation.keys record)

-- cleaned_amount != amount
def differs (cleaned : PyFloat) : Value → Bool
  | .bool b => decide (cleaned ≠ .ofBool b)
  | .int n => decide (cleaned ≠ .finite n)
  | .float x => decide (cleaned = .nan ∨ cleaned ≠ x)
  | _ => true

def cleanAmount : CleaningStep := fun record =>
  let amount := record.value "transaction_amount"
  if amount = .none then .ok (record,[])
  else match parseAmount h.amounts amount with
    | .error e => .error e
    | .ok none => .ok (record,[])
    | .ok (some cleaned) =>
      if differs cleaned amount then
        .ok (record.set "transaction_amount" (.float cleaned),[s!"amount_cleaned:{h.str amount}->{h.str (.float cleaned)}"])
      else .ok (record,[])

-- float(value), with none for a ValueError or a TypeError; an OverflowError is not caught.
def toFloat : Value → Except String (Option PyFloat)
  | .bool b => .ok (some (.ofBool b))
  | .int n => (h.amounts.floatOfInt n).map some
  | .float x => .ok (some x)
  | .decimal coefficient exponent => .ok (some (h.amounts.nearest (coefficient * 10 ^ exponent)))
  | .str text => .ok (floatText h.amounts text.toList)
  | .bytes content => .ok (h.readBytes content)
  | _ => .ok none

def beyond (limit : Rat) (x : PyFloat) : Bool := (PyFloat.finite (-limit)).greater x || x.greater (.finite limit)

def clearCoordinate (key name : String) (limit : Rat) : CleaningStep := fun record =>
  let value := record.value key
  if value = .none then .ok (record,[])
  else match toFloat h value with
    | .error e => .error e
    | .ok none => .ok (record.set key .none,[s!"unparseable_{name}_cleared"])
    | .ok (some x) => if beyond limit x then .ok (record.set key .none,[s!"invalid_{name}_cleared"]) else .ok (record,[])

def cleanNumericsStep : CleaningStep :=
  OrderedDict.andThen (cleanAmount h)
    (OrderedDict.andThen (clearCoordinate h "geo_latitude" "latitude" 90) (clearCoordinate h "geo_longitude" "longitude" 180))

-- A cleaner with its imputation table.
def cleanerOf (text : KeyText) (idempotencyFields : List String) (imputation : Record) : DataCleaner where
  text := text
  idempotencyFields := idempotencyFields
  fixEncoding := fixEncodingStep h
  trimWhitespace := trimWhitespaceStep
  standardizeStrings := standardizeStringsStep h
  parseDates := parseDatesStep h.dates
  imputeMissing := imputeMissingStep h imputation
  cleanNumerics := cleanNumericsStep h
  sanitizeStrings := sanitizeStringsStep h.amounts.word

end Steps

section Passes
variable (imputation : Record) (key : String)

-- What the steps make of the value of one field.
def datedValue (value : Value) : Except String Value :=
  match value with
  | .datetime wall _ => .ok (.str (String.ofList (strftime h.dates isoFormat (Calendar.ofMicroseconds wall) none)))
  | .str text =>
    if text = "" then .ok value
    else match tryParseDate h.dates text.toList with
      | .error e => .error e
      | .ok none => .ok value
      | .ok (some (wall,offset)) =>
        if Calendar.Representable (wall - offset) then
          .ok (.str (String.ofList (strftime h.dates isoFormat (Calendar.ofMicroseconds (wall - offset)) none)))
        else .error "OverflowError: date value out of range"
  | _ => .ok value

def dateValue (value : Value) : Except String Value :=
  if key = "transaction_timestamp" then datedValue h value else .ok value

def imputeValue (value : Value) : Value :=
  if imputation.value key ≠ .none ∧ blankValue value = true then imputation.value key else value

def amountValue (value : Value) : Except String Value :=
  if value = .none then .ok value
  else match parseAmount h.amounts value with
    | .error e => .error e
    | .ok none => .ok value
    | .ok (some cleaned) => .ok (if differs cleaned value then .float cleaned else value)

def coordinateValue (limit : Rat) (value : Value) : Except String Value :=
  if value = .none then .ok value
  else match toFloat h value with
    | .error e => .error e
    | .ok none => .ok .none
    | .ok (some x) => .ok (if beyond limit x then .none else value)

def numericValue (value : Value) : Except String Value :=
  if key = "transaction_amount" then amountValue h value
  else if key = "geo_latitude" then coordinateValue h 90 value
  else if key = "geo_longitude" then coordinateValue h 180 value
  else .ok value

-- The passes after the imputation, and all of them.
def tailValue (value : Value) : Except String Value :=
  match numericValue h key value with
  | .error e => .error e
  | .ok value => .ok (onText (untag h.amounts.word) value)

def fieldValue (value : Value) : Except String Value :=
  match dateValue h key (onText (headText h key) value) with
  | .error e => .error e
  | .ok value => tailValue h key (imputeValue imputation key value)

end Passes

section Fields
open OrderedDict

theorem onText_onText (f g : List Char → List Char) (value : Value) : onText f (onText g value) = onText (fun text => f (g text)) value := by
  cases value with
  | str text => simp only [onText,String.toList_ofList]
  | _ => rfl

theorem changed_rewriteKey (f : List Char → List Char) (label key : String) (value : Value) :
    changed (rewriteKey f label) key value = onText f value := by
  unfold changed rewriteKey onText
  cases value with
  | str text =>
    simp only
    split
    · rename_i same
      rw [same]
      rfl
    · rfl
  | _ => rfl

-- A loop over the texts of a record.
theorem rewriteTexts_byKey (f : List Char → List Char) (label : String) :
    ByKey Value.none [] (fun (_ : String) v => (.ok (onText f v) : Except String Value))
      (fun record => .ok (rewriteTexts (fun text => String.ofList (f text.toList)) label record)) := by
  have same : (fun value : Value => match value with
      | .str text => .str (String.ofList (f text.toList))
      | other => other) = onText f := by
    funext value
    cases value <;> rfl
  have byKey : ByKey Value.none [] (fun (_ : String) v => (.ok (onText f v) : Except String Value))
      (fun record => .ok (record.mapValues (onText f),(rewriteTexts (fun text => String.ofList (f text.toList)) label record).2)) :=
    mapValues_byKey (onText f) rfl _
  rw [← same] at byKey
  exact byKey

-- A loop over the texts at some keys.
theorem rewriteKeys_byKey (f : List Char → List Char) (label : String) (loop : List String) (unique : loop.Nodup) :
    ByKey Value.none (loop.filter fun k => (rewriteKey f label k .none).isSome)
      (fun k v => (.ok (if k ∈ loop then onText f v else v) : Except String Value)) (fun record => .ok (eachKey .none (rewriteKey f label) loop record)) := by
  have byKey := eachKey_byKey (ε := String) Value.none (rewriteKey f label) loop unique
  simp only [changed_rewriteKey] at byKey
  exact byKey

theorem writesAt_value (key : String) (passAt : Value → Except String Value) (step : CleaningStep)
    (each : ∀ record : Record, (∃ e f, passAt (record.value key) = .error e ∧ step record = .error f) ∨
      ∃ v notes, passAt (record.value key) = .ok v ∧ (step record = .ok (record,notes) ∧ v = record.value key ∨
        step record = .ok (record.set key v,notes) ∧ record.value key ≠ .none)) : WritesAt Value.none key passAt step := each

theorem dates_byKey : ByKey Value.none [] (dateValue h) (parseDatesStep h.dates) := by
  refine WritesAt.byKey (writesAt_value _ _ _ ?_)
  intro record
  simp only [datedValue,parseDatesStep]
  cases record.value "transaction_timestamp" with
  | datetime wall offset => exact .inr ⟨_,_,rfl,.inr ⟨rfl,by simp⟩⟩
  | str text =>
    by_cases empty : text = ""
    · exact .inr ⟨_,_,if_pos empty,.inl ⟨if_pos empty,rfl⟩⟩
    · simp only [if_neg empty]
      cases tryParseDate h.dates text.toList with
      | error e => exact .inl ⟨e,e,rfl,rfl⟩
      | ok found =>
        cases found with
        | none => exact .inr ⟨_,_,rfl,.inl ⟨rfl,rfl⟩⟩
        | some parsed =>
          by_cases inside : Calendar.Representable (parsed.1 - parsed.2)
          · exact .inr ⟨_,_,if_pos inside,.inr ⟨if_pos inside,by simp⟩⟩
          · exact .inl ⟨_,_,if_neg inside,if_neg inside⟩
  | _ => exact .inr ⟨_,_,rfl,.inl ⟨rfl,rfl⟩⟩

theorem impute_byKey (imputation : Record) :
    ByKey Value.none (imputation.keys.filter fun k => (imputeChange h imputation k .none).isSome)
      (fun k v => (.ok (imputeValue imputation k v) : Except String Value)) (imputeMissingStep h imputation) := by
  have byKey := eachKey_byKey (ε := String) Value.none (imputeChange h imputation) imputation.keys imputation.unique
  have same : ∀ k v, (if k ∈ imputation.keys then changed (imputeChange h imputation) k v else v) = imputeValue imputation k v := by
    intro k v
    unfold changed imputeChange imputeValue
    by_cases absent : imputation.value k = .none
    · simp [absent]
    · have present : k ∈ imputation.keys := by
        by_contra missing
        apply absent
        rw [Record.value,getD,(get?_eq_none imputation k).mpr missing]
        rfl
      rw [if_pos present]
      simp only [if_neg absent]
      by_cases blank : blankValue v = true <;> simp [absent,blank]
  simp only [same] at byKey
  exact byKey

theorem amount_byKey : ByKey Value.none [] (fun k v => if k = "transaction_amount" then amountValue h v else .ok v) (cleanAmount h) := by
  refine WritesAt.byKey (writesAt_value _ _ _ ?_)
  intro record
  simp only [amountValue,cleanAmount]
  by_cases missing : record.value "transaction_amount" = .none
  · exact .inr ⟨_,_,if_pos missing,.inl ⟨if_pos missing,rfl⟩⟩
  · simp only [if_neg missing]
    cases parseAmount h.amounts (record.value "transaction_amount") with
    | error e => exact .inl ⟨e,e,rfl,rfl⟩
    | ok found =>
      cases found with
      | none => exact .inr ⟨_,_,rfl,.inl ⟨rfl,rfl⟩⟩
      | some cleaned =>
        cases changes : differs cleaned (record.value "transaction_amount") with
        | true => exact .inr ⟨.float cleaned,_,by simp [changes],.inr ⟨by simp only [changes]; rfl,missing⟩⟩
        | false => exact .inr ⟨record.value "transaction_amount",[],by simp [changes],.inl ⟨by simp [changes],rfl⟩⟩

theorem coordinate_byKey (key name : String) (limit : Rat) :
    ByKey Value.none [] (fun k v => if k = key then coordinateValue h limit v else .ok v) (clearCoordinate h key name limit) := by
  refine WritesAt.byKey (writesAt_value _ _ _ ?_)
  intro record
  simp only [coordinateValue,clearCoordinate]
  by_cases missing : record.value key = .none
  · exact .inr ⟨_,_,if_pos missing,.inl ⟨if_pos missing,rfl⟩⟩
  · simp only [if_neg missing]
    cases toFloat h (record.value key) with
    | error e => exact .inl ⟨e,e,rfl,rfl⟩
    | ok found =>
      cases found with
      | none => exact .inr ⟨_,_,rfl,.inr ⟨rfl,missing⟩⟩
      | some x =>
        cases cleared : beyond limit x with
        | true => exact .inr ⟨.none,_,by simp [cleared],.inr ⟨by simp only [cleared]; rfl,missing⟩⟩
        | false => exact .inr ⟨record.value key,[],by simp [cleared],.inl ⟨by simp [cleared],rfl⟩⟩

theorem numerics_byKey : ByKey Value.none [] (numericValue h) (cleanNumericsStep h) := by
  have byKey := (amount_byKey h).andThen ((coordinate_byKey h "geo_latitude" "latitude" 90).andThen
    (coordinate_byKey h "geo_longitude" "longitude" 180))
  have same : (fun (k : String) v => (if k = "transaction_amount" then amountValue h v else .ok v) >>= fun v =>
      (if k = "geo_latitude" then coordinateValue h 90 v else .ok v) >>= fun v =>
        if k = "geo_longitude" then coordinateValue h 180 v else .ok v) = numericValue h := by
    funext k v
    unfold numericValue
    by_cases amount : k = "transaction_amount"
    · subst amount
      simp [bind,Except.bind]
      cases amountValue h v <;> rfl
    · by_cases latitude : k = "geo_latitude"
      · subst latitude
        simp [bind,Except.bind]
        cases coordinateValue h 90 v <;> rfl
      · by_cases longitude : k = "geo_longitude" <;> simp [bind,Except.bind,amount,latitude,longitude]
  rw [← same]
  exact byKey

theorem head_passes (key : String) (value : Value) :
    (if key ∈ uppercaseFields then
        onText h.upper.apply (if key ∈ lowercaseFields then
          onText h.lower.apply (if key ∈ trimFields then onText Text.trim (onText (fixText h) value) else onText (fixText h) value)
        else if key ∈ trimFields then onText Text.trim (onText (fixText h) value) else onText (fixText h) value)
      else if key ∈ lowercaseFields then
          onText h.lower.apply (if key ∈ trimFields then onText Text.trim (onText (fixText h) value) else onText (fixText h) value)
        else if key ∈ trimFields then onText Text.trim (onText (fixText h) value) else onText (fixText h) value) =
      onText (headText h key) value := by
  have trimmed : (if key ∈ trimFields then onText Text.trim (onText (fixText h) value) else onText (fixText h) value) =
      onText (fun text => trimText key (fixText h text)) value := by
    unfold trimText
    by_cases trims : key ∈ trimFields
    · simp only [if_pos trims,onText_onText]
    · simp only [if_neg trims]
  have apart : key ∈ lowercaseFields → key ∉ uppercaseFields := by
    clear trimmed
    intro lower upper
    simp only [lowercaseFields,List.mem_cons,List.not_mem_nil,or_false] at lower
    rcases lower with rfl | rfl | rfl | rfl <;> revert upper <;> decide
  rw [trimmed]
  unfold headText caseText
  by_cases lower : key ∈ lowercaseFields
  · simp only [if_pos lower,if_neg (apart lower),onText_onText]
  · by_cases upper : key ∈ uppercaseFields
    · simp only [if_neg lower,if_pos upper,onText_onText]
    · simp only [if_neg lower,if_neg upper]

-- A cleaner treats each field by itself, with the passes in their order.
theorem cleaner_byKey (text : KeyText) (fields : List String) (imputation : Record) :
    ∃ added, ByKey Value.none added (fieldValue h imputation) (runAll (steps (cleanerOf h text fields imputation))) := by
  have byKey := runAll_cons (rewriteTexts_byKey (fixText h) "encoding_fixed") <|
    runAll_cons (rewriteKeys_byKey Text.trim "whitespace_trimmed" trimFields (by decide)) <|
    runAll_cons ((rewriteKeys_byKey h.lower.apply "lowercased" lowercaseFields (by decide)).andThen
      (rewriteKeys_byKey h.upper.apply "uppercased" uppercaseFields (by decide))) <|
    runAll_cons (dates_byKey h) <| runAll_cons (impute_byKey h imputation) <| runAll_cons (numerics_byKey h) <|
    runAll_cons (rewriteTexts_byKey (untag h.amounts.word) "html_stripped") runAll_nil
  simp only [bind,Except.bind,head_passes] at byKey
  refine ⟨_,byKey.congr ?_⟩
  intro k v
  unfold fieldValue tailValue
  cases dateValue h k (onText (headText h k) v) with
  | error e => rfl
  | ok w =>
    dsimp only
    cases numericValue h k (imputeValue imputation k w) <;> rfl

end Fields

end DataCleaner
end RiskPulse
