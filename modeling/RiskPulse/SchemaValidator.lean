import RiskPulse.FeatureStore
import RiskPulse.PipelineOrchestrator
import RiskPulse.Library.Checks
import RiskPulse.Library.Regex
import RiskPulse.Library.Text

namespace RiskPulse
open Checks

-- What the validator takes of Python: str(), \d and \w, ip_address() and fromisoformat(),
-- which gives the wall clock and, if there is one, the UTC offset, both in microseconds.
structure SchemaHost where
  str : Value → String
  digit : Char → Bool
  word : Char → Bool
  ipAddress : String → Bool
  fromisoformat : String → Option (Int × Option Int)

namespace Value

-- type(value).__name__
def typeName : Value → String
  | .none => "NoneType"
  | .bool _ => "bool"
  | .int _ => "int"
  | .float _ => "float"
  | .decimal _ _ => "Decimal"
  | .str _ => "str"
  | .bytes _ => "bytes"
  | .datetime _ _ => "datetime"
  | .list _ => "list"
  | .dict _ => "dict"

-- What isinstance(value, (int, float)) lets through; a bool is an int.
def intOrFloat : Value → Option PyFloat
  | .bool b => some (.finite (if b then 1 else 0))
  | .int n => some (.finite n)
  | .float x => some x
  | _ => Option.none

-- And where isinstance(value, bool) is ruled out.
def properNumber : Value → Option PyFloat
  | .bool _ => Option.none
  | value => value.intOrFloat

-- The first number of more digits than str() writes.
def digitLimit : Nat := 10 ^ 4300

-- Values that have no text: an int of more than 4300 digits, and what holds one.
mutual
def tooLong : Value → Bool
  | .int n => decide (digitLimit ≤ n.natAbs)
  | .list items => itemTooLong items
  | .dict entries => entryTooLong entries
  | _ => false
def itemTooLong : List Value → Bool
  | [] => false
  | item :: rest => tooLong item || itemTooLong rest
def entryTooLong : List (String × Value) → Bool
  | [] => false
  | (_,v) :: rest => tooLong v || entryTooLong rest
end

end Value

inductive FieldType where
  | string
  | number
  | boolean

inductive FieldFormat where
  | ipAddress
  | iso8601

-- An entry of field_types; of a pattern the part between its ^ and its $.
structure FieldConfig where
  type : FieldType
  minLength : Option Nat := none
  maxLength : Option Nat := none
  allowedValues : Option (List String) := none
  pattern : Option Regex := none
  format : Option FieldFormat := none
  minValue : Option Rat := none
  maxValue : Option Rat := none

-- The conditions the validator knows by their texts.
inductive CrossFieldCondition where
  | internationalFlag
  | cardLastFourRequired
  | ipRequiredOnline
  | geoCoordinatesPaired
  | posRequiresMerchant
  | atmWithdrawal
  | refundLimit
  | futureTimestamp
  | staleTimestamp

structure CrossFieldRule where
  name : String
  condition : CrossFieldCondition
  severity : ValidationSeverity
  domesticCountry : String := "USA"
  futureToleranceSeconds : Int := 300
  maxAgeDays : Int := 90

inductive CustomCondition where
  | roundAmount
  | highValue

structure CustomRule where
  name : String
  condition : CustomCondition
  threshold : Int
  severity : ValidationSeverity

structure ValidationRules where
  requiredFields : List String
  fieldTypes : List (String × FieldConfig)
  crossFieldRules : List CrossFieldRule
  customRules : List CustomRule

namespace SchemaValidator
variable (h : SchemaHost)

-- The text of a value in a message.
def format (value : Value) : Except String String :=
  if value.tooLong then .error "Exceeds the limit (4300 digits) for integer string conversion" else .ok (h.str value)

-- compiled.match(value), where $ holds at the end and before a line break at the end.
def patternMatches (pattern : Regex) (text : List Char) : Bool :=
  (pattern.ways h.word [] text).any fun way => decide (way.2 = [] ∨ way.2 = ['\n'])

def checkRequiredField (record : Record) (field : String) : Except String (List ValidationError) :=
  match record.value field with
  | .none => .ok [⟨field,"required_field","Required field '" ++ field ++ "' is missing",.error,.none⟩]
  | .str text =>
    reportIf (Text.strip Text.isSpace text.toList = [])
      (.ok ⟨field,"required_field_empty","Required field '" ++ field ++ "' is empty",.error,.none⟩)
  | _ => .ok []

def fieldError (field rule message : String) (value : Value) : ValidationError :=
  ⟨field,rule,"'" ++ field ++ "' " ++ message,.error,value⟩

def typeError (field expected got : String) (value : Value) : ValidationError :=
  ⟨field,"type_check","Expected " ++ expected ++ " for '" ++ field ++ "', got " ++ got,.error,value⟩

def validateFormat (field : String) (format : FieldFormat) (text : String) : Except String (List ValidationError) :=
  match format with
  | .ipAddress =>
    reportIf (h.ipAddress text = false)
      (.ok (fieldError field "ip_address_format" ("value '" ++ text ++ "' is not a valid IP address") (.str text)))
  | .iso8601 =>
    reportIf (h.fromisoformat (replaceZ text) = none)
      (.ok (fieldError field "iso8601_format" ("value '" ++ text ++ "' is not valid ISO 8601") (.str text)))

def validateStringField (field : String) (value : Value) (config : FieldConfig) : Except String (List ValidationError) :=
  match value with
  | .str text => gather id [
      against config.minLength (fun least => text.length < least) fun least =>
        .ok (fieldError field "min_length" ("must be at least " ++ toString least ++ " characters") value),
      against config.maxLength (fun most => most < text.length) fun most =>
        .ok (fieldError field "max_length" ("must be at most " ++ toString most ++ " characters") value),
      against config.allowedValues (fun allowed => text ∉ allowed) fun allowed =>
        .ok (fieldError field "allowed_values"
          ("value '" ++ text ++ "' not in allowed values: " ++ h.str (.list (allowed.map .str))) value),
      against config.pattern (fun pattern => patternMatches h pattern text.toList = false) fun _ =>
        .ok (fieldError field "pattern" ("value '" ++ text ++ "' does not match required pattern") value),
      gather (fun format => validateFormat h field format text) config.format.toList]
  | _ => .ok [typeError field "string" value.typeName value]

def validateNumberField (field : String) (value : Value) (config : FieldConfig) : Except String (List ValidationError) :=
  match value.intOrFloat with
  | none => .ok [typeError field "number" value.typeName value]
  | some x =>
    match value with
    | .bool _ => .ok [typeError field "number" "boolean" value]
    | _ => gather id [
        against config.minValue (fun low => (PyFloat.finite low).greater x = true) fun low => do
          let text ← format h value
          return fieldError field "min_value" ("value " ++ text ++ " is below minimum " ++ h.str (.float (.finite low))) value,
        against config.maxValue (fun high => x.greater (.finite high) = true) fun high => do
          let text ← format h value
          return fieldError field "max_value" ("value " ++ text ++ " exceeds maximum " ++ h.str (.float (.finite high))) value]

def validateBooleanField (field : String) (value : Value) : Except String (List ValidationError) :=
  match value with
  | .bool _ => .ok []
  | _ => .ok [typeError field "boolean" value.typeName value]

-- A field that is not there is passed by, nullable or not.
def checkFieldType (record : Record) (field : String) (config : FieldConfig) : Except String (List ValidationError) :=
  let value := record.value field
  if value = .none then .ok []
  else
    match config.type with
    | .string => validateStringField h field value config
    | .number => validateNumberField h field value config
    | .boolean => validateBooleanField field value

section CrossField
variable (record : Record) (rule : CrossFieldRule)

def ruleInternationalFlag : Except String (List ValidationError) :=
  let geoCountry := record.value "geo_country"
  let isInternational := record.getD "is_international" (.bool false)
  reportIf (geoCountry ≠ .none ∧ geoCountry ≠ .str rule.domesticCountry ∧ isInternational.truthy = false) do
    let text ← format h geoCountry
    return ⟨"is_international",rule.name,
      "is_international should be True for country '" ++ text ++ "' (domestic: '" ++ rule.domesticCountry ++ "')",
      rule.severity,isInternational⟩

def ruleCardLastFourRequired : Except String (List ValidationError) :=
  reportIf (record.value "card_type" ≠ .none ∧ record.value "card_last_four" = .none)
    (.ok ⟨"card_last_four",rule.name,"card_last_four should be provided when card_type is set",rule.severity,.none⟩)

def ruleIpRequiredOnline : Except String (List ValidationError) :=
  reportIf (record.value "channel" = .str "online" ∧ record.value "ip_address" = .none)
    (.ok ⟨"ip_address",rule.name,"ip_address is required for online channel transactions",rule.severity,.none⟩)

def ruleGeoCoordinatesPaired : Except String (List ValidationError) :=
  let hasLat := decide (record.value "geo_latitude" ≠ .none)
  let hasLon := decide (record.value "geo_longitude" ≠ .none)
  reportIf (hasLat ≠ hasLon)
    (.ok ⟨if hasLat then "geo_longitude" else "geo_latitude",rule.name,
      "geo_latitude and geo_longitude must both be present or both absent",rule.severity,.none⟩)

def rulePosRequiresMerchant : Except String (List ValidationError) :=
  reportIf (record.value "channel" = .str "pos" ∧ record.value "merchant_id" = .none)
    (.ok ⟨"merchant_id",rule.name,"POS transactions must have merchant_id",rule.severity,.none⟩)

def ruleAtmWithdrawal : Except String (List ValidationError) :=
  reportIf (record.value "channel" = .str "atm" ∧ record.value "transaction_type" ≠ .str "withdrawal")
    (.ok ⟨"transaction_type",rule.name,"ATM channel transactions should have 'withdrawal' transaction_type",rule.severity,
      record.value "transaction_type"⟩)

def ruleRefundLimit : Except String (List ValidationError) :=
  let amount := record.value "transaction_amount"
  against amount.intOrFloat (fun x => record.value "transaction_type" = .str "refund" ∧ x.greater (.finite 50000) = true)
    fun _ => do
      let text ← format h amount
      return ⟨"transaction_amount",rule.name,"Refund amount " ++ text ++ " exceeds limit of 50000",rule.severity,amount⟩

-- The text of the timestamp and its instant; without an offset it is UTC.
def timestamp : Option (String × Int) :=
  match record.value "transaction_timestamp" with
  | .str text => (h.fromisoformat (replaceZ text)).map fun parsed => (text,parsed.1 - parsed.2.getD 0)
  | _ => none

-- The clock is read in microseconds.
def ruleFutureTimestamp (now : Int) : Except String (List ValidationError) :=
  against (timestamp h record) (fun ts => now + rule.futureToleranceSeconds * 1000000 < ts.2) fun ts =>
    .ok ⟨"transaction_timestamp",rule.name,"Transaction timestamp " ++ ts.1 ++ " is in the future",rule.severity,.str ts.1⟩

def ruleStaleTimestamp (now : Int) : Except String (List ValidationError) :=
  against (timestamp h record) (fun ts => ts.2 < now - rule.maxAgeDays * 86400000000) fun ts =>
    .ok ⟨"transaction_timestamp",rule.name,
      "Transaction timestamp " ++ ts.1 ++ " is older than " ++ toString rule.maxAgeDays ++ " days",rule.severity,.str ts.1⟩

-- now is what the clock says when the rule reads it.
def checkCrossFieldRule (now : String → Int) : Except String (List ValidationError) :=
  match rule.condition with
  | .internationalFlag => ruleInternationalFlag h record rule
  | .cardLastFourRequired => ruleCardLastFourRequired record rule
  | .ipRequiredOnline => ruleIpRequiredOnline record rule
  | .geoCoordinatesPaired => ruleGeoCoordinatesPaired record rule
  | .posRequiresMerchant => rulePosRequiresMerchant record rule
  | .atmWithdrawal => ruleAtmWithdrawal record rule
  | .refundLimit => ruleRefundLimit h record rule
  | .futureTimestamp => ruleFutureTimestamp h record rule (now rule.name)
  | .staleTimestamp => ruleStaleTimestamp h record rule (now rule.name)

end CrossField

section Custom
variable (record : Record) (rule : CustomRule)

-- int(amount)
def truncated : PyFloat → Except String Int
  | .finite q => .ok (q.num.tdiv q.den)
  | .infinity _ => .error "cannot convert float infinity to integer"
  | .nan => .error "cannot convert float NaN to integer"

def amountIssue (before after : String) : Except String ValidationError := do
  let amount := record.value "transaction_amount"
  let text ← format h amount
  return ⟨"transaction_amount",rule.name,before ++ text ++ after ++ toString rule.threshold,rule.severity,amount⟩

def ruleRoundAmount : Except String (List ValidationError) :=
  match (record.value "transaction_amount").properNumber with
  | none => .ok []
  | some x =>
    if x.greater (.finite rule.threshold) then do
      let whole ← truncated x
      reportIf (x = .finite whole) (amountIssue h record rule "Suspicious round amount " " above threshold ")
    else .ok []

def ruleHighValue : Except String (List ValidationError) :=
  against (record.value "transaction_amount").properNumber (fun x => x.greater (.finite rule.threshold) = true) fun _ =>
    amountIssue h record rule "High value transaction: " " exceeds threshold "

def checkCustomRule : Except String (List ValidationError) :=
  match rule.condition with
  | .roundAmount => ruleRoundAmount h record rule
  | .highValue => ruleHighValue h record rule

end Custom

variable (rules : ValidationRules)

def checks (now : String → Int) (record : Record) : List (Except String (List ValidationError)) := [
  gather (checkRequiredField record) rules.requiredFields,
  gather (fun entry => checkFieldType h record entry.1 entry.2) rules.fieldTypes,
  gather (fun rule => checkCrossFieldRule h record rule now) rules.crossFieldRules,
  gather (checkCustomRule h record) rules.customRules]

-- An issue goes to the errors or to the warnings by its severity.
def validate (now : String → Int) (record : Record) : Except String ValidationResult := do
  let found ← gather id (checks h rules now record)
  let errors := found.filter fun issue => issue.severity = .error
  let warnings := found.filter fun issue => issue.severity = .warning
  return ⟨errors.isEmpty,errors,warnings⟩

def textField (minLength maxLength : Option Nat) : FieldConfig where
  type := .string
  minLength := minLength
  maxLength := maxLength

def choiceField (allowed : List String) : FieldConfig where
  type := .string
  allowedValues := some allowed

def rangeField (low high : Rat) : FieldConfig where
  type := .number
  minValue := some low
  maxValue := some high

-- config/validation_rules.yaml
def shippedRules : ValidationRules where
  requiredFields := ["external_transaction_id","account_id","customer_id","transaction_amount","transaction_type","channel",
    "transaction_timestamp"]
  fieldTypes := [
    ("external_transaction_id",textField (some 1) (some 64)),
    ("account_id",textField (some 1) (some 64)),
    ("customer_id",textField (some 1) (some 64)),
    ("merchant_id",textField none (some 64)),
    ("merchant_name",textField none (some 255)),
    ("merchant_category_code",textField none (some 10)),
    ("transaction_amount",rangeField (1 / 100) (99999999999 / 100)),
    ("transaction_currency",choiceField ["USD","EUR","GBP","CAD","AUD","JPY"]),
    ("transaction_type",choiceField ["purchase","withdrawal","transfer","refund"]),
    ("channel",choiceField ["online","pos","atm","mobile"]),
    ("card_type",choiceField ["credit","debit","prepaid"]),
    ("card_last_four",{type := .string,pattern := some (.repeated false 4 (some 4) (.one h.digit))}),
    ("ip_address",{type := .string,format := some .ipAddress}),
    ("device_id",textField none (some 128)),
    ("device_type",textField none (some 50)),
    ("geo_latitude",rangeField (-90) 90),
    ("geo_longitude",rangeField (-180) 180),
    ("geo_country",textField none (some 3)),
    ("geo_city",textField none (some 100)),
    ("is_international",{type := .boolean}),
    ("transaction_timestamp",{type := .string,format := some .iso8601})]
  crossFieldRules := [
    ⟨"international_flag_matches_country",.internationalFlag,.warning,"USA",300,90⟩,
    ⟨"card_last_four_required_for_card_transactions",.cardLastFourRequired,.warning,"USA",300,90⟩,
    ⟨"ip_required_for_online",.ipRequiredOnline,.warning,"USA",300,90⟩,
    ⟨"geo_coordinates_paired",.geoCoordinatesPaired,.error,"USA",300,90⟩,
    ⟨"pos_requires_merchant",.posRequiresMerchant,.warning,"USA",300,90⟩,
    ⟨"atm_no_merchant_category",.atmWithdrawal,.warning,"USA",300,90⟩,
    ⟨"refund_amount_limit",.refundLimit,.error,"USA",300,90⟩,
    ⟨"future_timestamp_check",.futureTimestamp,.error,"USA",300,90⟩,
    ⟨"stale_timestamp_check",.staleTimestamp,.error,"USA",300,90⟩]
  customRules := [
    ⟨"suspicious_round_amount",.roundAmount,1000,.warning⟩,
    ⟨"high_value_transaction",.highValue,50000,.warning⟩]

end SchemaValidator
end RiskPulse
