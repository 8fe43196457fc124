import Mathlib.Data.List.Basic
import RiskPulse.Library.Avro
import RiskPulse.Record

namespace RiskPulse

structure AvroField where
  name : String
  type : Avro.Schema
  default : Option Value

def transactionEvent : List AvroField :=
  [⟨"event_id",.string,none⟩,
    ⟨"event_timestamp",.long,none⟩,
    ⟨"event_version",.string,some (.str "1.0.0")⟩,
    ⟨"external_transaction_id",.string,none⟩,
    ⟨"account_id",.string,none⟩,
    ⟨"customer_id",.string,none⟩,
    ⟨"merchant_id",.string,none⟩,
    ⟨"merchant_name",.string,none⟩,
    ⟨"merchant_category_code",.string,none⟩,
    ⟨"transaction_amount",.decimal 12 2,none⟩,
    ⟨"transaction_currency",.string,some (.str "USD")⟩,
    ⟨"transaction_type",.enum ["purchase","withdrawal","transfer","refund"],none⟩,
    ⟨"channel",.enum ["online","pos","atm","mobile"],none⟩,
    ⟨"card_type",.enum ["credit","debit","prepaid"],none⟩,
    ⟨"card_last_four",.string,none⟩,
    ⟨"ip_address",.union [.null,.string],some .none⟩,
    ⟨"device_id",.union [.null,.string],some .none⟩,
    ⟨"device_type",.union [.null,.string],some .none⟩,
    ⟨"geo_latitude",.union [.null,.double],some .none⟩,
    ⟨"geo_longitude",.union [.null,.double],some .none⟩,
    ⟨"geo_country",.union [.null,.string],some .none⟩,
    ⟨"geo_city",.union [.null,.string],some .none⟩,
    ⟨"is_international",.boolean,some (.bool false)⟩,
    ⟨"transaction_timestamp",.string,none⟩,
    ⟨"metadata",.union [.null,.map .string],some .none⟩]

-- The errors of the registry, and the exceptions of Python's own that the decimal
-- conversion lets through.
inductive RegistryError where
  | schemaNotFound (schemaName : String)
  | invalidEnum (value : Value) (symbols : List String)
  | failedValidation (schemaName : String)
  | serializationFailed (schemaName : String)
  | conversion

-- What the registry uses from outside: the writer of the avro library, None when it
-- raises, and Python's int of a text or of bytes.
structure SchemaRegistry where
  write : List AvroField → Record → Option (List UInt8)
  int : Value → Option Int

namespace Decimal

-- The default context: 28 digits, rounded half to even, and a largest exponent.
def precision : Nat := 28

def maxExponent : Int := 999999

def digitCount (n : Nat) : Nat := (Nat.digits 10 n).length

def roundHalfEven (coefficient : Int) (dropped : Nat) : Int :=
  let unit := 10 ^ dropped
  let quotient := coefficient.natAbs / unit
  let rest := coefficient.natAbs % unit
  let rounded := if unit < 2 * rest ∨ (2 * rest = unit ∧ quotient % 2 = 1) then quotient + 1 else quotient
  if coefficient < 0 then -rounded else rounded

-- The product of a decimal and an integer; none when it overflows.
def times (coefficient exponent factor : Int) : Option (Int × Int) :=
  let product := coefficient * factor
  let dropped := digitCount product.natAbs - precision
  let rounded := if dropped = 0 then product else roundHalfEven product dropped
  if product ≠ 0 ∧ maxExponent < exponent + dropped + digitCount rounded.natAbs - 1 then none
  else some (rounded,exponent + dropped)

-- int() of a decimal truncates.
def truncate (coefficient exponent : Int) : Int :=
  if 0 ≤ exponent then coefficient * 10 ^ exponent.toNat else coefficient.tdiv (10 ^ (-exponent).toNat)

end Decimal

def bitLength (n : Int) : Nat := if n = 0 then 0 else Nat.log2 n.natAbs + 1

-- Big-endian two's complement.
def toBytes (n : Int) (length : Nat) : List UInt8 :=
  (List.range length).map fun i => UInt8.ofNat (n.fdiv (256 ^ (length - 1 - i)) % 256).toNat

namespace SchemaRegistry

-- int(value * 10**scale). A float goes through its shortest decimal text, whose
-- digits are under twenty, so that product is exact unless it overflows. The product of
-- a text or of bytes is a repetition.
def unscaled (registry : SchemaRegistry) (scale : Nat) : Value → Option Int
  | .int i =>
    if 4300 < Decimal.digitCount i.natAbs then none
    else (Decimal.times i 0 (10 ^ scale)).map fun (coefficient,exponent) => Decimal.truncate coefficient exponent
  | .float (.finite q) =>
    let product := (q.num * 10 ^ scale).tdiv q.den
    if Decimal.maxExponent + 1 < Decimal.digitCount product.natAbs then none else some product
  | .decimal coefficient exponent =>
    (Decimal.times coefficient exponent (10 ^ scale)).map fun (product,power) => Decimal.truncate product power
  | .str text => registry.int (.str (String.join (List.replicate (10 ^ scale) text)))
  | .bytes content => registry.int (.bytes (List.replicate (10 ^ scale) content).flatten)
  | _ => none

def toDecimalBytes (registry : SchemaRegistry) (value : Value) (_precision scale : Nat) : Except RegistryError (List UInt8) :=
  match registry.unscaled scale value with
  | none => .error .conversion
  | some n => .ok (if n = 0 then [0] else toBytes n ((bitLength n + 8) / 8))

-- Of a union the first branch that is not null is taken.
mutual
def coerceField (registry : SchemaRegistry) : Avro.Schema → Value → Except RegistryError Value
  | .union branches,value => if value = .none then .ok .none else coerceBranch registry branches value
  | .decimal precision scale,value => (registry.toDecimalBytes value precision scale).map .bytes
  | .enum symbols,value =>
    match value with
    | .str text => if text ∈ symbols then .ok value else .error (.invalidEnum value symbols)
    | _ => .error (.invalidEnum value symbols)
  | _,value => .ok value
def coerceBranch (registry : SchemaRegistry) : List Avro.Schema → Value → Except RegistryError Value
  | [],value => .ok value
  | .null :: rest,value => coerceBranch registry rest value
  | first :: _,value => coerceField registry first value
end

-- A field the record does not have takes its default or stays out.
def coerceTypes (registry : SchemaRegistry) (record : Record) (fields : List AvroField) : Except RegistryError Record :=
  fields.foldlM (fun coerced field =>
    match record.get? field.name with
    | none => .ok (match field.default with | some value => coerced.set field.name value | none => coerced)
    | some value => (registry.coerceField field.type value).map (coerced.set field.name)) .empty

def getSchema (schemaName : String) : Except RegistryError (List AvroField) :=
  if schemaName = "transaction_event" then .ok transactionEvent else .error (.schemaNotFound schemaName)

def serialize (registry : SchemaRegistry) (schemaName : String) (record : Record) : Except RegistryError (List UInt8) :=
  (getSchema schemaName).bind fun schema =>
    match registry.write schema record with
    | some content => .ok content
    | none => .error (.serializationFailed schemaName)

def validate (registry : SchemaRegistry) (schemaName : String) (record : Record) : Except RegistryError Record :=
  (getSchema schemaName).bind fun schema =>
    (registry.coerceTypes record schema).bind fun coerced =>
      match registry.serialize schemaName coerced with
      | .ok _ => .ok coerced
      | .error _ => .error (.failedValidation schemaName)

end SchemaRegistry

mutual
def toDatum : Value → Avro.Datum PyFloat
  | .none => .null
  | .bool b => .boolean b
  | .int i => .long i
  | .float f => .double f
  | .str text => .string text
  | .bytes content => .bytes content
  | .dict entries => .map (toDatums entries)
  | .decimal _ _ | .datetime _ _ | .list _ => .other
def toDatums : List (String × Value) → List (String × Avro.Datum PyFloat)
  | [] => []
  | (key,first) :: rest => (key,toDatum first) :: toDatums rest
end

-- The writer of the avro library encodes a record as the schema says, each field
-- from the value the record has for it. The eight bytes of a double are open.
def PerSchema (registry : SchemaRegistry) (double : Avro.Datum PyFloat → Option (List UInt8)) : Prop :=
  ∀ fields record content, registry.write fields record = some content →
    Avro.encodeRecord double (fun name => toDatum (record.value name)) (fields.map fun field => (field.name,field.type)) =
      some content

end RiskPulse
