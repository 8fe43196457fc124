import RiskPulse.DataCleaner
import RiskPulse.Library.Calendar
import RiskPulse.Library.Decimal
import RiskPulse.Library.Regex

namespace RiskPulse
open Regex Calendar

-- What the dates take of the language and the machine: how strftime writes a year, with four
-- digits from 1000 on, the value of decimal digits beyond ASCII, other characters that count
-- as digits, and the ISO dates that number weeks.
structure DateHost where
  year : Nat → List Char
  digit : Char → Option Nat
  digitLike : Char → Bool
  isoWeek : List Char → Option (Int × Option Int)
  fourDigits : ∀ y, 1000 ≤ y → y ≤ 9999 → year y = Decimal.fixed 4 y

namespace DataCleaner

def dateFormats : List String :=
  ["%Y-%m-%dT%H:%M:%SZ","%Y-%m-%dT%H:%M:%S.%fZ","%Y-%m-%dT%H:%M:%S%z","%Y-%m-%dT%H:%M:%S.%f%z","%Y-%m-%dT%H:%M:%S",
    "%Y-%m-%d %H:%M:%S","%Y-%m-%d %H:%M:%S.%f","%Y-%m-%d","%m/%d/%Y %H:%M:%S","%m/%d/%Y","%d/%m/%Y %H:%M:%S","%d/%m/%Y",
    "%d-%m-%Y","%Y%m%d%H%M%S","%Y%m%d"]

inductive Directive where
  | field (letter : Char)
  | literal (c : Char)
  deriving DecidableEq

def directives : List Char → List Directive
  | '%' :: letter :: rest => .field letter :: directives rest
  | c :: rest => .literal c :: directives rest
  | [] => []

variable (h : DateHost)

section Strftime

-- The sign, the hours and minutes, and the seconds where there are any.
def offsetText : Option Int → List Char
  | none => []
  | some offset =>
    (if offset < 0 then '-' else '+') :: (Decimal.fixed 2 (offset.natAbs / 3600) ++ Decimal.fixed 2 (offset.natAbs / 60 % 60) ++
      if offset.natAbs % 60 = 0 then [] else Decimal.fixed 2 (offset.natAbs % 60))

def writeDirective (moment : Moment) (offset : Option Int) : Directive → List Char
  | .field 'Y' => h.year moment.date.year
  | .field 'm' => Decimal.fixed 2 moment.date.month
  | .field 'd' => Decimal.fixed 2 moment.date.day
  | .field 'H' => Decimal.fixed 2 moment.hour
  | .field 'M' => Decimal.fixed 2 moment.minute
  | .field 'S' => Decimal.fixed 2 moment.second
  | .field 'f' => Decimal.fixed 6 moment.microsecond
  | .field 'z' => offsetText offset
  | .field letter => ['%',letter]
  | .literal c => [c]

def strftime (format : String) (moment : Moment) (offset : Option Int) : List Char :=
  (directives format.toList).flatMap (writeDirective h moment offset)

end Strftime

section Digits

-- The value of a decimal digit.
def digitValue (c : Char) : Option Nat :=
  if c.toNat < 128 then (if c.isDigit then some (c.toNat - 48) else none) else h.digit c

-- int() of decimal digits
def readInt (text : List Char) : Nat := text.foldl (fun n c => 10 * n + (digitValue h c).getD 0) 0

def anyDigit : Regex := .one fun c => (digitValue h c).isSome

def between (first last : Char) : Regex := .one fun c => decide (first ≤ c ∧ c ≤ last)

end Digits

section Strptime

-- The expressions of _strptime, with the preferred way first.
def directiveRe : Directive → Regex
  | .field 'Y' => .seq (anyDigit h) (.seq (anyDigit h) (.seq (anyDigit h) (anyDigit h)))
  | .field 'm' => .alt (.seq (exactly '1') (between '0' '2')) (.alt (.seq (exactly '0') (between '1' '9')) (between '1' '9'))
  | .field 'd' =>
    .alt (.seq (exactly '3') (between '0' '1')) <| .alt (.seq (between '1' '2') (anyDigit h)) <|
      .alt (.seq (exactly '0') (between '1' '9')) <| .alt (between '1' '9') (.seq (exactly ' ') (between '1' '9'))
  | .field 'H' => .alt (.seq (exactly '2') (between '0' '3')) (.alt (.seq (between '0' '1') (anyDigit h)) (anyDigit h))
  | .field 'M' => .alt (.seq (between '0' '5') (anyDigit h)) (anyDigit h)
  | .field 'S' => .alt (.seq (exactly '6') (between '0' '1')) (.alt (.seq (between '0' '5') (anyDigit h)) (anyDigit h))
  | .field 'f' => .repeated false 1 (some 6) (between '0' '9')
  | .field 'z' =>
    .alt (.seq (oneOf ['+','-']) <| .seq (anyDigit h) <| .seq (anyDigit h) <| .seq (maybe (exactly ':')) <|
        .seq (between '0' '5') <| .seq (anyDigit h) <| maybe <| .seq (maybe (exactly ':')) <| .seq (between '0' '5') <|
          .seq (anyDigit h) <| maybe (.seq (exactly '.') (.repeated false 1 (some 6) (anyDigit h))))
      (exactly 'Z')
  | .field letter => anyCase ['%',letter]
  | .literal c => if Text.isSpace c then someOf (.one Text.isSpace) else .one fun d => decide (foldCase d = foldCase c)

-- The ways to match a format, as the text that each directive has matched and the text left.
def formatWays : List Directive → List Char → List (List (Directive × List Char) × List Char)
  | [],text => [([],text)]
  | directive :: rest,text =>
    ((directiveRe h directive).ways (fun _ => false) [] text).flatMap fun way =>
      (formatWays rest way.2).map fun more => ((directive,way.1) :: more.1,more.2)

def group (groups : List (Directive × List Char)) (letter : Char) : Option (List Char) :=
  groups.findSome? fun found => match found.1 with
    | .field other => if other = letter then some found.2 else none
    | .literal _ => none

-- int(found_dict[letter]) where the format has the directive
def groupInt (groups : List (Directive × List Char)) (letter : Char) (fallback : Nat) : Nat :=
  ((group groups letter).map (readInt h)).getD fallback

-- Fewer than six digits of a fraction are its first.
def sixDigits (text : List Char) : Nat := readInt h (text ++ List.replicate (6 - text.length) '0')

-- A UTC offset is less than a day.
def properOffset (microseconds : Int) : Option Int := if |microseconds| < 86400000000 then some microseconds else none

-- A ValueError where colons are used in one place and not in the other.
def zoneOffset (z : List Char) : Option Int :=
  if z = ['Z'] then some 0
  else do
    let z ←
      if z[3]? = some ':' then
        let plain := z.take 3 ++ z.drop 4
        if 5 < plain.length then if plain[5]? = some ':' then some (plain.take 5 ++ plain.drop 6) else none
        else some plain
      else some z
    let digits (first last : Nat) : Int := readInt h ((z.take last).drop first)
    let size := (digits 1 3 * 3600 + digits 3 5 * 60 + digits 5 7) * 1000000 + sixDigits h (z.drop 8)
    properOffset (if z.head? = some '-' then -size else size)

-- datetime(...), which raises a ValueError where there is no such moment.
def datetimeOf (moment : Moment) : Option Int := if moment.Valid then some moment.toMicroseconds else none

-- datetime.strptime; none where it raises a ValueError.
def strptime (value : List Char) (format : String) : Option (Int × Option Int) :=
  match (formatWays h (directives format.toList) value).head? with
  | some (groups,[]) => do
    let wall ← datetimeOf {
      date := ⟨groupInt h groups 'Y' 1900,groupInt h groups 'm' 1,groupInt h groups 'd' 1⟩
      hour := groupInt h groups 'H' 0
      minute := groupInt h groups 'M' 0
      second := groupInt h groups 'S' 0
      microsecond := ((group groups 'f').map (sixDigits h)).getD 0 }
    match group groups 'z' with
    | none => return (wall,none)
    | some z =>
      let offset ← zoneOffset h z
      return (wall,some offset)
  | _ => none

end Strptime

section Fromisoformat

-- A number of as many ASCII digits.
def isoDigits (size : Nat) (text : List Char) : Option (Nat × List Char) :=
  let digits := text.take size
  if digits.length = size ∧ digits.all Char.isDigit = true then some (Decimal.value digits,text.drop size) else none

-- Digits after the sixth are dropped.
def isoFraction : List Char → Option Nat
  | [] => some 0
  | mark :: digits =>
    if (mark = '.' ∨ mark = ',') ∧ digits ≠ [] ∧ digits.all Char.isDigit = true then
      some (Decimal.value (digits.take 6) * 10 ^ (6 - digits.length))
    else none

-- HH[:MM[:SS[.fff]]], or the same without the colons
def isoClock (text : List Char) : Option (Nat × Nat × Nat × Nat) := do
  let (hour,rest) ← isoDigits 2 text
  let next (rest : List Char) : Option (List Char) :=
    if (text.drop 2).head? = some ':' then (if rest.head? = some ':' then some rest.tail else none) else some rest
  if rest = [] then return (hour,0,0,0)
  let (minute,rest) ← isoDigits 2 (← next rest)
  if rest = [] then return (hour,minute,0,0)
  let (second,rest) ← isoDigits 2 (← next rest)
  let microsecond ← isoFraction rest
  return (hour,minute,second,microsecond)

-- The time and the offset begin at the first sign or Z.
def beginsZone (c : Char) : Bool := decide (c = '+' ∨ c = '-' ∨ c = 'Z')

def isoZone : List Char → Option (Option Int)
  | [] => some none
  | ['Z'] => some (some 0)
  | 'Z' :: _ => none
  | sign :: text => do
    let (hours,minutes,seconds,microseconds) ← isoClock text
    let size : Int := ((hours * 60 + minutes) * 60 + seconds) * 1000000 + microseconds
    let offset ← properOffset (if sign = '-' then -size else size)
    return some offset

-- datetime.fromisoformat on a text with a hyphen after the year; none for a ValueError.
def fromisoformat (value : List Char) : Option (Int × Option Int) :=
  if value[5]? = some 'W' then h.isoWeek value
  else do
    let (year,rest) ← isoDigits 4 value
    let (month,rest) ← if rest.head? = some '-' then isoDigits 2 rest.tail else none
    let (day,rest) ← if rest.head? = some '-' then isoDigits 2 rest.tail else none
    let time := rest.tail
    let (hour,minute,second,microsecond) ← if time = [] then some (0,0,0,0) else isoClock (time.takeWhile fun c => !beginsZone c)
    let offset ← isoZone (time.dropWhile fun c => !beginsZone c)
    let wall ← datetimeOf ⟨⟨year,month,day⟩,hour,minute,second,microsecond⟩
    return (wall,offset)

end Fromisoformat

-- value.isdigit()
def allDigits (value : List Char) : Bool :=
  !value.isEmpty && value.all fun c => (digitValue h c).isSome || (decide (128 ≤ c.toNat) && h.digitLike c)

-- datetime.fromtimestamp of seconds, or of milliseconds above ten billion; none out of range.
def epochTime (n : Nat) : Option Int :=
  let microseconds : Int := if 10000000000 < n then n * 1000 else n * 1000000
  if Representable microseconds then some microseconds else none

-- The wall clock and the offset of what the text is read as; no offset counts as UTC.
def tryParseDate (text : List Char) : Except String (Option (Int × Int)) :=
  let value := Text.strip Text.isSpace text
  let aware (parsed : Int × Option Int) : Int × Int := (parsed.1,parsed.2.getD 0)
  if allDigits h value then
    if value.all fun c => (digitValue h c).isSome then .ok ((epochTime (readInt h value)).map fun wall => (wall,0))
    else .error "ValueError: could not convert string to float"
  else
    match if value[4]? = some '-' then fromisoformat h value else none with
    | some parsed => .ok (some (aware parsed))
    | none => .ok ((dateFormats.findSome? (strptime h value)).map aware)

def isoFormat : String := "%Y-%m-%dT%H:%M:%SZ"

def parseDatesStep : CleaningStep := fun record =>
  let key := "transaction_timestamp"
  match record.value key with
  | .datetime wall _ =>
    .ok (record.set key (.str (String.ofList (strftime h isoFormat (ofMicroseconds wall) none))),[s!"datetime_to_iso:{key}"])
  | .str value =>
    if value = "" then .ok (record,[])
    else do
      match ← tryParseDate h value.toList with
      | none => return (record,[])
      | some (wall,offset) =>
        if Representable (wall - offset) then
          let text := String.ofList (strftime h isoFormat (ofMicroseconds (wall - offset)) none)
          return (record.set key (.str text),if text = value then [] else [s!"date_parsed:{key}"])
        else .error "OverflowError: date value out of range"
  | _ => .ok (record,[])

end DataCleaner
end RiskPulse
