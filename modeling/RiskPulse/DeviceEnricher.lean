import Mathlib.Data.Finset.Card
import RiskPulse.Aggregator
import RiskPulse.Enrichers

namespace RiskPulse

-- What the enricher takes of Python: str(), lower(), the hexdigest of a text, x in y, the
-- reading of a date, and the arithmetic of floats.
structure DeviceHost where
  str : Value → String
  lower : String → String
  sha256 : String → String
  contains : Value → Value → Except String Bool
  fromisoformat : String → Option (Int × Option Int)
  float : FloatOperations

-- Devices and customers are the keys they are in a dict.
structure DeviceHistory where
  firstSeen : DateTime
  lastSeen : DateTime
  customerIds : Finset Value
  transactionCount : Nat
  trustScore : PyFloat

structure DeviceActivity where
  deviceId : Value
  customerId : Value
  timestamp : DateTime

structure InMemoryDeviceStore where
  devices : OrderedDict Value DeviceHistory
  customerDevices : OrderedDict Value (Finset Value)

namespace InMemoryDeviceStore

def empty : InMemoryDeviceStore := ⟨.empty,.empty⟩

def getDeviceHistory (s : InMemoryDeviceStore) (deviceId : Value) : Option DeviceHistory := s.devices.get? deviceId

def getCustomerDevices (s : InMemoryDeviceStore) (customerId : Value) : Finset Value := s.customerDevices.getD customerId ∅

-- Trust increases with usage, and is capped at one.
def raised (f : FloatOperations) (trust : PyFloat) (count : Nat) : PyFloat :=
  PyFloat.min (.finite 1) (f.plus trust (f.times (.finite (1 / 100)) (.finite count)))

def recorded (f : FloatOperations) (a : DeviceActivity) : Option DeviceHistory → DeviceHistory
  | none => ⟨a.timestamp,a.timestamp,{a.customerId},1,.finite (1 / 2)⟩
  | some record =>
    {record with
      lastSeen := a.timestamp
      customerIds := insert a.customerId record.customerIds
      transactionCount := record.transactionCount + 1
      trustScore := raised f record.trustScore (record.transactionCount + 1)}

def recordDeviceActivity (f : FloatOperations) (a : DeviceActivity) (s : InMemoryDeviceStore) : InMemoryDeviceStore where
  devices := s.devices.set a.deviceId (recorded f a (s.getDeviceHistory a.deviceId))
  customerDevices := s.customerDevices.set a.customerId (insert a.deviceId (s.getCustomerDevices a.customerId))

end InMemoryDeviceStore

structure DeviceEnricher where
  host : DeviceHost
  newDeviceThresholdDays : PyFloat
  multiAccountThreshold : Int

-- A call of enrich, with what the clock says when the age is taken and when a timestamp is
-- missing, in microseconds.
structure DeviceCall where
  transaction : Record
  customerProfile : Option Record
  now : Int
  stamp : Int

namespace DeviceEnricher
variable (e : DeviceEnricher)

def validTypes : List String := ["mobile","desktop","tablet","pos","atm"]

def deviceType (value : Value) : Except String String :=
  match value with
  | .str text => .ok (if e.host.lower text ∈ validTypes then e.host.lower text else "unknown")
  | .bytes _ => .ok "unknown"
  | _ => .error "object has no attribute 'lower'"

def parseDeviceInfo (transaction : Record) : Except String DeviceInfo :=
  let deviceId := transaction.getD "device_id" (.str "unknown")
  (e.deviceType (transaction.getD "device_type" (.str "unknown"))).map fun kind =>
    let parts := [deviceId,.str kind,transaction.getD "user_agent" (.str ""),transaction.getD "screen_resolution" (.str ""),
      transaction.getD "timezone_offset" (.str "")]
    { deviceId := deviceId
      deviceType := kind
      fingerprintHash := String.ofList ((e.host.sha256 ("|".intercalate (parts.map e.host.str))).toList.take 16)
      osFamily := transaction.getD "os_family" (.str "unknown")
      browserFamily := transaction.getD "browser_family" (.str "unknown")
      isEmulator := transaction.getD "is_emulator" (.bool false)
      isRooted := transaction.getD "is_rooted" (.bool false) }

-- (now - first_seen).total_seconds() / 86400.0
def ageDays (now : Int) (firstSeen : DateTime) : Except String PyFloat :=
  match firstSeen.offset with
  | none => .error "can't subtract offset-naive and offset-aware datetimes"
  | some _ =>
    let seconds := AwareTime.totalSeconds (DateTime.aware ⟨now,some 0⟩) firstSeen.aware
    .ok (e.host.float.divide (.finite seconds) (.finite 86400))

-- What the history of the device says, and what it raises on the way.
def checkHistory (customer : Option Value) (now : Int) (history : Option DeviceHistory) (result : DeviceEnrichmentResult) :
    DeviceEnrichmentResult × Option String :=
  match history with
  | none =>
    ({result with isKnownDevice := false, isNewDevice := true, deviceAgeDays := some (.finite 0), deviceTrustScore := .finite (3 / 10)},none)
  | some history =>
    match customer with
    | none => (result,some "unhashable type")
    | some customerId =>
      let known := {result with
        isKnownDevice := decide (customerId ∈ history.customerIds)
        transactionsOnDevice := history.transactionCount
        deviceTrustScore := history.trustScore}
      match e.ageDays now history.firstSeen with
      | .error message => (known,some message)
      | .ok age =>
        ({known with
          deviceAgeDays := some age
          isNewDevice := e.newDeviceThresholdDays.greater age
          accountsOnDevice := history.customerIds.card
          isMultiAccountDevice := decide (e.multiAccountThreshold ≤ history.customerIds.card)},none)

-- Also check against the customer's known devices list.
def checkKnownDevices (deviceId : Value) (profile : Option Record) (result : DeviceEnrichmentResult) :
    Except String DeviceEnrichmentResult :=
  let knownDevices := (profile.getD .empty).getD "known_devices" (.list [])
  if knownDevices.truthy then
    (e.host.contains deviceId knownDevices).map fun inside => if inside then result else {result with isKnownDevice := false}
  else .ok result

def addWhen (f : FloatOperations) (risky : Bool) (weight : Rat) (score : PyFloat) : PyFloat :=
  if risky then f.plus score (.finite weight) else score

def trustPenalty (f : FloatOperations) (trust : PyFloat) : PyFloat :=
  PyFloat.max (.finite 0) (f.times (.finite (1 / 5)) (f.minus (.finite 1) trust))

def computeRiskScore (f : FloatOperations) (result : DeviceEnrichmentResult) : PyFloat :=
  let score := addWhen f (!result.isKnownDevice) (3 / 10) (.finite 0)
  let score := addWhen f (result.isKnownDevice && result.isNewDevice) (3 / 20) score
  let score := addWhen f result.isMultiAccountDevice (3 / 10) score
  let score := addWhen f (result.deviceInfo.any fun info => info.isEmulator.truthy) (1 / 5) score
  let score := addWhen f (result.deviceInfo.any fun info => info.isRooted.truthy) (1 / 10) score
  PyFloat.min (.finite 1) (f.plus score (trustPenalty f result.deviceTrustScore))

def parseTimestamp (stamp : Int) (ts : Value) : Except String DateTime :=
  match ts with
  | .datetime wall offset => .ok ⟨wall,some (offset.getD 0)⟩
  | .str text =>
    match e.host.fromisoformat (replaceZ text) with
    | some parsed => .ok ⟨parsed.1,parsed.2⟩
    | none => .error ("Invalid isoformat string: '" ++ replaceZ text ++ "'")
  | _ => .ok ⟨stamp,some 0⟩

def blank : DeviceEnrichmentResult := ⟨none,false,none,true,.finite 0,0,false,0,.finite 0,none⟩

-- The result, and the activity to record unless something is raised before.
def examined (call : DeviceCall) (s : InMemoryDeviceStore) : DeviceEnrichmentResult × Except String DeviceActivity :=
  let deviceId := call.transaction.getD "device_id" (.str "")
  match e.parseDeviceInfo call.transaction with
  | .error message => (blank,.error message)
  | .ok info =>
    let parsed := {blank with deviceInfo := some info}
    match deviceId.dictKey with
    | none => (parsed,.error "unhashable type")
    | some device =>
      let customer := (call.transaction.getD "customer_id" (.str "")).dictKey
      match e.checkHistory customer call.now (s.getDeviceHistory device) parsed with
      | (looked,some message) => (looked,.error message)
      | (looked,none) =>
        match e.checkKnownDevices deviceId call.customerProfile looked with
        | .error message => (looked,.error message)
        | .ok checked =>
          let scored := {checked with deviceRiskScore := computeRiskScore e.host.float checked}
          match e.parseTimestamp call.stamp (call.transaction.value "transaction_timestamp"),customer with
          | .error message,_ => (scored,.error message)
          | .ok _,none => (scored,.error "unhashable type")
          | .ok timestamp,some customerId => (scored,.ok ⟨device,customerId,timestamp⟩)

-- A missing device is risky, and nothing of it is recorded.
def enrich (call : DeviceCall) (s : InMemoryDeviceStore) : DeviceEnrichmentResult × InMemoryDeviceStore :=
  if (call.transaction.getD "device_id" (.str "")).truthy then
    match e.examined call s with
    | (result,.error message) => ({result with error := some message},s)
    | (result,.ok activity) => (result,s.recordDeviceActivity e.host.float activity)
  else ({blank with deviceRiskScore := .finite (4 / 5)},s)

end DeviceEnricher
end RiskPulse
