import RiskPulse.Aggregator
import RiskPulse.Enrichers

namespace RiskPulse

-- What the enricher takes of Python: float() and upper(), the distance of two points (of
-- which the first may be any values), dates, and the division of a float.
structure GeoHost where
  float : Value → Except String PyFloat
  upper : String → String
  haversineDistance : Value → Value → PyFloat → PyFloat → Except String PyFloat
  fromisoformat : String → Option (Int × Option Int)
  divide : PyFloat → Rat → PyFloat

-- What an enrichment can raise: the difference of a naive and an aware datetime, and
-- anything else.
inductive GeoError where
  | mixed
  | raised (message : String)
  deriving DecidableEq

def GeoError.text : GeoError → String
  | .mixed => "can't subtract offset-naive and offset-aware datetimes"
  | .raised message => message

structure GeoEnricher where
  host : GeoHost
  provider : Option (Value → Except String (Option GeoLocation))
  impossibleTravelSpeedMph : PyFloat
  riskCountries : OrderedDict String Record

namespace GeoEnricher

-- The lookup of the provider that reads the transaction's own fields.
def lookupFields (h : GeoHost) (transaction : Record) : Except String (Option GeoLocation) :=
  let lat := transaction.value "geo_latitude"
  let lng := transaction.value "geo_longitude"
  let country := transaction.getD "geo_country" (.str "")
  let city := transaction.getD "geo_city" (.str "")
  if lat = .none ∨ lng = .none then .ok none
  else do
    let latitude ← h.float lat
    let longitude ← h.float lng
    pure (some ⟨country,country,city,latitude,longitude,false,false,false⟩)

variable (g : GeoEnricher)

-- Where no provider is given, that one is.
def locate (transaction : Record) : Except String (Option GeoLocation) :=
  match g.provider with
  | none => lookupFields g.host transaction
  | some lookup => lookup (transaction.getD "ip_address" (.str ""))

def scoreCountryRisk (countryCode : Value) : Except String PyFloat :=
  if countryCode.truthy then
    match countryCode with
    | .str code =>
      match g.riskCountries.get? (g.host.upper code) with
      | none => .ok (.finite (1 / 10))
      | some countryInfo => g.host.float (countryInfo.getD "risk_score" (.float (.finite (1 / 10))))
    | .bytes _ => .ok (.finite (1 / 10))
    | _ => .error "object has no attribute 'upper'"
  else .ok (.finite (1 / 2))

def distanceFromHome (profile : Option Record) (location : GeoLocation) : Except String (Option PyFloat) :=
  let profile := profile.getD .empty
  let homeLat := profile.value "home_latitude"
  let homeLng := profile.value "home_longitude"
  if homeLat = .none ∨ homeLng = .none then .ok none
  else (g.host.haversineDistance homeLat homeLng location.latitude location.longitude).map some

-- The datetime a value stands for, if it is a text or a datetime.
def readTime (h : GeoHost) (value : Value) : Except GeoError (Option DateTime) :=
  match value with
  | .str text =>
    match h.fromisoformat (replaceZ text) with
    | some parsed => .ok (some ⟨parsed.1,parsed.2⟩)
    | none => .error (.raised ("Invalid isoformat string: '" ++ replaceZ text ++ "'"))
  | .datetime wall offset => .ok (some ⟨wall,offset⟩)
  | _ => .ok none

-- Use the current transaction's timestamp if available, and the clock otherwise.
def currentTime (h : GeoHost) (now : Int) (currentTs : Value) : Except GeoError DateTime :=
  if currentTs.truthy then (readTime h currentTs).map fun current => current.getD ⟨now,some 0⟩ else .ok ⟨now,some 0⟩

-- abs((current_time - last_time).total_seconds())
def secondsApart (current last : DateTime) : Except GeoError Rat :=
  match current.offset,last.offset with
  | none,none => .ok |current.aware.totalSeconds last.aware|
  | some _,some _ => .ok |current.aware.totalSeconds last.aware|
  | _,_ => .error .mixed

def distanceTravelled (location : GeoLocation) (lastLat lastLng : Value) : Except String PyFloat := do
  let lat ← g.host.float lastLat
  let lng ← g.host.float lastLng
  g.host.haversineDistance (.float lat) (.float lng) location.latitude location.longitude

def calculateTravelSpeed (now : Int) (location : GeoLocation) (lastTransaction : Record) : Except GeoError (Option PyFloat) :=
  let lastLat := lastTransaction.value "geo_latitude"
  let lastLng := lastTransaction.value "geo_longitude"
  let lastTs := lastTransaction.value "transaction_timestamp"
  let currentTs := lastTransaction.value "_current_timestamp"
  if lastLat = .none ∨ lastLng = .none ∨ lastTs = .none then .ok none
  else do
    let distance ← (g.distanceTravelled location lastLat lastLng).mapError .raised
    match ← readTime g.host lastTs with
    | none => pure none
    | some lastTime => do
      let current ← currentTime g.host now currentTs
      let seconds ← secondsApart current lastTime
      if seconds / 3600 < 1 / 1000 then pure none else pure (some (g.host.divide distance (seconds / 3600)))

def travelSpeed (now : Int) (location : GeoLocation) (lastTransaction : Option Record) : Except GeoError (Option PyFloat) :=
  match lastTransaction with
  | none => .ok none
  | some last => if last.entries.isEmpty then .ok none else g.calculateTravelSpeed now location last

def blank : GeoEnrichmentResult := ⟨none,none,.finite 0,false,none,false,none⟩

-- The fields that are set before something is raised, and what is raised.
def enriched (now : Int) (transaction : Record) (profile lastTransaction : Option Record) : GeoEnrichmentResult × Option GeoError :=
  match g.locate transaction with
  | .error message => (blank,some (.raised message))
  | .ok none => (blank,none)
  | .ok (some location) =>
    let located := {blank with location := some location}
    match g.scoreCountryRisk location.countryCode with
    | .error message => (located,some (.raised message))
    | .ok score =>
      let scored := {located with countryRiskScore := score, isHighRiskCountry := score.ge (.finite (7 / 10))}
      match g.distanceFromHome profile location with
      | .error message => (scored,some (.raised message))
      | .ok distance =>
        let placed := {scored with distanceFromHomeMiles := distance}
        match g.travelSpeed now location lastTransaction with
        | .error e => (placed,some e)
        | .ok none => (placed,none)
        | .ok (some speed) =>
          ({placed with travelSpeedMph := some speed, isImpossibleTravel := speed.greater g.impossibleTravelSpeedMph},none)

def enrich (now : Int) (transaction : Record) (profile lastTransaction : Option Record) : GeoEnrichmentResult :=
  let (result,raised) := g.enriched now transaction profile lastTransaction
  {result with error := raised.map GeoError.text}

end GeoEnricher
end RiskPulse
