import Mathlib.Algebra.Order.Field.Rat
import RiskPulse.GeoEnricher
import RiskPulse.Library.Fallible

namespace RiskPulse.GeoEnricher
variable (g : GeoEnricher)

-- One enrichment of a transaction with a last transaction, and the clock it runs at.
structure GeoCall where
  now : Int
  transaction : Record
  profile : Option Record
  last : Record

def GeoCall.enrich (call : GeoCall) : GeoEnrichmentResult := g.enrich call.now call.transaction call.profile (some call.last)

def GeoCall.enriched (call : GeoCall) : GeoEnrichmentResult × Option GeoError :=
  g.enriched call.now call.transaction call.profile (some call.last)

-- The transaction has been located, and the last one has coordinates at this distance and
-- this timestamp.
structure Travelled (location : GeoLocation) (distance : PyFloat) (lastTime : DateTime) (call : GeoCall) : Prop where
  located : g.locate call.transaction = .ok (some location)
  latitude : call.last.value "geo_latitude" ≠ .none
  longitude : call.last.value "geo_longitude" ≠ .none
  apart : g.distanceTravelled location (call.last.value "geo_latitude") (call.last.value "geo_longitude") = .ok distance
  dated : readTime g.host (call.last.value "transaction_timestamp") = .ok (some lastTime)

-- Two calls with the same locations and the same timestamps of both transactions.
structure SameTravel (location : GeoLocation) (distance : PyFloat) (lastTime : DateTime) (first second : GeoCall) : Prop where
  one : Travelled g location distance lastTime first
  two : Travelled g location distance lastTime second
  timestamps : first.transaction.value "transaction_timestamp" = second.transaction.value "transaction_timestamp"

-- The enrichment gets as far as the travel.
def Reaches (location : GeoLocation) (call : GeoCall) : Prop :=
  (∃ score, g.scoreCountryRisk location.countryCode = .ok score) ∧ ∃ home, g.distanceFromHome call.profile location = .ok home

-- The time the speed is measured to.
def Currently (call : GeoCall) (current : DateTime) : Prop :=
  currentTime g.host call.now (call.last.value "_current_timestamp") = .ok current

-- A naive time meets an aware one.
structure Mixes (location : GeoLocation) (lastTime : DateTime) (call : GeoCall) : Prop where
  reaches : Reaches g location call
  times : ∃ current, Currently g call current ∧ current.offset.isSome ≠ lastTime.offset.isSome

-- The seconds a speed is measured over.
structure Measured (location : GeoLocation) (lastTime : DateTime) (call : GeoCall) (seconds : Rat) : Prop where
  reaches : Reaches g location call
  times : ∃ current, Currently g call current ∧ current.offset.isSome = lastTime.offset.isSome ∧
    seconds = |current.aware.totalSeconds lastTime.aware|
  long : 1 / 1000 ≤ seconds / 3600

-- Both give the same speed and the same flag, and neither fails for a naive timestamp.
structure Determined (first second : GeoCall) : Prop where
  speed : (first.enrich g).travelSpeedMph = (second.enrich g).travelSpeedMph
  flag : (first.enrich g).isImpossibleTravel = (second.enrich g).isImpossibleTravel
  firstTimed : (first.enriched g).2 ≠ some .mixed
  secondTimed : (second.enriched g).2 ≠ some .mixed

-- No naive time meets an aware one, and there is no speed in either call, or there is one in
-- both and it is over the same time or no distance.
structure Steady (location : GeoLocation) (distance : PyFloat) (lastTime : DateTime) (first second : GeoCall) : Prop where
  firstTimed : ¬Mixes g location lastTime first
  secondTimed : ¬Mixes g location lastTime second
  speeds : (∀ seconds, ¬Measured g location lastTime first seconds) ∧ (∀ seconds, ¬Measured g location lastTime second seconds) ∨
    ∃ seconds other, Measured g location lastTime first seconds ∧ Measured g location lastTime second other ∧
      (seconds = other ∨ ∀ q, distance = .finite q → q = 0)

-- The division of the host where it is exact.
structure DividesExactly (h : GeoHost) : Prop where
  finite : ∀ a b : Rat, b ≠ 0 → h.divide (.finite a) b = .finite (a / b)
  others : ∀ (x : PyFloat) (b : Rat), (∀ q, x ≠ .finite q) → 0 < b → h.divide x b = x

section Calls
variable {g} {location : GeoLocation} {distance : PyFloat} {lastTime : DateTime} {call first second : GeoCall}

theorem secondsApart_aware (current last : DateTime) : secondsApart current last =
    if current.offset.isSome = last.offset.isSome then .ok |current.aware.totalSeconds last.aware| else .error .mixed := by
  unfold secondsApart
  cases current.offset <;> cases last.offset <;> rfl

-- The travel step of such a call, by the time that is taken as current.
theorem speed_of (travelled : Travelled g location distance lastTime call) :
    g.travelSpeed call.now location (some call.last) =
      (currentTime g.host call.now (call.last.value "_current_timestamp")).bind fun current =>
        (secondsApart current lastTime).bind fun seconds =>
          if seconds / 3600 < 1 / 1000 then .ok none else .ok (some (g.host.divide distance (seconds / 3600))) := by
  have timestamp : call.last.value "transaction_timestamp" ≠ .none := by
    intro none
    have dated := travelled.dated
    rw [none] at dated
    cases dated
  unfold travelSpeed calculateTravelSpeed
  simp only [Record.entries_nonempty _ _ travelled.latitude,travelled.latitude,travelled.longitude,timestamp,travelled.apart,travelled.dated]
  rfl

-- What the travel step leaves in the result: a speed, whether it is too high, and what was
-- raised.
def travelOutcome (g : GeoEnricher) : Except GeoError (Option PyFloat) → Option PyFloat × Bool × Option GeoError
  | .error e => (none,false,some e)
  | .ok none => (none,false,none)
  | .ok (some speed) => (some speed,speed.greater g.impossibleTravelSpeedMph,none)

def outcome (g : GeoEnricher) (call : GeoCall) : Option PyFloat × Bool × Option GeoError :=
  ((call.enriched g).1.travelSpeedMph,(call.enriched g).1.isImpossibleTravel,(call.enriched g).2)

theorem outcome_reaches (located : g.locate call.transaction = .ok (some location)) (reaches : Reaches g location call) :
    outcome g call = travelOutcome g (g.travelSpeed call.now location (some call.last)) := by
  obtain ⟨⟨score,scored⟩,home,placed⟩ := reaches
  unfold outcome GeoCall.enriched GeoEnricher.enriched
  rw [located]
  simp only [scored,placed]
  match g.travelSpeed call.now location (some call.last) with
  | .error _ => rfl
  | .ok none => rfl
  | .ok (some _) => rfl

theorem outcome_stops (located : g.locate call.transaction = .ok (some location)) (stops : ¬Reaches g location call) :
    ∃ message, outcome g call = (none,false,some (.raised message)) := by
  unfold outcome GeoCall.enriched GeoEnricher.enriched
  rw [located]
  cases scored : g.scoreCountryRisk location.countryCode with
  | error message => exact ⟨message,by simp [blank,scored]⟩
  | ok score =>
    cases placed : g.distanceFromHome call.profile location with
    | error message => exact ⟨message,by simp [blank,scored,placed]⟩
    | ok home => exact absurd ⟨⟨score,scored⟩,home,placed⟩ stops

-- The flag goes by the speed.
theorem outcome_flag (located : g.locate call.transaction = .ok (some location)) :
    (outcome g call).2.1 = ((outcome g call).1.map fun speed => speed.greater g.impossibleTravelSpeedMph).getD false := by
  by_cases reaches : Reaches g location call
  · rw [outcome_reaches located reaches]
    match g.travelSpeed call.now location (some call.last) with
    | .error _ => rfl
    | .ok none => rfl
    | .ok (some _) => rfl
  · obtain ⟨message,stopped⟩ := outcome_stops located reaches
    rw [stopped]
    rfl

theorem currently_raised (timed : currentTime g.host call.now (call.last.value "_current_timestamp") = .error e) : e ≠ .mixed := by
  unfold currentTime at timed
  split at timed
  · cases value : call.last.value "_current_timestamp" with
    | str text =>
      rw [value,readTime] at timed
      split at timed <;> cases timed
      exact GeoError.noConfusion
    | _ =>
      rw [value] at timed
      cases timed
  · cases timed

-- What such a call does once it gets to the travel: the current time cannot be read, it
-- does not go with the last one, the two are too near, or there is a speed.
theorem travelled_outcome (travelled : Travelled g location distance lastTime call) (reaches : Reaches g location call) :
    (∃ e, currentTime g.host call.now (call.last.value "_current_timestamp") = .error e ∧ outcome g call = (none,false,some e)) ∨
      ∃ current, Currently g call current ∧ outcome g call =
        if current.offset.isSome = lastTime.offset.isSome then
          if |current.aware.totalSeconds lastTime.aware| / 3600 < 1 / 1000 then (none,false,none)
          else travelOutcome g (.ok (some (g.host.divide distance (|current.aware.totalSeconds lastTime.aware| / 3600))))
        else (none,false,some .mixed) := by
  rw [outcome_reaches travelled.located reaches,speed_of travelled]
  cases timed : currentTime g.host call.now (call.last.value "_current_timestamp") with
  | error e => exact .inl ⟨e,rfl,rfl⟩
  | ok current =>
    refine .inr ⟨current,timed,?_⟩
    rw [Except.bind,secondsApart_aware]
    split
    · rw [Except.bind]
      split <;> rfl
    · rfl

theorem currently_unique (first : Currently g call current) (second : Currently g call other) : current = other :=
  Except.ok.inj (first.symm.trans second)

theorem outcome_mixed (travelled : Travelled g location distance lastTime call) :
    (outcome g call).2.2 = some .mixed ↔ Mixes g location lastTime call := by
  by_cases reaches : Reaches g location call
  · rcases travelled_outcome travelled reaches with ⟨e,timed,made⟩ | ⟨current,timed,made⟩
    · rw [made]
      constructor
      · intro mixed
        exact absurd (Option.some.inj mixed) (currently_raised timed)
      · intro mixes
        obtain ⟨other,read,_⟩ := mixes.times
        cases timed.symm.trans read
    · rw [made]
      constructor
      · intro mixed
        refine ⟨reaches,current,timed,?_⟩
        intro same
        rw [if_pos same] at mixed
        split at mixed <;> cases mixed
      · intro mixes
        obtain ⟨other,read,differ⟩ := mixes.times
        rw [currently_unique read timed] at differ
        rw [if_neg differ]
  · obtain ⟨message,stopped⟩ := outcome_stops travelled.located reaches
    rw [stopped]
    exact iff_of_false (by simp) fun mixes => reaches mixes.reaches

theorem outcome_speed (travelled : Travelled g location distance lastTime call) (speed : PyFloat) :
    (outcome g call).1 = some speed ↔
      ∃ seconds, Measured g location lastTime call seconds ∧ g.host.divide distance (seconds / 3600) = speed := by
  by_cases reaches : Reaches g location call
  · rcases travelled_outcome travelled reaches with ⟨e,timed,made⟩ | ⟨current,timed,made⟩
    · rw [made]
      refine iff_of_false (by simp) ?_
      intro ⟨_,measured,_⟩
      obtain ⟨other,read,_⟩ := measured.times
      cases timed.symm.trans read
    · rw [made]
      constructor
      · intro fast
        split at fast
        · rename_i same
          split at fast
          · cases fast
          · rename_i long
            exact ⟨_,⟨reaches,⟨current,timed,same,rfl⟩,not_lt.mp long⟩,Option.some.inj fast⟩
        · cases fast
      · intro ⟨seconds,measured,divided⟩
        obtain ⟨other,read,same,apart⟩ := measured.times
        rw [currently_unique read timed] at same apart
        rw [if_pos same,← apart,if_neg (not_lt.mpr measured.long),← divided]
        rfl
  · obtain ⟨message,stopped⟩ := outcome_stops travelled.located reaches
    rw [stopped]
    exact iff_of_false (by simp) fun ⟨_,measured,_⟩ => reaches measured.reaches

theorem measured_positive (measured : Measured g location lastTime call seconds) : 0 < seconds / 3600 :=
  lt_of_lt_of_le (by norm_num) measured.long

-- Two speeds over one distance are the same where the times are, or there is no distance.
theorem divide_same (exact : DividesExactly g.host) (one : 0 < a) (two : 0 < b) :
    g.host.divide distance a = g.host.divide distance b ↔ a = b ∨ ∀ q, distance = .finite q → q = 0 := by
  cases distance with
  | finite q =>
    rw [exact.finite q a one.ne',exact.finite q b two.ne',PyFloat.finite.injEq,div_eq_div_iff one.ne' two.ne']
    constructor
    · intro same
      rcases mul_eq_mul_left_iff.mp same with times | none
      · exact .inl times.symm
      · exact .inr fun _ found => PyFloat.finite.inj found ▸ none
    · intro given
      rcases given with times | none
      · rw [times]
      · rw [none q rfl,zero_mul,zero_mul]
  | nan =>
    rw [exact.others _ a (fun _ => PyFloat.noConfusion) one,exact.others _ b (fun _ => PyFloat.noConfusion) two]
    exact iff_of_true rfl (.inr fun _ found => PyFloat.noConfusion found)
  | infinity negative =>
    rw [exact.others _ a (fun _ => PyFloat.noConfusion) one,exact.others _ b (fun _ => PyFloat.noConfusion) two]
    exact iff_of_true rfl (.inr fun _ found => PyFloat.noConfusion found)

theorem speed_none (travelled : Travelled g location distance lastTime call) :
    (outcome g call).1 = none ↔ ∀ seconds, ¬Measured g location lastTime call seconds := by
  rw [Option.eq_none_iff_forall_ne_some]
  constructor
  · intro slow seconds measured
    exact slow _ ((outcome_speed travelled _).mpr ⟨seconds,measured,rfl⟩)
  · intro unmeasured speed fast
    obtain ⟨seconds,measured,_⟩ := (outcome_speed travelled speed).mp fast
    exact unmeasured seconds measured

theorem speeds_same (exact : DividesExactly g.host) (one : Travelled g location distance lastTime first)
    (two : Travelled g location distance lastTime second) : (outcome g first).1 = (outcome g second).1 ↔
      (∀ seconds, ¬Measured g location lastTime first seconds) ∧ (∀ seconds, ¬Measured g location lastTime second seconds) ∨
        ∃ seconds other, Measured g location lastTime first seconds ∧ Measured g location lastTime second other ∧
          (seconds = other ∨ ∀ q, distance = .finite q → q = 0) := by
  have scaled : ∀ s t : Rat, s / 3600 = t / 3600 ↔ s = t := fun s t => div_left_inj' (by norm_num)
  rw [← speed_none one,← speed_none two]
  constructor
  · intro same
    cases fast : (outcome g first).1 with
    | none => exact .inl ⟨rfl,same ▸ fast⟩
    | some speed =>
      obtain ⟨seconds,measured,divided⟩ := (outcome_speed one speed).mp fast
      obtain ⟨other,again,redivided⟩ := (outcome_speed two speed).mp (same ▸ fast)
      have equal := (divide_same exact (measured_positive measured) (measured_positive again)).mp (divided.trans redivided.symm)
      rw [scaled] at equal
      exact .inr ⟨seconds,other,measured,again,equal⟩
  · intro given
    rcases given with ⟨slow,still⟩ | ⟨seconds,other,measured,again,equal⟩
    · rw [slow,still]
    · rw [← scaled] at equal
      have speed := (divide_same exact (measured_positive measured) (measured_positive again)).mpr equal
      rw [(outcome_speed one _).mpr ⟨seconds,measured,rfl⟩,(outcome_speed two _).mpr ⟨other,again,rfl⟩,speed]

-- The current transaction's own timestamp is never read.
theorem enriched_unread (now : Int) (transaction : Record) (timestamp : Value) (profile last : Option Record) :
    g.enriched now (transaction.set "transaction_timestamp" timestamp) profile last = g.enriched now transaction profile last := by
  have located : g.locate (transaction.set "transaction_timestamp" timestamp) = g.locate transaction := by
    unfold locate lookupFields
    simp [Record.value,OrderedDict.getD_set]
  unfold GeoEnricher.enriched
  rw [located]

-- Without one, some two clocks give different speeds or a failure.
theorem clock_unsteady (reaches : Reaches g location call)
    (unset : (call.last.value "_current_timestamp").truthy = false) :
    ∃ now later, ¬Steady g location distance lastTime {call with now} {call with now := later} := by
  have timed : ∀ now, Currently g {call with now} ⟨now,some 0⟩ := by
    intro now
    unfold Currently currentTime
    rw [unset]
    rfl
  cases aware : lastTime.offset with
  | none =>
    refine ⟨0,0,fun steady => steady.firstTimed ⟨reaches,_,timed 0,?_⟩⟩
    rw [aware]
    exact Bool.noConfusion
  | some offset =>
    refine ⟨lastTime.aware.instant,lastTime.aware.instant + 3600000000,?_⟩
    intro steady
    have slow : ∀ seconds, ¬Measured g location lastTime {call with now := lastTime.aware.instant} seconds := by
      intro seconds measured
      obtain ⟨current,read,_,apart⟩ := measured.times
      have long := measured.long
      rw [apart,currently_unique read (timed _)] at long
      norm_num [AwareTime.totalSeconds,AwareTime.instant,DateTime.aware] at long
    have hour : Measured g location lastTime {call with now := lastTime.aware.instant + 3600000000} 3600 := by
      refine ⟨reaches,⟨_,timed _,by rw [aware]; rfl,?_⟩,by norm_num⟩
      norm_num [AwareTime.totalSeconds,AwareTime.instant,DateTime.aware]
    rcases steady.speeds with ⟨_,still⟩ | ⟨seconds,_,measured,_⟩
    · exact still 3600 hour
    · exact slow seconds measured

-- The speed is measured to what the last transaction has for the current time, or to the
-- clock.
theorem travel_determined (exact : DividesExactly g.host) (same : SameTravel g location distance lastTime first second) :
    Determined g first second ↔ Steady g location distance lastTime first second := by
  have speeds := speeds_same exact same.one same.two
  constructor
  · intro determined
    refine ⟨?_,?_,speeds.mp determined.speed⟩
    · rw [← outcome_mixed same.one]
      exact determined.firstTimed
    · rw [← outcome_mixed same.two]
      exact determined.secondTimed
  · intro steady
    have speed := speeds.mpr steady.speeds
    refine ⟨speed,?_,?_,?_⟩
    · change (outcome g first).2.1 = (outcome g second).2.1
      rw [outcome_flag same.one.located,outcome_flag same.two.located,speed]
    · exact mt (outcome_mixed same.one).mp steady.firstTimed
    · exact mt (outcome_mixed same.two).mp steady.secondTimed

end Calls

-- Divisions are exact, and the one distance is that of the points below.
def exampleGeoHost : GeoHost where
  float v := match v.number with
    | some x => .ok x
    | none => .error "could not convert string to float"
  upper text := String.ofList (text.toList.map Char.toUpper)
  haversineDistance _ _ _ _ := .ok (.finite (21136304946094156 / 10000000000000))
  fromisoformat _ := none
  divide x b := match x with
    | .finite a => .finite (a / b)
    | x => x

def exampleEnricher : GeoEnricher := ⟨exampleGeoHost,none,.finite 500,.empty⟩

theorem exampleDivides : DividesExactly exampleGeoHost where
  finite _ _ _ := rfl
  others x _ other _ := by
    cases x with
    | finite q => exact absurd rfl (other q)
    | nan => rfl
    | infinity negative => rfl

-- A purchase at a latitude and a longitude, with its timestamp.
def purchase (latitude longitude : Rat) (timestamp : Value) : Record :=
  .ofList [("geo_latitude",.float (.finite latitude)),("geo_longitude",.float (.finite longitude)),("transaction_timestamp",timestamp)]

-- One hour after a purchase at the epoch, at a clock, with the last timestamp as given.
def replay (clock : Int) (lastTimestamp : Value) : GeoCall :=
  ⟨clock,purchase 20 40 (.datetime 3600000000 (some 0)),none,purchase 10 10 lastTimestamp⟩

def destination : GeoLocation := ⟨.str "",.str "",.str "",.finite 20,.finite 40,false,false,false⟩

theorem replay_travelled (clock : Int) (offset : Option Int) :
    Travelled exampleEnricher destination (.finite (21136304946094156 / 10000000000000)) ⟨0,offset⟩ (replay clock (.datetime 0 offset)) where
  located := rfl
  latitude := Value.noConfusion
  longitude := Value.noConfusion
  apart := rfl
  dated := rfl

theorem replay_same (clock later : Int) (offset : Option Int) :
    SameTravel exampleEnricher destination (.finite (21136304946094156 / 10000000000000)) ⟨0,offset⟩
      (replay clock (.datetime 0 offset)) (replay later (.datetime 0 offset)) :=
  ⟨replay_travelled clock offset,replay_travelled later offset,rfl⟩

theorem travel_determined_replay :
    Determined exampleEnricher (replay 3600000000 (.datetime 0 (some 0))) (replay 36000000000 (.datetime 0 (some 0))) ↔
      Steady exampleEnricher destination (.finite (21136304946094156 / 10000000000000)) ⟨0,some 0⟩
        (replay 3600000000 (.datetime 0 (some 0))) (replay 36000000000 (.datetime 0 (some 0))) :=
  travel_determined exampleDivides (replay_same 3600000000 36000000000 (some 0))

-- Replayed ten hours later the same travel is no longer impossible, and after a last purchase
-- with a naive timestamp the enrichment fails.
theorem replay_and_naive_differ :
    SameTravel exampleEnricher destination (.finite (21136304946094156 / 10000000000000)) ⟨0,some 0⟩
        (replay 3600000000 (.datetime 0 (some 0))) (replay 36000000000 (.datetime 0 (some 0))) ∧
      ¬Determined exampleEnricher (replay 3600000000 (.datetime 0 (some 0))) (replay 36000000000 (.datetime 0 (some 0))) ∧
      SameTravel exampleEnricher destination (.finite (21136304946094156 / 10000000000000)) ⟨0,none⟩
        (replay 3600000000 (.datetime 0 none)) (replay 3600000000 (.datetime 0 none)) ∧
      ¬Determined exampleEnricher (replay 3600000000 (.datetime 0 none)) (replay 3600000000 (.datetime 0 none)) := by
  refine ⟨replay_same _ _ _,?_,replay_same _ _ _,?_⟩
  · intro determined
    have flag := determined.flag
    revert flag
    decide +kernel
  · intro determined
    have timed := determined.firstTimed
    revert timed
    decide +kernel

end RiskPulse.GeoEnricher
