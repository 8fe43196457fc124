import Mathlib.Tactic.Tauto
import RiskPulse.Library.Fallible
import RiskPulse.RuleConditions

namespace RiskPulse.RulesEngine
variable (h : RulesHost)

-- The minutes from one of the day to another, midnight included: an interval whose end is
-- before its start wraps midnight.
def Within (first last minute : Int) : Prop := if first ≤ last then first ≤ minute ∧ minute ≤ last else first ≤ minute ∨ minute ≤ last

instance (first last minute : Int) : Decidable (Within first last minute) := inferInstanceAs (Decidable (ite _ _ _))

-- Going forward from the first minute, one within is met no later than the last.
theorem within_forward (first last minute : Int) (day : ∀ m ∈ [first,last,minute], 0 ≤ m ∧ m < 1440) :
    Within first last minute ↔ (minute - first) % 1440 ≤ (last - first) % 1440 := by
  have ⟨_,_⟩ := day first (by simp)
  have ⟨_,_⟩ := day last (by simp)
  have ⟨_,_⟩ := day minute (by simp)
  unfold Within
  split <;> omega

-- The hours a condition excludes.
inductive Hours where
  | always
  | outside (first last : Int)

-- What a time window is configured with: the days, if there is a list of them, the hours, and
-- the wall clock of its zone.
structure Configured (condition : Value) (days : Option (List String)) (hours : Hours) (wall : Rat → Rat) : Prop where
  activeDays : condition.attributeGet "active_days" .none = .ok ((days.map fun names => Value.list (names.map .str)).getD .none)
  outsideHours : match hours with
    | .always => condition.attributeGet "outside_hours" .none = .ok .none
    | .outside first last => ∃ given start stop,
        condition.attributeGet "outside_hours" .none = .ok given ∧ given.truthy = true ∧
        given.attributeGet "start" (.str "09:00") = .ok start ∧ given.attributeGet "end" (.str "17:00") = .ok stop ∧
        minutesOf h start = .ok first ∧ minutesOf h stop = .ok last
  timezone : ∃ zone, condition.attributeGet "timezone" (.str "UTC") = .ok zone ∧ h.zoneInfo zone = .zone wall

-- The weekday of a wall clock is one of the names.
def Listed (names : List String) (wall : Rat) : Prop := ∃ name ∈ names, h.lower name = dayName wall

instance (names : List String) (wall : Rat) : Decidable (Listed h names wall) :=
  inferInstanceAs (Decidable (∃ name ∈ names, h.lower name = dayName wall))

-- The weekday of a clock is one of the days, where there is a list. The code takes an empty
-- list for none.
def DayAllowed : Option (List String) → Rat → Prop
  | none,_ => True
  | some names,wall => Listed h names wall

def DayPassed : Option (List String) → Rat → Prop
  | some (name :: names),wall => Listed h (name :: names) wall
  | _,_ => True

instance decidableAllowed : (days : Option (List String)) → (wall : Rat) → Decidable (DayAllowed h days wall)
  | none,_ => isTrue trivial
  | some names,wall => inferInstanceAs (Decidable (Listed h names wall))

instance decidablePassed : (days : Option (List String)) → (wall : Rat) → Decidable (DayPassed h days wall)
  | none,_ => isTrue trivial
  | some [],_ => isTrue trivial
  | some (name :: names),wall => inferInstanceAs (Decidable (Listed h (name :: names) wall))

def Hours.Allowed : Hours → Int → Prop
  | .always,_ => True
  | .outside first last,minute => ¬Within first last minute

def Hours.Passed : Hours → Int → Prop
  | .always,_ => True
  | .outside first last,minute => ¬(first ≤ minute ∧ minute ≤ last)

instance Hours.decidableAllowed : (hours : Hours) → (minute : Int) → Decidable (hours.Allowed minute)
  | .always,_ => isTrue trivial
  | .outside first last,minute => inferInstanceAs (Decidable (¬Within first last minute))

instance Hours.decidablePassed : (hours : Hours) → (minute : Int) → Decidable (hours.Passed minute)
  | .always,_ => isTrue trivial
  | .outside first last,minute => inferInstanceAs (Decidable (¬(first ≤ minute ∧ minute ≤ last)))

theorem Hours.allowed_passed (hours : Hours) (minute : Int) (allowed : hours.Allowed minute) : hours.Passed minute := by
  cases hours with
  | always => trivial
  | outside first last =>
    intro between
    apply allowed
    rw [Within,if_pos (le_trans between.1 between.2)]
    exact between

-- What the condition means: both are read on the wall clock of its zone.
def WindowOpen (days : Option (List String)) (hours : Hours) (wall : Rat) : Prop :=
  DayAllowed h days wall ∧ hours.Allowed (minuteOfDay wall)

instance (days : Option (List String)) (hours : Hours) (wall : Rat) : Decidable (WindowOpen h days hours wall) :=
  inferInstanceAs (Decidable (_ ∧ _))

section Evaluated
variable {h} {condition : Value} {days : Option (List String)} {hours : Hours} {wall : Rat → Rat} {now : Rat}

theorem onActiveDay_listed (names : List String) (moment : Rat) :
    onActiveDay h (.list (names.map .str)) moment = .ok (decide (Listed h names moment)) := by
  have lowers : (names.map Value.str).mapM (lowered h) = .ok (names.map fun name => .str (h.lower name)) := by
    rw [Fallible.mapM_forall₂,List.forall₂_map_left_iff,List.forall₂_map_right_iff]
    exact List.forall₂_same.mpr fun _ _ => rfl
  change ((names.map Value.str).mapM (lowered h)).bind _ = _
  rw [lowers]
  change Except.ok _ = _
  congr 1
  rw [Bool.eq_iff_iff,List.contains_iff_mem,decide_eq_true_iff]
  simp [Listed]

theorem day_evaluated (now : Rat) (configured : Configured h condition days hours wall) :
    ∃ given today, condition.attributeGet "active_days" .none = .ok given ∧
      (if given.truthy then onActiveDay h given now else .ok true) = .ok today ∧ (today = true ↔ DayPassed h days now) := by
  have active := configured.activeDays
  match days with
  | none => exact ⟨_,true,active,rfl,by simp [DayPassed]⟩
  | some [] => exact ⟨_,true,active,rfl,by simp [DayPassed]⟩
  | some (name :: names) => exact ⟨_,_,active,onActiveDay_listed (name :: names) now,by rw [decide_eq_true_iff]; rfl⟩

-- The rest of the evaluation, once the day has passed.
theorem hours_evaluated (configured : Configured h condition days hours wall) (day : condition.attributeGet "active_days" .none = .ok given)
    (today : (if given.truthy then onActiveDay h given now else .ok true) = .ok true) :
    evaluateTimeWindow h now condition = .ok true ↔ hours.Passed (minuteOfDay (wall now)) := by
  obtain ⟨zone,named,clock⟩ := configured.timezone
  have excluded := configured.outsideHours
  cases hours with
  | always =>
    have whole : evaluateTimeWindow h now condition = .ok true := by
      have nothing : Value.none.truthy = false := rfl
      unfold evaluateTimeWindow
      split at today <;> rename_i given <;> simp [day,given,today,excluded,nothing,bind,Except.bind,pure,Except.pure]
    exact iff_of_true whole trivial
  | outside first last =>
    obtain ⟨hours,start,stop,present,truthy,opens,closes,begins,ends⟩ := excluded
    have whole : evaluateTimeWindow h now condition =
        .ok (!decide (first ≤ minuteOfDay (wall now) ∧ minuteOfDay (wall now) ≤ last)) := by
      unfold evaluateTimeWindow
      split at today <;> rename_i given <;>
        simp [day,given,today,present,truthy,opens,closes,named,clock,begins,ends,bind,Except.bind,pure,Except.pure]
    rw [whole]
    simp only [Except.ok.injEq,Bool.not_eq_true',decide_eq_false_iff_not]
    exact Iff.rfl

-- The weekday is read on the clock of UTC, and the hours are compared as if they never
-- wrapped.
theorem timeWindow_evaluated (configured : Configured h condition days hours wall) :
    evaluateTimeWindow h now condition = .ok true ↔ DayPassed h days now ∧ hours.Passed (minuteOfDay (wall now)) := by
  obtain ⟨given,today,found,checked,passed⟩ := day_evaluated now configured
  cases today with
  | false =>
    have closed : evaluateTimeWindow h now condition = .ok false := by
      unfold evaluateTimeWindow
      split at checked
      · rename_i listed
        simp [found,listed,checked,bind,Except.bind,pure,Except.pure]
      · cases checked
    rw [closed,← passed]
    simp
  | true => rw [hours_evaluated configured found checked,and_iff_right (passed.mp rfl)]

-- The condition is right inside an interval that does not wrap; inside one that does, where
-- the weekday of UTC is not listed; and outside, where both clocks' weekdays are listed or
-- neither is.
theorem time_window (configured : Configured h condition days hours wall) :
    (evaluateTimeWindow h now condition = .ok true ↔ WindowOpen h days hours (wall now)) ↔
      ¬hours.Passed (minuteOfDay (wall now)) ∨
        hours.Passed (minuteOfDay (wall now)) ∧ ¬hours.Allowed (minuteOfDay (wall now)) ∧ ¬DayPassed h days now ∨
        hours.Allowed (minuteOfDay (wall now)) ∧ (DayPassed h days now ↔ DayAllowed h days (wall now)) := by
  have inside : hours.Allowed (minuteOfDay (wall now)) → hours.Passed (minuteOfDay (wall now)) := hours.allowed_passed _
  rw [timeWindow_evaluated configured]
  unfold WindowOpen
  tauto

end Evaluated

-- A library with one zone, five hours behind UTC.
def zonedHost : RulesHost where
  float v := match v.number with
    | some x => .ok x
    | none => .error "could not convert string to float"
  int v := match v with
    | .int n => .ok n
    | .str text =>
      if text ≠ "" ∧ text.toList.all Char.isDigit then .ok (text.toList.foldl (fun n c => 10 * n + (c.toNat - 48)) 0)
      else .error "invalid literal for int()"
    | _ => .error "int() argument must be a string"
  str v := match v with
    | .str text => text
    | _ => ""
  lower text := String.ofList (text.toList.map Char.toLower)
  hash _ := .ok 0
  plus := PyFloat.exactly fun a b => a + b
  modulo _ _ := .ok (.finite 0)
  reMatch _ _ := .ok false
  fromisoformat _ := .error "Invalid isoformat string"
  zoneInfo zone :=
    if zone = .str "America/New_York" then .zone fun moment => moment - 18000
    else if zone = .str "UTC" then .zone fun moment => moment
    else .missing
  recursionLimit := 1000

def saturdayWindow : Value := .dict [("type",.str "time_window"),("active_days",.list [.str "Saturday"]),
  ("outside_hours",.dict [("start",.str "09:00"),("end",.str "17:00")]),("timezone",.str "America/New_York")]

def nightWindow : Value := .dict [("type",.str "time_window"),
  ("outside_hours",.dict [("start",.str "22:00"),("end",.str "06:00")]),("timezone",.str "America/New_York")]

theorem saturdayWindow_configured :
    Configured zonedHost saturdayWindow (some ["Saturday"]) (.outside 540 1020) fun moment => moment - 18000 where
  activeDays := rfl
  outsideHours := ⟨_,_,_,rfl,rfl,rfl,rfl,by decide +kernel,by decide +kernel⟩
  timezone := ⟨_,rfl,rfl⟩

theorem nightWindow_configured :
    Configured zonedHost nightWindow none (.outside 1320 360) fun moment => moment - 18000 where
  activeDays := rfl
  outsideHours := ⟨_,_,_,rfl,rfl,rfl,rfl,by decide +kernel,by decide +kernel⟩
  timezone := ⟨_,rfl,rfl⟩

theorem time_window_saturday :
    (evaluateTimeWindow zonedHost 180000 saturdayWindow = .ok true ↔
      WindowOpen zonedHost (some ["Saturday"]) (.outside 540 1020) (180000 - 18000)) ↔
      ¬(Hours.outside 540 1020).Passed (minuteOfDay (180000 - 18000)) ∨
        (Hours.outside 540 1020).Passed (minuteOfDay (180000 - 18000)) ∧ ¬(Hours.outside 540 1020).Allowed (minuteOfDay (180000 - 18000)) ∧
          ¬DayPassed zonedHost (some ["Saturday"]) 180000 ∨
        (Hours.outside 540 1020).Allowed (minuteOfDay (180000 - 18000)) ∧
          (DayPassed zonedHost (some ["Saturday"]) 180000 ↔ DayAllowed zonedHost (some ["Saturday"]) (180000 - 18000)) :=
  time_window saturdayWindow_configured

-- A Friday evening that is Saturday in UTC, and an hour before midnight.
theorem friday_evening_and_night_wrong :
    ¬(evaluateTimeWindow zonedHost 180000 saturdayWindow = .ok true ↔
        WindowOpen zonedHost (some ["Saturday"]) (.outside 540 1020) (180000 - 18000)) ∧
      ¬(evaluateTimeWindow zonedHost 187200 nightWindow = .ok true ↔
        WindowOpen zonedHost none (.outside 1320 360) (187200 - 18000)) := by
  rw [timeWindow_evaluated saturdayWindow_configured,timeWindow_evaluated nightWindow_configured]
  decide +kernel

end RiskPulse.RulesEngine
