import Mathlib.Data.List.Dedup
import RiskPulse.CacheHandler

namespace RiskPulse

-- What the cache holds under a key: a profile, a velocity counter, or what has neither
-- prefix.
inductive CacheEntry where
  | profile (customerId : RedisText)
  | velocity (customerId windowKey : RedisText)
  | other (key : RedisText) (unprofiled : ¬CacheHandler.prefixCustomerProfile <+: key) (uncounted : ¬CacheHandler.prefixVelocity <+: key)

namespace CacheEntry

def key : CacheEntry → RedisText
  | .profile customerId => CacheHandler.prefixCustomerProfile ++ customerId
  | .velocity customerId windowKey => CacheHandler.velocityKey customerId windowKey
  | .other key _ _ => key

def owner : CacheEntry → Option RedisText
  | .profile customerId => some customerId
  | .velocity customerId _ => some customerId
  | .other _ _ _ => none

end CacheEntry

namespace CacheHandler
open Glob

-- A SCAN to its end whose pages are answered and deleted: each page has keys that are there
-- and that the pattern selects, and in the end none such is left.
inductive Swept (pattern : RedisText) : CacheContent → List ScanReply → Prop where
  | last (c : CacheContent) (none : ∀ key ∈ c.keys, selects pattern key = false) : Swept pattern c []
  | blank (c : CacheContent) (rest : List ScanReply) (deleting : RedisOutcome) (later : Swept pattern c rest) :
      Swept pattern c (.page [] deleting :: rest)
  | page (c : CacheContent) (keys : List RedisText) (rest : List ScanReply) (some : keys ≠ []) (distinct : keys.Nodup)
      (there : ∀ key ∈ keys, key ∈ c.keys ∧ selects pattern key = true) (later : Swept pattern (c.without keys) rest) :
      Swept pattern c (.page keys .answered :: rest)

-- Redis answers, and scans as it documents.
structure Answers (client : CacheClient) : Prop where
  scans : ∀ pattern c, Swept pattern c (client.scan pattern c)
  deletes : ∀ pattern, client.delete pattern = .answered

def Holds (c : CacheContent) (entries : List CacheEntry) : Prop := ∀ key, key ∈ c.keys ↔ ∃ e ∈ entries, e.key = key

-- The customer's keys are deleted and no key of another entry, and as many are reported as
-- there were.
structure Invalidated (entries : List CacheEntry) (customerId : RedisText) (c : CacheContent) (result : Nat × CacheContent) : Prop where
  gone : ∀ e ∈ entries, e.owner = some customerId → e.key ∉ result.2.keys
  kept : ∀ e ∈ entries, e.owner ≠ some customerId → e.key ∈ result.2.keys
  counted : result.1 = c.keys.length - result.2.keys.length

def Invalidates (entries : List CacheEntry) (customerId : RedisText) : Prop :=
  ∀ client c, Answers client → Holds c entries → Invalidated entries customerId c (invalidateCustomerData client customerId c)

-- What the two patterns of a customer take.
def Taken (customerId key : RedisText) : Prop :=
  (if 42 ∈ customerId then selects (prefixCustomerProfile ++ customerId) key = true else key = prefixCustomerProfile ++ customerId) ∨
    selects (prefixVelocity ++ customerId ++ utf8 ":*") key = true

instance (customerId key : RedisText) : Decidable (Taken customerId key) := by
  unfold Taken
  infer_instance

section Sweep
variable {pattern : RedisText} {c : CacheContent}

theorem without_length (c : CacheContent) (targets : List RedisText) (distinct : targets.Nodup) (there : ∀ key ∈ targets, key ∈ c.keys) :
    c.keys.length = (c.without targets).keys.length + targets.length := by
  have same : (c.keys.filter fun key => decide (key ∈ targets)).Perm targets := by
    apply (List.perm_ext_iff_of_nodup (c.distinct.filter _) distinct).mpr
    intro key
    rw [List.mem_filter,decide_eq_true_iff]
    exact ⟨And.right,fun member => ⟨there key member,member⟩⟩
  have parts := List.length_eq_length_filter_add (l := c.keys) fun key => decide (key ∈ targets)
  have rest : (c.keys.filter fun key => !decide (key ∈ targets)) = (c.without targets).keys := by
    apply List.filter_congr
    intro key _
    simp
  rw [parts,rest,same.length_eq,Nat.add_comm]

-- A sweep leaves the keys that the pattern does not select and counts the others.
theorem swept_run (swept : Swept pattern c replies) (deleted : Nat) :
    ∃ left : CacheContent, invalidateByPattern replies deleted c = (deleted + (c.keys.length - left.keys.length),left) ∧
      left.keys.length ≤ c.keys.length ∧ ∀ key, key ∈ left.keys ↔ key ∈ c.keys ∧ selects pattern key = false := by
  induction swept generalizing deleted with
  | last c none =>
    refine ⟨c,?_,le_refl _,?_⟩
    · rw [Nat.sub_self]
      rfl
    · intro key
      exact ⟨fun member => ⟨member,none key member⟩,And.left⟩
  | blank c rest deleting later ih =>
    obtain ⟨left,ran,found⟩ := ih deleted
    refine ⟨left,?_,found⟩
    unfold invalidateByPattern
    rw [if_pos rfl]
    exact ran
  | page c keys rest some distinct there later ih =>
    have length := without_length c keys distinct fun key member => (there key member).1
    obtain ⟨left,ran,fewer,same⟩ := ih (deleted + keys.length)
    refine ⟨left,?_,by omega,?_⟩
    · rw [invalidateByPattern,if_neg some]
      have counted : deleted + keys.length + ((c.without keys).keys.length - left.keys.length) = deleted + (c.keys.length - left.keys.length) := by
        omega
      rw [← counted]
      exact ran
    · intro key
      rw [same,CacheContent.without,List.mem_filter,decide_eq_true_iff]
      constructor
      · intro both
        exact ⟨both.1.1,both.2⟩
      · intro both
        refine ⟨⟨both.1,fun member => ?_⟩,both.2⟩
        have selected := (there key member).2
        rw [both.2] at selected
        cases selected

variable {client : CacheClient} {customerId : RedisText}

-- One pattern, scanned for or deleted as a key.
theorem pattern_run (answers : Answers client) (deleted : Nat) (c : CacheContent) (pattern : RedisText) :
    ∃ left : CacheContent, invalidatePattern client (deleted,c) pattern = (deleted + (c.keys.length - left.keys.length),left) ∧
      left.keys.length ≤ c.keys.length ∧
      ∀ key, key ∈ left.keys ↔ key ∈ c.keys ∧ ¬(if 42 ∈ pattern then selects pattern key = true else key = pattern) := by
  unfold invalidatePattern
  by_cases star : 42 ∈ pattern
  · obtain ⟨left,ran,fewer,same⟩ := swept_run (answers.scans pattern c) 0
    refine ⟨left,?_,fewer,?_⟩
    · simp only [if_pos star,ran,Nat.zero_add]
    · intro key
      rw [same,if_pos star,Bool.not_eq_true]
  · refine ⟨c.without [pattern],?_,List.length_filter_le _ _,?_⟩
    · simp only [if_neg star,answers.deletes pattern,delete]
    · intro key
      rw [if_neg star,CacheContent.without,List.mem_filter,decide_eq_true_iff,List.mem_singleton]

theorem profile_star (customerId : RedisText) : 42 ∈ prefixCustomerProfile ++ customerId ↔ 42 ∈ customerId := by
  have plain : (42 : UInt8) ∉ prefixCustomerProfile := by decide
  rw [List.mem_append,or_iff_right plain]

theorem velocity_star (customerId : RedisText) : 42 ∈ prefixVelocity ++ customerId ++ utf8 ":*" :=
  List.mem_append_right _ (by decide)

-- What a call leaves: the keys that are not taken, and it reports how many are gone.
theorem invalidate_run (answers : Answers client) (customerId : RedisText) (c : CacheContent) :
    (∀ key, key ∈ (invalidateCustomerData client customerId c).2.keys ↔ key ∈ c.keys ∧ ¬Taken customerId key) ∧
      (invalidateCustomerData client customerId c).1 = c.keys.length - (invalidateCustomerData client customerId c).2.keys.length := by
  obtain ⟨middle,first,fewer,profiles⟩ := pattern_run answers 0 c (prefixCustomerProfile ++ customerId)
  obtain ⟨left,second,less,counters⟩ :=
    pattern_run answers (0 + (c.keys.length - middle.keys.length)) middle (prefixVelocity ++ customerId ++ utf8 ":*")
  have ran : invalidateCustomerData client customerId c =
      (0 + (c.keys.length - middle.keys.length) + (middle.keys.length - left.keys.length),left) := by
    unfold invalidateCustomerData patterns
    rw [List.foldl_cons,first,List.foldl_cons,second,List.foldl_nil]
  rw [ran]
  constructor
  case right =>
    change 0 + (c.keys.length - middle.keys.length) + (middle.keys.length - left.keys.length) = c.keys.length - left.keys.length
    omega
  intro key
  rw [counters,profiles,if_pos (velocity_star customerId),Taken]
  simp only [profile_star,not_or,and_assoc]

end Sweep

-- The two patterns take the customer's keys that are in the cache, and no other key there.
def Singled (entries : List CacheEntry) (customerId : RedisText) : Prop :=
  ∀ e ∈ entries, Taken customerId e.key ↔ e.owner = some customerId

-- No key of another entry begins as the customer's velocity keys.
def Unlike (entries : List CacheEntry) (customerId : RedisText) : Prop :=
  ∀ e ∈ entries, e.owner ≠ some customerId → ¬prefixVelocity ++ customerId ++ utf8 ":" <+: e.key

theorem taken_plain (plain : Plain customerId) (key : RedisText) :
    Taken customerId key ↔ key = prefixCustomerProfile ++ customerId ∨ prefixVelocity ++ customerId ++ utf8 ":" <+: key := by
  have starless : 42 ∉ customerId := fun member => (plain 42 member).1 rfl
  have whole : Plain (prefixVelocity ++ customerId ++ utf8 ":") := by
    have start : Plain prefixVelocity := by decide +kernel
    have colon : Plain (utf8 ":") := by decide +kernel
    intro b member
    rcases List.mem_append.mp member with before | last
    · rcases List.mem_append.mp before with first | middle
      · exact start b first
      · exact plain b middle
    · exact colon b last
  have split : prefixVelocity ++ customerId ++ utf8 ":*" = (prefixVelocity ++ customerId ++ utf8 ":") ++ [42] := by
    rw [List.append_assoc _ (utf8 ":")]
    rfl
  rw [Taken,if_neg starless,split,selects_plain_star whole]

-- A plain customer's own keys are taken.
theorem singled_plain (plain : Plain customerId) (entries : List CacheEntry) : Singled entries customerId ↔ Unlike entries customerId := by
  constructor
  · intro singled e member another begins
    exact another ((singled e member).mp ((taken_plain plain _).mpr (.inr begins)))
  · intro unlike e member
    rw [taken_plain plain]
    constructor
    · intro either
      by_contra another
      rcases either with same | begins
      · cases e with
        | profile other =>
          cases List.append_cancel_left same
          exact another rfl
        | velocity other windowKey => cases List.cons.inj same |>.1
        | other key unprofiled uncounted => exact unprofiled ⟨customerId,same.symm⟩
      · exact unlike e member another begins
    · intro own
      cases e with
      | profile other =>
        cases own
        exact .inl rfl
      | velocity other windowKey =>
        cases own
        exact .inr (List.prefix_append _ windowKey)
      | other key unprofiled uncounted => cases own

-- A client whose scans have one page.
def onePage : CacheClient where
  scan pattern c := [.page (c.keys.filter (selects pattern)) .answered]
  delete _ := .answered

theorem onePage_answers : Answers onePage := by
  refine ⟨?_,fun _ => rfl⟩
  intro pattern c
  have there : ∀ key, key ∈ c.keys.filter (selects pattern) ↔ key ∈ c.keys ∧ selects pattern key = true := fun key => List.mem_filter
  change Swept pattern c [.page (c.keys.filter (selects pattern)) .answered]
  by_cases bare : c.keys.filter (selects pattern) = []
  · rw [bare]
    refine .blank c [] .answered (.last c ?_)
    intro key member
    rw [← Bool.not_eq_true]
    intro selected
    have found := (there key).mpr ⟨member,selected⟩
    rw [bare] at found
    cases found
  · refine .page c _ [] bare (c.distinct.filter _) (fun key member => (there key).mp member) (.last _ ?_)
    intro key left
    obtain ⟨inside,kept⟩ := List.mem_filter.mp left
    rw [← Bool.not_eq_true]
    exact fun selected => of_decide_eq_true kept ((there key).mpr ⟨inside,selected⟩)

theorem invalidates_singled (entries : List CacheEntry) (customerId : RedisText) :
    Invalidates entries customerId ↔ Singled entries customerId := by
  constructor
  · intro invalidates e member
    have held : Holds ⟨(entries.map CacheEntry.key).dedup,List.nodup_dedup _,0⟩ entries := by
      intro key
      rw [List.mem_dedup,List.mem_map]
    have invalidated := invalidates onePage _ onePage_answers held
    obtain ⟨left,_⟩ := invalidate_run onePage_answers customerId ⟨(entries.map CacheEntry.key).dedup,List.nodup_dedup _,0⟩
    have there := (held e.key).mpr ⟨e,member,rfl⟩
    constructor
    · intro taken
      by_contra another
      exact ((left _).mp (invalidated.kept e member another)).2 taken
    · intro own
      by_contra spared
      exact invalidated.gone e member own ((left _).mpr ⟨there,spared⟩)
  · intro singled client c answers held
    obtain ⟨left,counted⟩ := invalidate_run answers customerId c
    refine ⟨?_,?_,counted⟩
    · intro e member own there
      exact ((left _).mp there).2 ((singled e member).mpr own)
    · intro e member another
      exact (left _).mpr ⟨(held _).mpr ⟨e,member,rfl⟩,fun taken => another ((singled e member).mp taken)⟩

-- The condition, by whether the identifier has a character that means something in a
-- pattern.
def Spared (entries : List CacheEntry) (customerId : RedisText) : Prop :=
  if Plain customerId then Unlike entries customerId else Singled entries customerId

theorem customer_invalidated (entries : List CacheEntry) (customerId : RedisText) : Invalidates entries customerId ↔ Spared entries customerId := by
  rw [invalidates_singled,Spared]
  by_cases plain : Plain customerId
  · rw [if_pos plain]
    exact singled_plain plain entries
  · rw [if_neg plain]

-- The counters of two customers, of whom the one is named by a star.
def starAndOther : List CacheEntry := [.velocity (utf8 "*") (utf8 "10min"),.velocity (utf8 "CUST-001") (utf8 "10min")]

theorem star_deletes_others :
    (invalidateCustomerData onePage (utf8 "*") ⟨[velocityKey (utf8 "*") (utf8 "10min"),velocityKey (utf8 "CUST-001") (utf8 "10min")],by decide,0⟩).2.keys = [] ∧
      ¬Invalidates starAndOther (utf8 "*") := by
  refine ⟨by decide,fun invalidates => ?_⟩
  have singled := (invalidates_singled _ _).mp invalidates (.velocity (utf8 "CUST-001") (utf8 "10min")) (List.mem_cons_of_mem _ List.mem_cons_self)
  cases singled.mp (by decide)

end CacheHandler
end RiskPulse
