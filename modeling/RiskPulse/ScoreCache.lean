import RiskPulse.ScoreEvaluation

namespace RiskPulse
namespace ScoringPipeline
variable {p : ScoringPipeline} {r : ScoringRequest} {s : ScoringState}

-- The cache has an entry for the request that is not too old: the object with the index.
def Live (p : ScoringPipeline) (r : ScoringRequest) (looked : Rat) (s : ScoringState) (index : Nat) : Prop :=
  r.useCache = true ∧ ∃ settings, p.cache = some settings ∧ ∃ timestamp,
    s.cache.get? (p.generateCacheKey r.transaction) = some (timestamp,index) ∧ ¬settings.ttlSeconds < looked - timestamp

-- What a hit leaves: the object is marked, for all who have it.
def served (p : ScoringPipeline) (r : ScoringRequest) (index : Nat) (s : ScoringState) : ScoringState :=
  {s with
    cache := s.cache.moveToEnd (p.generateCacheKey r.transaction)
    scores := s.scores.modify index fun score => {score with cached := true}}

-- The cache has no entries but those of another.
def Within (cache other : OrderedDict String (Rat × Nat)) : Prop :=
  ∀ key entry, cache.get? key = some entry → other.get? key = some entry

theorem within_self (d : OrderedDict String (Rat × Nat)) : Within d d := fun _ _ found => found

theorem erase_within (d : OrderedDict String (Rat × Nat)) (k : String) : Within (d.erase k) d := by
  intro key entry kept
  rw [OrderedDict.get?_erase] at kept
  split at kept
  · cases kept
  · exact kept

theorem lookUp_live (live : Live p r looked s index) : p.lookUp r looked s = (some index,served p r index s) := by
  obtain ⟨uses,settings,enabled,timestamp,found,young⟩ := live
  unfold lookUp
  rw [uses,enabled]
  simp only [cacheGet,found]
  rw [if_neg young]
  rfl

theorem lookUp_missed (missed : ∀ index, ¬Live p r looked s index) :
    ∃ cache, p.lookUp r looked s = (none,{s with cache}) ∧ Within cache s.cache := by
  unfold lookUp
  split
  next settings uses enabled =>
    unfold cacheGet
    split
    next absent => exact ⟨s.cache,rfl,fun _ _ found => found⟩
    next timestamp index found =>
      split
      next old => exact ⟨_,rfl,erase_within s.cache _⟩
      next young => exact absurd ⟨uses,settings,enabled,timestamp,found,young⟩ (missed index)
  next => exact ⟨s.cache,rfl,fun _ _ found => found⟩

-- The cache takes a score unless it is empty and may have no entry.
def Storable (p : ScoringPipeline) (r : ScoringRequest) (cache : OrderedDict String (Rat × Nat)) : Prop :=
  ∀ settings, r.useCache = true → p.cache = some settings → cache.entries = [] → 0 < settings.maxEntries

section Put
variable {d other : OrderedDict String (Rat × Nat)} {settings : CacheSettings}

theorem set_within (within : Within d other) (found : (d.set k entry).get? key = some got) :
    got = entry ∨ other.get? key = some got := by
  rw [OrderedDict.get?_set] at found
  split at found
  · exact .inl (Option.some.inj found).symm
  · exact .inr (within key got found)

theorem cachePut_ok (k : String) (now : Rat) (index : Nat) (room : d.entries = [] → 0 < settings.maxEntries) :
    ∃ after, cachePut settings k now index d = .ok after ∧
      ∀ key entry, after.get? key = some entry → entry = (now,index) ∨ d.get? key = some entry := by
  unfold cachePut
  split
  next present =>
    refine ⟨_,rfl,fun key entry found => set_within ?_ found⟩
    intro key entry kept
    rw [OrderedDict.get?_moveToEnd] at kept
    exact kept
  next absent =>
    split
    next full =>
      have filled : d.entries.isEmpty = false := by
        cases split : d.entries with
        | nil =>
          have more := room split
          rw [split] at full
          simp only [List.length_nil,Int.natCast_zero] at full
          omega
        | cons head rest => rfl
      rw [filled]
      exact ⟨_,rfl,fun key entry found => set_within (fun _ _ kept => OrderedDict.get?_popFirst d kept) found⟩
    next space => exact ⟨_,rfl,fun key entry found => set_within (fun _ _ kept => kept) found⟩

theorem cachePut_refused (bare : d.entries = []) (none : settings.maxEntries ≤ 0) :
    cachePut settings k now index d = .error (.keyError "dictionary is empty") := by
  have absent : k ∉ d.keys := by simp [OrderedDict.keys,bare]
  have full : settings.maxEntries ≤ (d.entries.length : Int) := by
    rw [bare]
    exact none
  unfold cachePut
  rw [if_neg absent,if_pos full,bare]
  rfl

end Put

theorem store_kept (unified : UnifiedScore) (now : Rat) (room : Storable p r s.cache) :
    ∃ cache, p.store r now unified s = (.ok s.scores.length,⟨s.weights,cache,s.scores ++ [unified]⟩) ∧
      ∀ key entry, cache.get? key = some entry → entry = (now,s.scores.length) ∨ s.cache.get? key = some entry := by
  unfold store
  split
  next settings uses enabled =>
    obtain ⟨cache,put,kept⟩ := cachePut_ok (p.generateCacheKey r.transaction) now s.scores.length
      (room settings uses enabled)
    simp only [put]
    exact ⟨cache,rfl,kept⟩
  next => exact ⟨s.cache,rfl,fun _ _ found => .inr found⟩

theorem store_refused (unified : UnifiedScore) (now : Rat) (full : ¬Storable p r s.cache) :
    ∃ e, p.store r now unified s = (.error e,⟨s.weights,s.cache,s.scores ++ [unified]⟩) := by
  simp only [Storable,not_forall] at full
  obtain ⟨settings,uses,enabled,bare,none⟩ := full
  unfold store
  rw [uses,enabled]
  simp only [cachePut_refused bare (Int.not_lt.mp none)]
  exact ⟨_,rfl⟩

-- The settings leave the cache room for a score.
def Roomy (p : ScoringPipeline) (r : ScoringRequest) : Prop :=
  ∀ settings, r.useCache = true → p.cache = some settings → 0 < settings.maxEntries

-- A cache that may have no entry has none.
def Bounded (p : ScoringPipeline) (s : ScoringState) : Prop :=
  ∀ settings, p.cache = some settings → settings.maxEntries ≤ 0 → s.cache.entries = []

theorem within_empty (within : Within d other) (bare : other.entries = []) : d.entries = [] := by
  by_contra filled
  obtain ⟨entry,member⟩ := List.exists_mem_of_ne_nil _ filled
  have found := within entry.1 entry.2 ((OrderedDict.get?_entry d entry.1 entry.2).mp member)
  have inside := (OrderedDict.get?_entry other entry.1 entry.2).mpr found
  rw [bare] at inside
  cases inside

theorem storable_roomy (bounded : Bounded p s) (within : Within d s.cache) : Storable p r d ↔ Roomy p r := by
  constructor
  · intro storable settings uses enabled
    by_contra none
    exact none (storable settings uses enabled (within_empty within (bounded settings enabled (Int.not_lt.mp none))))
  · intro roomy settings uses enabled _
    exact roomy settings uses enabled

-- The request and the time of the actions that read the cache.
def looks : ScoringAction → Option (ScoringRequest × Rat)
  | .scoreSync r _ looked _ => some (r,looked)
  | .beginAsync r _ looked => some (r,looked)
  | _ => none

-- An action that makes a score of its own.
inductive Evaluates (p : ScoringPipeline) (s : ScoringState) :
    ScoringAction → ScoringRequest → Evaluation → UnifiedScore → Prop where
  | sync {r : ScoringRequest} (missed : ∀ index, ¬Live p r looked s index) (made : p.evaluateSync s.weights r.transaction e = .ok u) :
      Evaluates p s (.scoreSync r e looked stored) r e u
  | async {r : ScoringRequest} (made : p.evaluateAsync s.weights r.transaction e timeout = .ok u) :
      Evaluates p s (.finishAsync r e timeout stored) r e u

-- What an action that returns no score leaves.
structure Quiet (s : ScoringState) (done : Except ScoringError (Option Nat) × ScoringState) : Prop where
  returned : ∀ index, done.1 ≠ .ok (some index)
  cached : Within done.2.cache s.cache
  scores : done.2.scores = s.scores ∨ ∃ u, done.2.scores = s.scores ++ [u]

-- What an action that makes a score leaves: it is the last object, and may be cached.
structure Stored (s : ScoringState) (u : UnifiedScore) (done : Except ScoringError (Option Nat) × ScoringState) : Prop where
  returned : done.1 = .ok (some s.scores.length)
  cached : ∀ key entry, done.2.cache.get? key = some entry → entry.2 = s.scores.length ∨ s.cache.get? key = some entry
  scores : done.2.scores = s.scores ++ [u]

-- A call as an action: its score is returned.
def returning (done : Except ScoringError Nat × ScoringState) : Except ScoringError (Option Nat) × ScoringState :=
  (done.1.map some,done.2)

theorem store_stored (now : Rat) (room : Storable p r d) (within : Within d s.cache) :
    Stored s u (returning (p.store r now u {s with cache := d})) := by
  obtain ⟨after,kept,entries⟩ := store_kept (s := {s with cache := d}) u now room
  rw [kept]
  refine ⟨rfl,?_,rfl⟩
  intro key entry found
  rcases entries key entry found with rfl | old
  · exact .inl rfl
  · exact .inr (within key entry old)

theorem store_quiet (now : Rat) (full : ¬Storable p r d) (within : Within d s.cache) :
    Quiet s (returning (p.store r now u {s with cache := d})) := by
  obtain ⟨e,refused⟩ := store_refused (s := {s with cache := d}) u now full
  rw [refused]
  exact ⟨fun _ returned => (by cases returned),within,.inr ⟨u,rfl⟩⟩

theorem perform_hit (looking : looks action = some (r,looked)) (live : Live p r looked s index) :
    p.perform s action = (.ok (some index),served p r index s) := by
  cases action with
  | scoreSync request e time stored =>
    cases looking
    simp only [perform,scoreTransactionSync,lookUp_live live]
    rfl
  | beginAsync request e time =>
    cases looking
    simp only [perform,lookUp_live live]
  | finishAsync request e timeout stored => cases looking
  | updateWeights weights => cases looking
  | invalidateCache transactionId => cases looking

theorem perform_missed (e : Evaluation) (stored : Rat) (missed : ∀ index, ¬Live p r looked s index) :
    ∃ d, Within d s.cache ∧ p.perform s (.scoreSync r e looked stored) =
      returning (p.finishScore r stored (p.evaluateSync s.weights r.transaction e) {s with cache := d}) := by
  obtain ⟨d,looked,within⟩ := lookUp_missed missed
  refine ⟨d,within,?_⟩
  simp only [perform,scoreTransactionSync,looked]
  rfl

theorem perform_finishAsync (r : ScoringRequest) (e : Evaluation) (timeout : Option Progress) (stored : Rat) :
    p.perform s (.finishAsync r e timeout stored) =
      returning (p.finishScore r stored (p.evaluateAsync s.weights r.transaction e timeout) s) := rfl

-- A score that is made is stored from a state with the same objects and no more entries.
theorem perform_evaluates (evaluates : Evaluates p s action r e u) :
    ∃ d now, Within d s.cache ∧ p.perform s action = returning (p.store r now u {s with cache := d}) := by
  cases evaluates with
  | @sync u looked e stored r missed made =>
    obtain ⟨d,within,done⟩ := perform_missed e stored missed
    rw [made] at done
    exact ⟨d,stored,within,done⟩
  | @async e timeout u stored r made =>
    refine ⟨s.cache,stored,within_self s.cache,?_⟩
    rw [perform_finishAsync,made]
    rfl

theorem perform_stored (bounded : Bounded p s) (evaluates : Evaluates p s action r e u) (roomy : Roomy p r) :
    Stored s u (p.perform s action) := by
  obtain ⟨d,now,within,done⟩ := perform_evaluates evaluates
  rw [done]
  exact store_stored now ((storable_roomy bounded within).mpr roomy) within

theorem quiet_raised (within : Within d s.cache) : Quiet s (.error e,{s with cache := d}) :=
  ⟨fun _ returned => (by cases returned),within,.inl rfl⟩

-- A score that is made is returned, or nothing is when the cache refuses it.
theorem evaluates_cases (bounded : Bounded p s) (evaluates : Evaluates p s action r e u) :
    (Roomy p r ∧ Stored s u (p.perform s action)) ∨ Quiet s (p.perform s action) := by
  by_cases roomy : Roomy p r
  · exact .inl ⟨roomy,perform_stored bounded evaluates roomy⟩
  · obtain ⟨d,now,within,done⟩ := perform_evaluates evaluates
    rw [done]
    exact .inr (store_quiet now (fun storable => roomy ((storable_roomy bounded within).mp storable)) within)

theorem scoreSync_raised (missed : ∀ index, ¬Live p r looked s index) (raised : p.evaluateSync s.weights r.transaction e = .error error) :
    Quiet s (p.perform s (.scoreSync r e looked stored)) := by
  obtain ⟨d,within,done⟩ := perform_missed e stored missed
  rw [raised] at done
  rw [done]
  exact quiet_raised within

theorem beginAsync_missed (missed : ∀ index, ¬Live p r looked s index) : Quiet s (p.perform s (.beginAsync r e looked)) := by
  obtain ⟨d,looking,within⟩ := lookUp_missed missed
  simp only [perform,looking]
  exact ⟨fun _ returned => (by cases returned),within,.inl rfl⟩

theorem updateWeights_quiet (p : ScoringPipeline) (weights : Weights) (s : ScoringState) :
    Quiet s (p.perform s (.updateWeights weights)) := by
  refine ⟨?_,within_self s.cache,.inl rfl⟩
  intro index returned
  simp only [perform,updateWeights] at returned
  cases validated : p.validateWeights weights <;> rw [validated] at returned <;> cases returned

theorem invalidateCache_quiet (p : ScoringPipeline) (transactionId : Option String) (s : ScoringState) :
    Quiet s (p.perform s (.invalidateCache transactionId)) := by
  simp only [perform,invalidateCache]
  split
  · exact ⟨fun _ returned => (by cases returned),within_self s.cache,.inl rfl⟩
  · split
    next text chosen => exact ⟨fun _ returned => (by cases returned),erase_within s.cache text,.inl rfl⟩
    next => exact ⟨fun _ returned => (by cases returned),fun _ _ kept => (by cases kept),.inl rfl⟩

-- An action finds a score in the cache, or makes one and returns it, or returns none.
theorem perform_cases (bounded : Bounded p s) (action : ScoringAction) :
    (∃ r looked index, looks action = some (r,looked) ∧ Live p r looked s index) ∨
    (∃ r e u, Evaluates p s action r e u ∧ Roomy p r ∧ Stored s u (p.perform s action)) ∨
    Quiet s (p.perform s action) := by
  have evaluated : ∀ r e u, Evaluates p s action r e u →
      (∃ r e u, Evaluates p s action r e u ∧ Roomy p r ∧ Stored s u (p.perform s action)) ∨ Quiet s (p.perform s action) := by
    intro r e u evaluates
    rcases evaluates_cases bounded evaluates with ⟨roomy,stored⟩ | quiet
    · exact .inl ⟨r,e,u,evaluates,roomy,stored⟩
    · exact .inr quiet
  cases action with
  | scoreSync r e looked stored =>
    by_cases found : ∃ index, Live p r looked s index
    · obtain ⟨index,live⟩ := found
      exact .inl ⟨r,looked,index,rfl,live⟩
    · have missed := not_exists.mp found
      cases made : p.evaluateSync s.weights r.transaction e with
      | ok u => exact .inr (evaluated r e u (.sync missed made))
      | error error => exact .inr (.inr (scoreSync_raised missed made))
  | beginAsync r e looked =>
    by_cases found : ∃ index, Live p r looked s index
    · obtain ⟨index,live⟩ := found
      exact .inl ⟨r,looked,index,rfl,live⟩
    · exact .inr (.inr (beginAsync_missed (not_exists.mp found)))
  | finishAsync r e timeout stored =>
    cases made : p.evaluateAsync s.weights r.transaction e timeout with
    | ok u => exact .inr (evaluated r e u (.async made))
    | error error =>
      rw [perform_finishAsync,made]
      exact .inr (.inr (quiet_raised (within_self s.cache)))
  | updateWeights weights => exact .inr (.inr (updateWeights_quiet p weights s))
  | invalidateCache transactionId => exact .inr (.inr (invalidateCache_quiet p transactionId s))

theorem served_within (r : ScoringRequest) (index : Nat) (s : ScoringState) : Within (served p r index s).cache s.cache := by
  intro key entry found
  rw [served,OrderedDict.get?_moveToEnd] at found
  exact found

theorem store_bounded (bounded : Bounded p s) : Bounded p (p.store r now u s).2 := by
  intro settings enabled none
  have bare := bounded settings enabled none
  unfold store
  split
  next other uses same =>
    cases enabled.symm.trans same
    rw [cachePut_refused bare none]
    exact bare
  next => exact bare

theorem bounded_within (bounded : Bounded p s) (within : Within t.cache s.cache) : Bounded p t :=
  fun settings enabled none => within_empty within (bounded settings enabled none)

theorem step_bounded (bounded : Bounded p s) (action : ScoringAction) : Bounded p (p.step s action) := by
  unfold step
  rcases perform_cases bounded action with ⟨r,looked,index,looking,live⟩ | ⟨r,e,u,evaluates,-,-⟩ | quiet
  · rw [perform_hit looking live]
    exact bounded_within bounded (served_within r index s)
  · obtain ⟨d,now,within,done⟩ := perform_evaluates evaluates
    rw [done]
    exact store_bounded (bounded_within bounded within)
  · exact bounded_within bounded quiet.cached

theorem started_bounded (p : ScoringPipeline) (weights : Weights) : Bounded p (started weights) := fun _ _ _ => rfl

-- An object that is there stays as it is when one is added.
theorem kept_score {s t : ScoringState} {place : Nat} (grown : t.scores = s.scores ∨ ∃ u, t.scores = s.scores ++ [u])
    (found : s.scores[place]? = some v) : t.scores[place]? = some v := by
  rcases grown with same | ⟨u,more⟩
  · rw [same]
    exact found
  · rw [more]
    exact (List.getElem?_append_left (List.getElem?_eq_some_iff.mp found).1).trans found

end ScoringPipeline
end RiskPulse
