import RiskPulse.VelocityCalculator
import RiskPulse.Library.Recency
import RiskPulse.Library.Runs

namespace RiskPulse.VelocityCalculator
variable {κ σ τ : Type} [DecidableEq κ] (c : VelocityCalculator κ σ τ)

-- The customer a call evaluates, where it gets as far as the profile.
def evaluated (transaction : Record) : Option κ := (c.customer transaction).filter fun _ => (c.parse transaction).toOption.isSome

-- The customers with a profile, the one made first at the front.
def admitted (keys : List κ) (k : κ) : List κ :=
  if k ∈ keys then keys else if c.maxProfiles ≤ keys.length then keys.tail ++ [k] else keys ++ [k]

theorem keys_set_held (d : OrderedDict κ σ) (k : κ) (v : σ) (held : k ∈ d.keys) : (d.set k v).keys = d.keys := by
  rw [OrderedDict.keys,OrderedDict.set,OrderedDict.insertEntry_keys]
  exact if_pos held

theorem getOrCreateProfile_keys (positive : 1 ≤ c.maxProfiles) (k : κ) (profiles : OrderedDict κ σ) :
    ∃ profile held, c.getOrCreateProfile k profiles = .ok (profile,held) ∧ held.keys = c.admitted profiles.keys k ∧ k ∈ held.keys := by
  unfold getOrCreateProfile admitted
  have counted : profiles.keys.length = profiles.entries.length := List.length_map _
  cases found : profiles.get? k with
  | some profile =>
    have present : k ∈ profiles.keys := (OrderedDict.mem_keys _ _).mpr ⟨profile,found⟩
    exact ⟨profile,profiles,rfl,(if_pos present).symm,present⟩
  | none =>
    have absent : k ∉ profiles.keys := (OrderedDict.get?_eq_none _ _).mp found
    rw [if_neg absent,counted]
    by_cases full : c.maxProfiles ≤ profiles.entries.length
    · have left : k ∉ profiles.popFirst.keys := mt (OrderedDict.popFirst_keys _ _) absent
      have first : profiles.popFirst.keys = profiles.keys.tail := List.map_tail
      refine ⟨c.fresh,profiles.popFirst.set k c.fresh,?_,?_,?_⟩
      · obtain ⟨first,rest,split⟩ : ∃ first rest, profiles.entries = first :: rest := by
          apply List.exists_cons_of_ne_nil
          intro empty
          rw [empty,List.length_nil] at full
          omega
        rw [if_pos full,split]
      · rw [if_pos full,OrderedDict.keys_set_fresh _ _ _ left,first]
      · rw [OrderedDict.keys_set_fresh _ _ _ left]
        exact List.mem_append_right _ List.mem_cons_self
    · refine ⟨c.fresh,profiles.set k c.fresh,by rw [if_neg full],?_,?_⟩
      · rw [if_neg full,OrderedDict.keys_set_fresh _ _ _ absent]
      · rw [OrderedDict.keys_set_fresh _ _ _ absent]
        exact List.mem_append_right _ List.mem_cons_self

theorem evaluate_keys (positive : 1 ≤ c.maxProfiles) (transaction : Record) (profiles : OrderedDict κ σ) :
    (c.evaluate transaction profiles).2.keys = ((c.evaluated transaction).map (c.admitted profiles.keys)).getD profiles.keys := by
  unfold evaluate evaluated
  cases c.customer transaction with
  | none => rfl
  | some k =>
    cases c.parse transaction with
    | error e => rfl
    | ok parsed =>
      obtain ⟨profile,held,made,keys,present⟩ := c.getOrCreateProfile_keys positive k profiles
      simp only [made,Except.toOption,Option.isSome_some,Option.filter_some,if_true,Option.map_some,Option.getD_some]
      split
      · exact (keys_set_held _ _ _ present).trans keys
      · exact (keys_set_held _ _ _ present).trans keys

-- The profiles, and the customers evaluated so far in their order.
structure Course (κ σ : Type) where
  profiles : OrderedDict κ σ
  history : List κ

namespace Course

def start : Course κ σ := ⟨.empty,[]⟩

def step (s : Course κ σ) (transaction : Record) : Course κ σ :=
  ⟨(c.evaluate transaction s.profiles).2,s.history ++ (c.evaluated transaction).toList⟩

-- The profiles are at most so many, they are those of the customers evaluated last, and
-- where one that was evaluated has none, the others were all evaluated later.
structure HoldsRecent (s : Course κ σ) : Prop where
  few : (s.profiles.entries.length : Int) ≤ c.maxProfiles
  recent : ∀ k, k ∈ s.profiles.keys ↔ k ∈ Recency.kept c.maxProfiles.toNat s.history
  later : ∀ k ∈ s.history, k ∉ s.profiles.keys → ∀ other ∈ s.profiles.keys,
    ∃ earlier since, s.history = earlier ++ k :: since ∧ k ∉ since ∧ other ∈ since

-- At capacity, for a customer without a profile, the profile made first is that of the
-- customer evaluated least recently.
def OldestIdle (s : Course κ σ) (transaction : Record) : Prop :=
  ∀ k ∈ c.evaluated transaction, k ∉ s.profiles.keys → c.maxProfiles ≤ s.profiles.entries.length →
    s.profiles.keys.head? = (Recency.kept c.maxProfiles.toNat s.history).getLast?

section Step
variable {c} {s : Course κ σ}

theorem holdsRecent_iff (s : Course κ σ) : HoldsRecent c s ↔ (s.profiles.keys.length : Int) ≤ c.maxProfiles ∧
    ∀ k, k ∈ s.profiles.keys ↔ k ∈ Recency.kept c.maxProfiles.toNat s.history := by
  rw [OrderedDict.keys,List.length_map]
  constructor
  · intro holds
    exact ⟨holds.few,holds.recent⟩
  · intro ⟨few,recent⟩
    refine ⟨few,recent,?_⟩
    intro k used gone other held
    exact Recency.kept_later _ _ used (mt (recent k).mpr gone) ((recent other).mp held)

theorem HoldsRecent.counted (holds : HoldsRecent c s) :
    s.profiles.keys.length = (Recency.kept c.maxProfiles.toNat s.history).length := by
  have once : (Recency.kept c.maxProfiles.toNat s.history).Nodup := (Recency.recent_nodup s.history).sublist (List.take_sublist _ _)
  exact ((List.perm_ext_iff_of_nodup s.profiles.unique once).mpr holds.recent).length_eq

-- One evaluation keeps the profiles those of the customers evaluated last exactly when the
-- one that goes is the one evaluated least recently.
theorem HoldsRecent.step (positive : 1 ≤ c.maxProfiles) (holds : HoldsRecent c s) (transaction : Record) :
    HoldsRecent c (s.step c transaction) ↔ s.OldestIdle c transaction := by
  obtain ⟨size,whole⟩ : ∃ size : Nat, c.maxProfiles = size + 1 := ⟨(c.maxProfiles - 1).toNat,by omega⟩
  have capacity : c.maxProfiles.toNat = size + 1 := by omega
  have keys : (s.step c transaction).profiles.keys = _ := c.evaluate_keys positive transaction s.profiles
  have history : (s.step c transaction).history = s.history ++ (c.evaluated transaction).toList := rfl
  have counted := holds.counted
  have recent := holds.recent
  have few := ((holdsRecent_iff s).mp holds).1
  have entries : s.profiles.keys.length = s.profiles.entries.length := List.length_map _
  rw [holdsRecent_iff,keys,history,OldestIdle,capacity,← entries]
  rw [capacity] at counted recent
  cases c.evaluated transaction with
  | none =>
    rw [Option.toList_none,List.append_nil]
    exact ⟨fun _ k given => absurd given (by simp),fun _ => ⟨few,recent⟩⟩
  | some k =>
    simp only [Option.map_some,Option.getD_some,Option.toList_some,Option.mem_def,Option.some_inj,forall_eq']
    unfold admitted
    by_cases held : k ∈ s.profiles.keys
    · rw [if_pos held,Recency.kept_hit size s.history k ((recent k).mp held)]
      refine iff_of_true ⟨few,?_⟩ fun absent => absurd held absent
      intro other
      rw [recent other,List.mem_cons,List.mem_filter]
      by_cases same : other = k
      · exact iff_of_true (same ▸ (recent k).mp held) (.inl same)
      · simp [same]
    · have absent : k ∉ Recency.kept (size + 1) s.history := mt (recent k).mpr held
      rw [if_neg held,Recency.kept_miss size s.history k absent]
      by_cases full : c.maxProfiles ≤ s.profiles.keys.length
      · have most := Recency.kept_length (size + 1) s.history
        have last : (k :: Recency.kept (size + 1) s.history).take (size + 1) = k :: (Recency.kept (size + 1) s.history).dropLast := by
          rw [List.take_succ_cons,List.dropLast_eq_take,show (Recency.kept (size + 1) s.history).length - 1 = size by omega]
        have once : (Recency.kept (size + 1) s.history).Nodup := (Recency.recent_nodup s.history).sublist (List.take_sublist _ _)
        rw [if_pos full,last]
        have ends : (∀ other, other ∈ s.profiles.keys.tail ↔ other ∈ (Recency.kept (size + 1) s.history).dropLast) ↔ _ :=
          Recency.ends_same s.profiles.unique once recent
        have out : k ∉ s.profiles.keys.tail := mt List.mem_of_mem_tail held
        have dropped : k ∉ (Recency.kept (size + 1) s.history).dropLast := mt (List.dropLast_subset _ ·) absent
        constructor
        · intro ⟨_,same⟩ _ _
          refine ends.mp fun other => ?_
          by_cases here : other = k
          · exact iff_of_false (here ▸ out) (here ▸ dropped)
          · simpa [here] using same other
        · intro oldest
          refine ⟨by rw [List.length_append,List.length_tail,List.length_singleton]; omega,?_⟩
          intro other
          rw [List.mem_append,List.mem_singleton,List.mem_cons,ends.mpr (oldest held full) other,or_comm]
      · rw [if_neg full,List.take_of_length_le (by rw [List.length_cons]; omega)]
        refine iff_of_true ⟨by rw [List.length_append,List.length_singleton]; omega,?_⟩ fun _ crowded => absurd crowded full
        intro other
        rw [List.mem_append,List.mem_singleton,List.mem_cons,recent other,or_comm]

theorem start_holds (positive : 1 ≤ c.maxProfiles) : HoldsRecent c (start : Course κ σ) := by
  refine (holdsRecent_iff _).mpr ⟨?_,?_⟩
  · exact le_trans (le_of_eq rfl) (le_trans zero_le_one positive)
  · intro k
    rw [Recency.kept]
    exact iff_of_false (by intro member; cases member) (by intro member; cases List.mem_of_mem_take member)

end Step

-- After every evaluation of a sequence the profiles are those of the customers evaluated
-- last exactly when each one that went was the one evaluated least recently.
theorem eviction_law (positive : 1 ≤ c.maxProfiles) (transactions : List Record) :
    Runs.Along (step c) (fun s transaction => HoldsRecent c (s.step c transaction)) start transactions ↔
      Runs.Along (step c) (OldestIdle c) (start : Course κ σ) transactions := by
  constructor
  · exact Runs.along_gives (fun _ _ _ kept => kept) (fun _ transaction holds kept => (holds.step positive transaction).mp kept)
      (start_holds positive)
  · exact Runs.along_gives (fun _ transaction holds oldest => (holds.step positive transaction).mpr oldest)
      (fun _ transaction holds oldest => (holds.step positive transaction).mpr oldest) (start_holds positive)

def callOf (customerId : String) : Record := .ofList [("customer_id",.str customerId)]

def named (transaction : Record) : Option String :=
  match transaction.get? "customer_id" with
  | some (.str s) => if s = "" then none else some s
  | _ => none

def ofSize (maxProfiles : Int) : VelocityCalculator String CustomerVelocityProfile.ProfileState ProfiledTransaction :=
  ofProfiles FloatOperations.exact named (fun _ => .ok ⟨.finite 1,"shop",0,0⟩) none maxProfiles

instance (c : VelocityCalculator κ σ τ) (s : Course κ σ) (transaction : Record) : Decidable (s.OldestIdle c transaction) := by
  unfold OldestIdle
  infer_instance

theorem eviction_law_three : (1 : Int) ≤ 2 ∧ Runs.Along (step (ofSize 2)) (fun s transaction => HoldsRecent (ofSize 2) (s.step (ofSize 2) transaction))
    start [callOf "a",callOf "b",callOf "b",callOf "c"] := by
  have law := eviction_law (ofSize 2) (by decide) [callOf "a",callOf "b",callOf "b",callOf "c"]
  exact ⟨by decide,law.mpr (by decide +kernel)⟩

-- The customer that was evaluated again goes, and the one that was not is kept.
theorem active_dropped : ¬HoldsRecent (ofSize 2) (Runs.run (step (ofSize 2)) start [callOf "a",callOf "b",callOf "a",callOf "c"]) := by
  intro holds
  have idle := (holds.recent "b").mp (by decide +kernel)
  exact absurd idle (by decide +kernel)

end Course
end RiskPulse.VelocityCalculator
