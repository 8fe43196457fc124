import Mathlib.Data.List.Induction
import RiskPulse.Library.SlidingWindow

-- A counter whose expiry each event puts off counts a burst: the events since one came a
-- span or more after the one before it. Beside it the counter that is not put off, of fixed
-- windows.
namespace Bursts
open SlidingWindow
variable {τ : Type} [AddCommGroup τ] [LinearOrder τ] {span now : τ} {log : List τ}

structure Burst (τ : Type) where
  first : τ
  last : τ
  count : Nat

def arrive (span : τ) (burst : Option (Burst τ)) (t : τ) : Option (Burst τ) :=
  match burst with
  | some b => if t < b.last + span then some ⟨b.first,t,b.count + 1⟩ else some ⟨t,t,1⟩
  | none => some ⟨t,t,1⟩

def bursts (span : τ) (log : List τ) : Option (Burst τ) := log.foldl (arrive span) none

def reading (span now : τ) (burst : Option (Burst τ)) : Nat :=
  match burst with
  | some b => if now < b.last + span then b.count else 0
  | none => 0

structure FixedWindow (τ : Type) where
  start : τ
  count : Nat

def accept (span : τ) (window : Option (FixedWindow τ)) (t : τ) : Option (FixedWindow τ) :=
  match window with
  | some w => if t < w.start + span then some ⟨w.start,w.count + 1⟩ else some ⟨t,1⟩
  | none => some ⟨t,1⟩

def inWindow (span now : τ) (log : List τ) : Nat :=
  match log.foldl (accept span) none with
  | some w => if now < w.start + span then w.count else 0
  | none => 0

theorem bursts_append (span : τ) (log : List τ) (t : τ) : bursts span (log ++ [t]) = arrive span (bursts span log) t := by
  rw [bursts,List.foldl_append]
  rfl

-- What an event makes of the counter.
theorem arrive_counts (span now : τ) (burst : Option (Burst τ)) :
    ∃ first, arrive span burst now = some ⟨first,now,reading span now burst + 1⟩ := by
  cases burst with
  | none => exact ⟨now,rfl⟩
  | some b =>
    unfold arrive reading
    by_cases live : now < b.last + span
    · simp only [if_pos live]
      exact ⟨b.first,rfl⟩
    · simp only [if_neg live]
      exact ⟨now,rfl⟩

-- The log is what came before the burst, a span or more, and the burst's own events.
structure Ends (span : τ) (log : List τ) (b : Burst τ) : Prop where
  split : ∃ earlier own, log = earlier ++ own ∧ own.length = b.count ∧ (∀ t ∈ own, b.first ≤ t) ∧ ∀ t ∈ earlier, t + span ≤ b.first
  latest : ∀ t ∈ log, t ≤ b.last
  there : b.last ∈ log
  begun : b.first ≤ b.last

omit [AddCommGroup τ] [LinearOrder τ] in
theorem mem_snoc (member : t ∈ log ++ [now]) : t ∈ log ∨ t = now := by
  rcases List.mem_append.mp member with old | new
  · exact .inl old
  · exact .inr (List.mem_singleton.mp new)

theorem ends_new (apart : ∀ t ∈ log, t + span ≤ now) (before : ∀ t ∈ log, t ≤ now) : Ends span (log ++ [now]) ⟨now,now,1⟩ := by
  refine ⟨⟨log,[now],rfl,rfl,?_,apart⟩,?_,List.mem_append_right _ (List.mem_singleton_self now),le_refl now⟩
  · intro t member
    exact le_of_eq (List.mem_singleton.mp member).symm
  · intro t member
    rcases mem_snoc member with old | rfl
    · exact before t old
    · exact le_refl t

theorem ends_longer (ends : Ends span log b) (before : ∀ t ∈ log, t ≤ now) : Ends span (log ++ [now]) ⟨b.first,now,b.count + 1⟩ := by
  have after : b.first ≤ now := ends.begun.trans (before _ ends.there)
  obtain ⟨earlier,own,rfl,length,since,old⟩ := ends.split
  refine ⟨⟨earlier,own ++ [now],List.append_assoc _ _ _,?_,?_,old⟩,?_,List.mem_append_right _ (List.mem_singleton_self now),after⟩
  · rw [List.length_append,length]
    rfl
  · intro t member
    rcases mem_snoc member with inside | rfl
    · exact since t inside
    · exact after
  · intro t member
    rcases mem_snoc member with inside | rfl
    · exact before t inside
    · exact le_refl t

theorem bursts_none (none : bursts span log = none) : log = [] := by
  rcases List.eq_nil_or_concat log with empty | ⟨init,t,rfl⟩
  · exact empty
  · obtain ⟨first,some⟩ := arrive_counts span t (bursts span init)
    rw [List.concat_eq_append,bursts_append,some] at none
    cases none

variable [IsOrderedAddMonoid τ]

theorem bursts_end (sorted : log.Pairwise (· ≤ ·)) (found : bursts span log = some b) : Ends span log b := by
  induction log using List.reverseRecOn generalizing b with
  | nil => cases found
  | append_singleton log now ih =>
    obtain ⟨prior,_,before⟩ := List.pairwise_append.mp sorted
    have earlier : ∀ t ∈ log, t ≤ now := fun t member => before t member now (List.mem_singleton_self now)
    rw [bursts_append] at found
    cases was : bursts span log with
    | none =>
      have empty := bursts_none was
      subst log
      cases found
      exact ends_new (fun _ member => by cases member) fun _ member => by cases member
    | some p =>
      have ends := ih prior was
      rw [was] at found
      unfold arrive at found
      by_cases live : now < p.last + span
      · simp only [if_pos live] at found
        cases found
        exact ends_longer ends earlier
      · simp only [if_neg live] at found
        cases found
        refine ends_new ?_ earlier
        intro t member
        exact (add_le_add_left (ends.latest t member) span).trans (not_lt.mp live)

-- A call comes less than a span after the first event of a burst that is still on.
def Prompt (span now : τ) (burst : Option (Burst τ)) : Prop := ∀ b, burst = some b → now < b.last + span → now < b.first + span

instance (span now : τ) : (burst : Option (Burst τ)) → Decidable (Prompt span now burst)
  | none => isTrue fun _ none => by cases none
  | some b =>
    if later : now < b.last + span → now < b.first + span then
      isTrue fun _ same => by
        cases same
        exact later
    else isFalse fun prompt => later (prompt b rfl)

-- Where it does, the counter is that of the window that ends with it.
theorem reading_recent (sorted : log.Pairwise (· ≤ ·)) (before : ∀ t ∈ log, t ≤ now) (prompt : Prompt span now (bursts span log)) :
    reading span now (bursts span log) = (recent span now log).length := by
  cases found : bursts span log with
  | none =>
    cases bursts_none found
    rfl
  | some b =>
    have ends := bursts_end sorted found
    unfold reading
    by_cases live : now < b.last + span
    · obtain ⟨earlier,own,rfl,length,since,old⟩ := ends.split
      have soon := prompt b found live
      have gone : recent span now earlier = [] := by
        apply recent_expired
        intro t member
        exact (old t member).trans (ends.begun.trans (before _ ends.there))
      have here : recent span now own = own := by
        apply List.filter_eq_self.mpr
        intro t member
        exact decide_eq_true (lt_of_lt_of_le (sub_lt_iff_lt_add.mpr soon) (since t member))
      simp only [if_pos live]
      rw [recent_append,gone,here,List.nil_append,length]
    · have gone : recent span now log = [] := by
        apply recent_expired
        intro t member
        exact (add_le_add_left (ends.latest t member) span).trans (not_lt.mp live)
      simp only [if_neg live]
      rw [gone]
      rfl

-- The same of the counter that an event has just raised.
theorem arrive_recent (positive : 0 < span) (sorted : log.Pairwise (· ≤ ·)) (before : ∀ t ∈ log, t ≤ now)
    (prompt : Prompt span now (bursts span log)) : reading span now (bursts span log) + 1 = (recent span now (log ++ [now])).length := by
  have fresh : recent span now [now] = [now] := by
    apply List.filter_eq_self.mpr
    intro t member
    cases List.mem_singleton.mp member
    exact decide_eq_true (sub_lt_self now positive)
  rw [reading_recent sorted before prompt,recent_append,fresh,List.length_append]
  rfl

end Bursts
