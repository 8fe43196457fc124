import Mathlib.Algebra.Order.Field.Basic
import Mathlib.Tactic.Linarith
import Mathlib.Tactic.Positivity
import Mathlib.Tactic.Ring

-- A bucket of tokens that fills at a rate up to its capacity. A request takes a token when
-- a whole one is there.
namespace TokenLevel
variable {K : Type} [Field K] [LinearOrder K] [IsStrictOrderedRing K]

structure Level (K : Type) where
  capacity : K
  rate : K
  tokens : K
  since : K

namespace Level

def refilled (now : K) (b : Level K) : Level K := {b with tokens := min b.capacity (b.tokens + (now - b.since) * b.rate), since := now}

def request (now : K) (b : Level K) : Bool × Level K :=
  let filled := b.refilled now
  if 1 ≤ filled.tokens then (true,{filled with tokens := filled.tokens - 1}) else (false,filled)

-- The level holds no less than nothing and no more than fits.
structure Sound (b : Level K) : Prop where
  filling : 0 ≤ b.rate
  low : 0 ≤ b.tokens
  high : b.tokens ≤ b.capacity

def after (b : Level K) (times : List K) : Level K := times.foldl (fun b now => (b.request now).2) b

-- The times of the requests that were admitted.
def admitted (b : Level K) : List K → List K
  | [] => []
  | now :: later =>
    if (b.request now).1 = true then now :: (b.request now).2.admitted later else (b.request now).2.admitted later

variable {b : Level K} {now : K}

theorem refilled_sound (sound : Sound b) (later : b.since ≤ now) : Sound (b.refilled now) := by
  have gained : 0 ≤ (now - b.since) * b.rate := mul_nonneg (sub_nonneg.mpr later) sound.filling
  refine ⟨sound.filling,le_min ?_ ?_,min_le_left _ _⟩
  · exact sound.low.trans sound.high
  · exact add_nonneg sound.low gained

omit [IsStrictOrderedRing K] in
-- A request leaves the filled level, less one token when it was admitted.
theorem request_cases (b : Level K) (now : K) :
    (b.request now = (true,{b.refilled now with tokens := (b.refilled now).tokens - 1}) ∧ 1 ≤ (b.refilled now).tokens) ∨
      (b.request now = (false,b.refilled now) ∧ (b.refilled now).tokens < 1) := by
  unfold request
  simp only
  split
  · rename_i enough
    exact .inl ⟨rfl,enough⟩
  · rename_i short
    exact .inr ⟨rfl,not_le.mp short⟩

theorem request_sound (sound : Sound b) (later : b.since ≤ now) : Sound (b.request now).2 := by
  have filled := refilled_sound sound later
  rcases b.request_cases now with ⟨ran,enough⟩ | ⟨ran,_⟩
  · rw [ran]
    refine ⟨filled.filling,sub_nonneg.mpr enough,?_⟩
    exact (sub_le_self _ zero_le_one).trans filled.high
  · rw [ran]
    exact filled

omit [IsStrictOrderedRing K] in
theorem request_since (b : Level K) (now : K) :
    (b.request now).2.since = now ∧ (b.request now).2.capacity = b.capacity ∧ (b.request now).2.rate = b.rate := by
  rcases b.request_cases now with ⟨ran,_⟩ | ⟨ran,_⟩
  · rw [ran]
    exact ⟨rfl,rfl,rfl⟩
  · rw [ran]
    exact ⟨rfl,rfl,rfl⟩

omit [IsStrictOrderedRing K] in
theorem admitted_cons (b : Level K) (now : K) (later : List K) :
    b.admitted (now :: later) = (if (b.request now).1 = true then [now] else []) ++ (b.request now).2.admitted later := by
  rw [admitted]
  split <;> rfl

omit [IsStrictOrderedRing K] in
theorem admitted_sublist (b : Level K) (times : List K) : (b.admitted times).Sublist times := by
  induction times generalizing b with
  | nil => exact .slnil
  | cons now later ih =>
    rw [admitted]
    split
    · exact (ih _).cons_cons now
    · exact (ih _).cons now

omit [IsStrictOrderedRing K] in
theorem admitted_none (b : Level K) (times : List K) (p : K → Prop) [DecidablePred p] (outside : ∀ t ∈ times, ¬p t) :
    (b.admitted times).filter (fun t => decide (p t)) = [] := by
  apply List.filter_eq_nil_iff.mpr
  intro t member
  simpa using outside t ((b.admitted_sublist times).subset member)

-- What is admitted up to a time was there or has come since.
theorem admitted_until (sound : Sound b) (times : List K) (ordered : (b.since :: times).Pairwise (· ≤ ·)) (last : K) :
    (((b.admitted times).filter fun t => decide (t ≤ last)).length : K) ≤ b.tokens + max 0 (last - b.since) * b.rate := by
  have never : (0 : K) ≤ b.tokens + max 0 (last - b.since) * b.rate :=
    add_nonneg sound.low (mul_nonneg (le_max_left _ _) sound.filling)
  induction times generalizing b with
  | nil =>
    rw [admitted,List.filter_nil,List.length_nil,Nat.cast_zero]
    exact never
  | cons now later ih =>
    obtain ⟨since,further⟩ := List.pairwise_cons.mp ordered
    have first := since now List.mem_cons_self
    by_cases past : last < now
    · have outside : ∀ t ∈ now :: later, ¬t ≤ last := by
        intro t member
        rcases List.mem_cons.mp member with rfl | after
        · exact not_le.mpr past
        · exact not_le.mpr (past.trans_le ((List.pairwise_cons.mp further).1 t after))
      rw [b.admitted_none (now :: later) (· ≤ last) outside,List.length_nil,Nat.cast_zero]
      exact never
    · have before := not_lt.mp past
      obtain ⟨same,_,rate⟩ := b.request_since now
      have next := request_sound sound first
      have rest := ih next (by rw [same]; exact further)
        (add_nonneg next.low (mul_nonneg (le_max_left _ _) next.filling))
      rw [same,rate,max_eq_right (sub_nonneg.mpr before)] at rest
      have filled : (b.refilled now).tokens ≤ b.tokens + (now - b.since) * b.rate := min_le_right _ _
      have split : last - b.since = (last - now) + (now - b.since) := by ring
      rw [max_eq_right (sub_nonneg.mpr (first.trans before)),split,add_mul,admitted_cons,List.filter_append,List.length_append,
        Nat.cast_add]
      rcases b.request_cases now with ⟨ran,enough⟩ | ⟨ran,_⟩
      · rw [ran] at rest ⊢
        have one : ((List.filter (fun t => decide (t ≤ last)) [now]).length : K) = 1 := by
          simp [before]
        rw [if_pos rfl,one]
        simp only at rest ⊢
        linarith
      · rw [ran] at rest ⊢
        simp only [Bool.false_eq_true,if_false,List.filter_nil,List.length_nil,Nat.cast_zero,zero_add]
        linarith

theorem refilled_twice (sound : Sound b) (later : b.since ≤ now) : (b.refilled now).refilled now = b.refilled now := by
  have filled := refilled_sound sound later
  have again : min b.capacity ((b.refilled now).tokens + (now - now) * b.rate) = (b.refilled now).tokens := by
    rw [sub_self,zero_mul,add_zero]
    exact min_eq_right filled.high
  unfold refilled at again ⊢
  simp only at again ⊢
  rw [again]

-- In any interval no more is admitted than fits and what comes during it.
theorem admitted_window (sound : Sound b) (times : List K) (ordered : (b.since :: times).Pairwise (· ≤ ·)) (start duration : K)
    (some : 0 ≤ duration) :
    (((b.admitted times).filter fun t => decide (start ≤ t ∧ t ≤ start + duration)).length : K) ≤ b.capacity + b.rate * duration := by
  have never : (0 : K) ≤ b.capacity + b.rate * duration := add_nonneg (sound.low.trans sound.high) (mul_nonneg sound.filling some)
  induction times generalizing b with
  | nil =>
    rw [admitted,List.filter_nil,List.length_nil,Nat.cast_zero]
    exact never
  | cons now later ih =>
    obtain ⟨since,further⟩ := List.pairwise_cons.mp ordered
    have first := since now List.mem_cons_self
    obtain ⟨same,capacity,rate⟩ := b.request_since now
    by_cases early : now < start
    · have rest := ih (request_sound sound first) (by rw [same]; exact further) (by rw [capacity,rate]; exact never)
      have skipped : (if (b.request now).1 = true then [now] else []).filter (fun t => decide (start ≤ t ∧ t ≤ start + duration)) = [] := by
        split
        · exact List.filter_cons_of_neg (by simp [early])
        · rfl
      rw [admitted_cons,List.filter_append,skipped,List.nil_append]
      rw [capacity,rate] at rest
      exact rest
    · have begun := not_lt.mp early
      have filled := refilled_sound sound first
      have one : b.admitted (now :: later) = (b.refilled now).admitted (now :: later) := by
        have again : (b.refilled now).request now = b.request now := by
          unfold request
          rw [refilled_twice sound first]
        rw [admitted_cons,admitted_cons,again]
      have until_ := admitted_until filled (now :: later)
        (List.pairwise_cons.mpr ⟨fun t member => (List.mem_cons.mp member).elim (fun here => here ▸ le_rfl)
          fun after => (List.pairwise_cons.mp further).1 t after,further⟩) (start + duration)
      have fewer : ((b.admitted (now :: later)).filter fun t => decide (start ≤ t ∧ t ≤ start + duration)).length ≤
          (((b.refilled now).admitted (now :: later)).filter fun t => decide (t ≤ start + duration)).length := by
        rw [one]
        apply List.Sublist.length_le
        apply List.monotone_filter_right
        intro t inside
        exact decide_eq_true (of_decide_eq_true inside).2
      have counted : (((b.admitted (now :: later)).filter fun t => decide (start ≤ t ∧ t ≤ start + duration)).length : K) ≤
          (b.refilled now).tokens + max 0 (start + duration - now) * b.rate := (Nat.cast_le.mpr fewer).trans until_
      have time : max 0 (start + duration - now) ≤ duration := max_le some (by linarith)
      have gained := mul_le_mul_of_nonneg_right time sound.filling
      have most : (b.refilled now).tokens ≤ b.capacity := filled.high
      linarith

-- Who waits until a token has come is admitted.
theorem waited_admitted (sound : Sound b) (whole : 1 ≤ b.capacity) (wait : K) (enough : 1 ≤ wait * b.rate) (waited : b.since + wait ≤ now) :
    (b.request now).1 = true := by
  have gained := mul_le_mul_of_nonneg_right (show wait ≤ now - b.since by linarith) sound.filling
  have filled : 1 ≤ (b.refilled now).tokens := le_min whole (by linarith [sound.low])
  rcases b.request_cases now with ⟨ran,_⟩ | ⟨_,short⟩
  · rw [ran]
  · exact absurd filled (not_le.mpr short)

end Level
end TokenLevel
