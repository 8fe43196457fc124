import Mathlib.Algebra.Order.Group.Basic
import Mathlib.Algebra.Order.Sub.Basic
import Mathlib.Data.List.Basic
import Mathlib.Data.List.TakeWhile

-- Logs of times, written in order, read through a window that slides along. The
-- window that ends now holds the times after now - span.
namespace SlidingWindow
variable {τ : Type} [AddCommGroup τ] [LinearOrder τ] {span now : τ} {kept log : List τ}

def recent (span now : τ) (log : List τ) : List τ := log.filter fun t => decide (now - span < t)

-- The window at any position, also one the log has times after.
def within (span now : τ) (log : List τ) : List τ := log.filter fun t => decide (now - span < t ∧ t ≤ now)

theorem mem_recent (span now : τ) (log : List τ) (t : τ) : t ∈ recent span now log ↔ t ∈ log ∧ now - span < t := by
  simp [recent]

theorem recent_append (span now : τ) (first later : List τ) :
    recent span now (first ++ later) = recent span now first ++ recent span now later := List.filter_append ..

theorem within_sublist {whole : List τ} (part : log.Sublist whole) (span position : τ) :
    (within span position log).length ≤ (within span position whole).length := (part.filter _).length_le

-- What is kept of a log stands for the log in every window that ends from now on.
def Tracks (span now : τ) (kept log : List τ) : Prop := ∀ later, now ≤ later → recent span later kept = recent span later log

theorem tracks_self (span now : τ) (log : List τ) : Tracks span now log log := fun _ _ => rfl

theorem Tracks.later {moved : τ} (tracks : Tracks span now kept log) (after : now ≤ moved) : Tracks span moved kept log :=
  fun further beyond => tracks further (after.trans beyond)

theorem Tracks.add (tracks : Tracks span now kept log) (t : τ) : Tracks span now (kept ++ [t]) (log ++ [t]) := by
  intro later after
  rw [recent_append,recent_append,tracks later after]

variable [IsOrderedAddMonoid τ]

theorem recent_recent (span : τ) {earlier later : τ} (after : earlier ≤ later) (log : List τ) :
    recent span later (recent span earlier log) = recent span later log := by
  rw [recent,recent,List.filter_filter]
  apply List.filter_congr
  intro t _
  have moved : earlier - span ≤ later - span := sub_le_sub_right after span
  simp only [Bool.and_eq_decide,decide_eq_true_eq,decide_eq_decide]
  exact ⟨And.left,fun fresh => ⟨fresh,lt_of_le_of_lt moved fresh⟩⟩

theorem recent_shrinks (span : τ) {earlier later : τ} (after : earlier ≤ later) (log : List τ) :
    (recent span later log).length ≤ (recent span earlier log).length := by
  rw [← recent_recent span after log]
  exact List.length_filter_le _ _

theorem recent_expired (old : ∀ t ∈ log, t + span ≤ now) : recent span now log = [] := by
  apply List.filter_eq_nil_iff.mpr
  intro t member fresh
  exact absurd (of_decide_eq_true fresh) (not_lt.mpr (le_sub_iff_add_le.mpr (old t member)))

theorem Tracks.prune (tracks : Tracks span now kept log) : Tracks span now (recent span now kept) log := by
  intro later after
  rw [recent_recent span after]
  exact tracks later after

-- Each time was written, in order, when the window ending there held fewer than the limit.
inductive Paced (span : τ) (limit : Nat) : List τ → Prop where
  | nil : Paced span limit []
  | add {log : List τ} {now : τ} (before : Paced span limit log) (ordered : ∀ t ∈ log, t ≤ now)
      (room : (recent span now log).length < limit) : Paced span limit (log ++ [now])

-- A window with the last time in it holds nothing before it that was not recent then.
theorem within_add (log : List τ) (span position : τ) (inside : now ≤ position) :
    (within span position log).length ≤ (recent span now log).length := by
  apply List.Sublist.length_le
  apply List.monotone_filter_right
  intro t present
  have fresh := (of_decide_eq_true present).1
  exact decide_eq_true (lt_of_le_of_lt (sub_le_sub_right inside span) fresh)

theorem Paced.bounded {limit : Nat} (paced : Paced span limit log) (position : τ) :
    (within span position log).length ≤ limit := by
  induction paced with
  | nil => exact Nat.zero_le _
  | @add log now before ordered room ih =>
    rw [within,List.filter_append,List.length_append]
    by_cases inside : position - span < now ∧ now ≤ position
    · have full := within_add log span position inside.2
      have counted : [now].filter (fun t => decide (position - span < t ∧ t ≤ position)) = [now] := by
        simp [inside]
      rw [counted]
      exact Nat.le_trans (Nat.add_le_add_right full 1) room
    · have outside : [now].filter (fun t => decide (position - span < t ∧ t ≤ position)) = [] := by
        simpa using inside
      rw [outside]
      exact ih

-- A limiter's view of its log: what it keeps stands for the log, and every time in
-- it found room.
structure Limited (span : τ) (limit : Nat) (now : τ) (kept log : List τ) : Prop where
  tracks : Tracks span now kept log
  ordered : ∀ t ∈ log, t ≤ now
  paced : Paced span limit log

namespace Limited
variable {limit : Nat}

omit [IsOrderedAddMonoid τ] in
theorem start (span now : τ) : Limited span limit now [] [] := ⟨tracks_self _ _ _,by simp,.nil⟩

omit [IsOrderedAddMonoid τ] in
theorem later {moved : τ} (limited : Limited span limit now kept log) (after : now ≤ moved) :
    Limited span limit moved kept log :=
  ⟨limited.tracks.later after,fun t member => (limited.ordered t member).trans after,limited.paced⟩

theorem pruned {left : List τ} (limited : Limited span limit now kept log)
    (same : left = kept ∨ left = recent span now kept) : Limited span limit now left log := by
  refine ⟨?_,limited.ordered,limited.paced⟩
  rcases same with rfl | rfl
  · exact limited.tracks
  · exact limited.tracks.prune

theorem add (limited : Limited span limit now kept log) (room : (recent span now kept).length < limit) :
    Limited span limit now (recent span now kept ++ [now]) (log ++ [now]) := by
  refine ⟨limited.tracks.prune.add now,?_,.add limited.paced limited.ordered ?_⟩
  · intro t member
    rcases List.mem_append.mp member with old | new
    · exact limited.ordered t old
    · exact le_of_eq (List.mem_singleton.mp new)
  · rw [← limited.tracks now le_rfl]
    exact room

end Limited
end SlidingWindow

-- A buffer written at its end. After each write the items at its front that the new one
-- makes stale are dropped, up to the first that it does not.
namespace FrontEviction
variable {α : Type} (stale : α → α → Bool)

def add (buffer : List α) (item : α) : List α := (buffer ++ [item]).dropWhile (stale item)

-- What was dropped is a first part of the log, each item of it stale for one of the log.
def Keeps (buffer log : List α) : Prop :=
  ∃ dropped, log = dropped ++ buffer ∧ ∀ old ∈ dropped, ∃ item ∈ log, stale item old = true

theorem keeps_empty : Keeps stale [] [] := ⟨[],rfl,by simp⟩

variable {stale} {buffer log : List α}

theorem Keeps.add (keeps : Keeps stale buffer log) (item : α) : Keeps stale (add stale buffer item) (log ++ [item]) := by
  obtain ⟨dropped,whole,old⟩ := keeps
  refine ⟨dropped ++ (buffer ++ [item]).takeWhile (stale item),?_,?_⟩
  · rw [FrontEviction.add,List.append_assoc,List.takeWhile_append_dropWhile,whole,List.append_assoc]
  · intro other member
    rcases List.mem_append.mp member with before | now
    · obtain ⟨newer,present,expired⟩ := old other before
      exact ⟨newer,List.mem_append_left _ present,expired⟩
    · exact ⟨item,by simp,List.mem_takeWhile_imp now⟩

theorem keeps_run (items : List α) (keeps : Keeps stale buffer log) : Keeps stale (items.foldl (FrontEviction.add stale) buffer) (log ++ items) := by
  induction items generalizing buffer log with
  | nil =>
    rw [List.append_nil]
    exact keeps
  | cons item rest ih =>
    have next := ih (keeps.add item)
    rw [List.append_assoc] at next
    exact next

-- A reading that wants nothing stale finds in the buffer what the log has for it.
theorem Keeps.filter (keeps : Keeps stale buffer log) (wanted : α → Bool)
    (fresh : ∀ item ∈ log, ∀ old, stale item old = true → wanted old = false) : buffer.filter wanted = log.filter wanted := by
  obtain ⟨dropped,whole,old⟩ := keeps
  have none : dropped.filter wanted = [] := by
    apply List.filter_eq_nil_iff.mpr
    intro other member
    obtain ⟨newer,present,expired⟩ := old other member
    simp [fresh newer present other expired]
  rw [whole,List.filter_append,none,List.nil_append]

end FrontEviction
