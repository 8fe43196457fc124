import Mathlib.Data.List.Dedup
import Mathlib.Data.List.Nodup
import Mathlib.Data.List.Perm.Subperm

-- The keys of a history of uses, the one used last first, and what a cache of bounded
-- size that lets the least recent key go holds of them.
namespace Recency
variable {κ : Type} [DecidableEq κ]

def recent (history : List κ) : List κ := history.dedup.reverse

theorem recent_nodup (history : List κ) : (recent history).Nodup := List.nodup_reverse.mpr (List.nodup_dedup history)

theorem mem_recent (history : List κ) (k : κ) : k ∈ recent history ↔ k ∈ history := by
  rw [recent,List.mem_reverse,List.mem_dedup]

theorem dedup_used (history : List κ) (k : κ) : (history ++ [k]).dedup = history.dedup.filter (· ≠ k) ++ [k] := by
  induction history with
  | nil => rfl
  | cons first rest ih =>
    by_cases same : first = k
    · subst same
      rw [List.cons_append,List.dedup_cons_of_mem (by simp),ih]
      by_cases again : first ∈ rest
      · rw [List.dedup_cons_of_mem again]
      · rw [List.dedup_cons_of_notMem again,List.filter_cons_of_neg (by simp)]
    · by_cases again : first ∈ rest
      · rw [List.cons_append,List.dedup_cons_of_mem (List.mem_append_left _ again),List.dedup_cons_of_mem again,ih]
      · have fresh : first ∉ rest ++ [k] := by simp [again,same]
        rw [List.cons_append,List.dedup_cons_of_notMem fresh,List.dedup_cons_of_notMem again,ih,
          List.filter_cons_of_pos (by simpa using same),List.cons_append]

-- A use puts its key first.
theorem recent_used (history : List κ) (k : κ) : recent (history ++ [k]) = k :: (recent history).filter (· ≠ k) := by
  rw [recent,dedup_used,List.reverse_append,List.reverse_singleton,List.singleton_append,recent,List.filter_reverse]

-- The distinct keys used since the last use of a key are those before it.
theorem recent_since (earlier since : List κ) (k : κ) (last : k ∉ since) :
    ∃ older, recent (earlier ++ k :: since) = recent since ++ k :: older := by
  have kept : (earlier ++ k :: since).dedup = earlier ∪ k :: since.dedup := by
    rw [List.dedup_append,List.dedup_cons_of_notMem last]
  obtain ⟨front,whole⟩ := List.suffix_union_right earlier (k :: since.dedup)
  refine ⟨front.reverse,?_⟩
  rw [recent,kept,← whole,List.reverse_append,List.reverse_cons,List.append_assoc,List.singleton_append]
  rfl

theorem last_use {history : List κ} (used : k ∈ history) : ∃ earlier since, history = earlier ++ k :: since ∧ k ∉ since := by
  induction history with
  | nil => cases used
  | cons first rest ih =>
    by_cases later : k ∈ rest
    · obtain ⟨earlier,since,whole,last⟩ := ih later
      exact ⟨first :: earlier,since,by rw [whole,List.cons_append],last⟩
    · rcases List.mem_cons.mp used with rfl | further
      · exact ⟨[],rest,rfl,later⟩
      · exact absurd further later

def kept (size : Nat) (history : List κ) : List κ := (recent history).take size

theorem kept_length (size : Nat) (history : List κ) : (kept size history).length ≤ size := List.length_take_le _ _

omit [DecidableEq κ] in
theorem mem_take_split (size : Nat) (before after : List κ) (k : κ) (fresh : k ∉ before) :
    k ∈ (before ++ k :: after).take size ↔ before.length < size := by
  rw [List.take_append]
  constructor
  · intro member
    by_contra full
    rw [Nat.sub_eq_zero_of_le (Nat.le_of_not_lt full),List.take_zero,List.append_nil] at member
    exact fresh (List.mem_of_mem_take member)
  · intro room
    obtain ⟨left,same⟩ := Nat.exists_eq_add_of_lt room
    rw [show size - before.length = left + 1 by omega,List.take_succ_cons]
    exact List.mem_append_right _ List.mem_cons_self

theorem recent_split {history : List κ} (used : k ∈ recent history) :
    ∃ before after, recent history = before ++ k :: after ∧ k ∉ before ∧ k ∉ after := by
  obtain ⟨before,after,whole⟩ := List.append_of_mem used
  have unique := recent_nodup history
  rw [whole] at unique
  obtain ⟨_,later,apart⟩ := List.nodup_append.mp unique
  exact ⟨before,after,whole,fun member => apart k member k List.mem_cons_self rfl,(List.nodup_cons.mp later).1⟩

theorem others (part : List κ) (absent : k ∉ part) : part.filter (· ≠ k) = part := by
  apply List.filter_eq_self.mpr
  intro other member
  exact decide_eq_true fun same => absent (same ▸ member)

-- A key is held exactly while fewer than so many others were used since its last use.
theorem mem_kept (size : Nat) (history : List κ) (k : κ) :
    k ∈ kept size history ↔ ∃ earlier since, history = earlier ++ k :: since ∧ k ∉ since ∧ since.dedup.length < size := by
  have place : ∀ earlier since, k ∉ since → (k ∈ kept size (earlier ++ k :: since) ↔ since.dedup.length < size) := by
    intro earlier since last
    obtain ⟨older,split⟩ := recent_since earlier since k last
    rw [kept,split,mem_take_split size _ _ k (mt (mem_recent since k).mp last),recent,List.length_reverse]
  constructor
  · intro held
    obtain ⟨earlier,since,whole,last⟩ := last_use ((mem_recent history k).mp (List.mem_of_mem_take held))
    subst whole
    exact ⟨earlier,since,rfl,last,(place earlier since last).mp held⟩
  · intro ⟨earlier,since,whole,last,few⟩
    subst whole
    exact (place earlier since last).mpr few

-- A hit moves its key to the front.
theorem kept_hit (size : Nat) (history : List κ) (k : κ) (held : k ∈ kept (size + 1) history) :
    kept (size + 1) (history ++ [k]) = k :: (kept (size + 1) history).filter (· ≠ k) := by
  obtain ⟨before,after,whole,fresh,alone⟩ := recent_split (List.mem_of_mem_take held)
  rw [kept,whole,mem_take_split _ _ _ k fresh] at held
  have left : (recent history).filter (· ≠ k) = before ++ after := by
    rw [whole,List.filter_append,List.filter_cons_of_neg (by simp),others before fresh,others after alone]
  have front : (recent history).take (size + 1) = before ++ k :: after.take (size - before.length) := by
    rw [whole,List.take_append,List.take_of_length_le (Nat.le_of_lt held),Nat.succ_sub (Nat.le_of_lt_succ held),List.take_succ_cons]
  rw [kept,recent_used,List.take_succ_cons,left,kept,front,List.filter_append,List.filter_cons_of_neg (by simp),others before fresh,
    others _ fun member => alone (List.mem_of_mem_take member),List.take_append,List.take_of_length_le (Nat.le_of_lt_succ held)]

-- A miss puts its key in front, and the least recent goes when there are too many.
theorem kept_miss (size : Nat) (history : List κ) (k : κ) (absent : k ∉ kept (size + 1) history) :
    kept (size + 1) (history ++ [k]) = (k :: kept (size + 1) history).take (size + 1) := by
  have front : ((recent history).filter (· ≠ k)).take size = (recent history).take size := by
    by_cases used : k ∈ recent history
    · obtain ⟨before,after,whole,fresh,_⟩ := recent_split used
      rw [kept,whole,mem_take_split _ _ _ k fresh] at absent
      rw [whole,List.filter_append,others _ fresh,List.take_append_of_le_length (by omega),List.take_append_of_le_length (by omega)]
    · rw [others _ used]
  rw [kept,recent_used,List.take_succ_cons,List.take_succ_cons,kept,List.take_take,Nat.min_eq_left (Nat.le_succ size),front]

-- Of two keys one of which is held and the other not, the one held was used later.
theorem kept_later (size : Nat) (history : List κ) (used : k ∈ history) (gone : k ∉ kept size history) (held : other ∈ kept size history) :
    ∃ earlier since, history = earlier ++ k :: since ∧ k ∉ since ∧ other ∈ since := by
  obtain ⟨earlier,since,whole,last⟩ := last_use used
  refine ⟨earlier,since,whole,last,?_⟩
  by_contra unused
  apply gone
  refine (mem_kept size history k).mpr ⟨earlier,since,whole,last,?_⟩
  obtain ⟨before,later,split,once,few⟩ := (mem_kept size history other).mp held
  have distinct : other ≠ k := fun same => gone (same ▸ held)
  have inside : since ⊆ later := by
    rw [whole] at split
    rcases List.append_eq_append_iff.mp split with ⟨more,_,rest⟩ | ⟨more,_,rest⟩
    · cases more with
      | nil => exact absurd (List.cons.inj rest).1.symm distinct
      | cons c more =>
        obtain ⟨_,tail⟩ := List.cons.inj rest
        exact absurd (by rw [tail]; simp) unused
    · cases more with
      | nil => exact absurd (List.cons.inj rest).1 distinct
      | cons c more =>
        obtain ⟨_,tail⟩ := List.cons.inj rest
        rw [tail]
        exact fun key member => List.mem_append_right _ (List.mem_cons_of_mem _ member)
  have counted : since.dedup ⊆ later.dedup := fun key member => List.mem_dedup.mpr (inside (List.mem_dedup.mp member))
  exact Nat.lt_of_le_of_lt (List.subperm_of_subset (List.nodup_dedup since) counted).length_le few

-- Two listings of the same keys lose the same one at the ends.
omit [DecidableEq κ] in
theorem ends_same {keys held : List κ} (unique : keys.Nodup) (once : held.Nodup) (same : ∀ k, k ∈ keys ↔ k ∈ held) :
    (∀ k, k ∈ keys.tail ↔ k ∈ held.dropLast) ↔ keys.head? = held.getLast? := by
  cases keys with
  | nil =>
    have none : held = [] := List.eq_nil_iff_forall_not_mem.mpr fun k member => by cases (same k).mpr member
    subst none
    simp
  | cons first rest =>
    have some : held ≠ [] := List.ne_nil_of_mem ((same first).mp List.mem_cons_self)
    obtain ⟨front,last,rfl⟩ : ∃ front last, held = front ++ [last] :=
      ⟨held.dropLast,held.getLast some,(List.dropLast_append_getLast some).symm⟩
    rw [List.dropLast_concat,List.getLast?_concat,List.head?_cons,List.tail_cons,Option.some_inj]
    obtain ⟨alone,_⟩ := List.nodup_cons.mp unique
    have apart : last ∉ front := fun member => (List.nodup_append.mp once).2.2 last member last List.mem_cons_self rfl
    constructor
    · intro equal
      rcases List.mem_append.mp ((same first).mp List.mem_cons_self) with inside | ending
      · exact absurd ((equal first).mpr inside) alone
      · exact List.mem_singleton.mp ending
    · rintro rfl k
      constructor
      · intro member
        rcases List.mem_append.mp ((same k).mp (List.mem_cons_of_mem _ member)) with inside | ending
        · exact inside
        · exact absurd (List.mem_singleton.mp ending ▸ member) alone
      · intro member
        rcases List.mem_cons.mp ((same k).mpr (List.mem_append_left _ member)) with here | inside
        · exact absurd (here ▸ member) apart
        · exact inside

end Recency
