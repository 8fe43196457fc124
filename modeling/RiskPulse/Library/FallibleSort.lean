import Mathlib.Data.List.Basic
import RiskPulse.Library.Fallible

-- A stable sort whose comparison may raise. One that raises leaves the list with the
-- same items in some order.
namespace FallibleSort
variable {α ε : Type} (less : α → α → Except ε Bool)

def insert (x : α) : List α → Except ε (List α)
  | [] => .ok [x]
  | y :: rest => do
    if ← less x y then return x :: y :: rest
    else return y :: (← insert x rest)

def sortFrom : List α → List α → Except ε Unit × List α
  | done,[] => (.ok (),done)
  | done,x :: rest =>
    match insert less x done with
    | .ok inserted => sortFrom inserted rest
    | .error e => (.error e,done ++ x :: rest)

def sort (l : List α) : Except ε Unit × List α := sortFrom less [] l

-- Any two items can be compared both ways, and what they answer is an order.
structure Sortable (l : List α) : Prop where
  answers : l.Pairwise fun a b => ∃ x y, less a b = .ok x ∧ less b a = .ok y ∧ (x && y) = false
  trans : ∀ a ∈ l, ∀ b ∈ l, ∀ c ∈ l, less b a = .ok false → less c b = .ok false → less c a = .ok false

def Sorted (l : List α) : Prop := l.Pairwise fun a b => less b a = .ok false

variable {less}

theorem insert_cons (x y : α) (rest : List α) (came : insert less x (y :: rest) = .ok l) :
    (less x y = .ok true ∧ l = x :: y :: rest) ∨
      ∃ inserted, less x y = .ok false ∧ insert less x rest = .ok inserted ∧ l = y :: inserted := by
  obtain ⟨answer,compared,later⟩ := Fallible.bind_ok.mp came
  cases answer with
  | true =>
    cases later
    exact .inl ⟨compared,rfl⟩
  | false =>
    obtain ⟨inserted,further,last⟩ := Fallible.bind_ok.mp later
    cases last
    exact .inr ⟨inserted,compared,further,rfl⟩

theorem insert_perm (x : α) (done : List α) (came : insert less x done = .ok l) : l.Perm (x :: done) := by
  induction done generalizing l with
  | nil => cases came; exact .refl _
  | cons y rest ih =>
    rcases insert_cons x y rest came with ⟨_,rfl⟩ | ⟨inserted,_,further,rfl⟩
    · exact .refl _
    · exact ((ih further).cons y).trans (.swap x y rest)

theorem sortFrom_perm (done rest : List α) : (sortFrom less done rest).2.Perm (done ++ rest) := by
  induction rest generalizing done with
  | nil =>
    rw [sortFrom,List.append_nil]
  | cons x rest ih =>
    rw [sortFrom]
    cases came : insert less x done with
    | error e => exact .refl _
    | ok inserted =>
      have placed : (inserted ++ rest).Perm (x :: done ++ rest) := (insert_perm x done came).append_right rest
      exact (ih inserted).trans (placed.trans List.perm_middle.symm)

theorem sort_perm (l : List α) : (sort less l).2.Perm l := sortFrom_perm [] l

theorem insert_sorted (x : α) (done : List α)
    (answers : ∀ a ∈ done, ∃ p q, less a x = .ok p ∧ less x a = .ok q ∧ (p && q) = false)
    (trans : ∀ a ∈ x :: done, ∀ b ∈ x :: done, ∀ c ∈ x :: done,
      less b a = .ok false → less c b = .ok false → less c a = .ok false)
    (sorted : Sorted less done) : ∃ l, insert less x done = .ok l ∧ Sorted less l := by
  induction done with
  | nil => exact ⟨[x],rfl,List.pairwise_singleton _ _⟩
  | cons y rest ih =>
    obtain ⟨first,later⟩ := List.pairwise_cons.mp sorted
    obtain ⟨p,q,back,forth,order⟩ := answers y List.mem_cons_self
    cases q with
    | true =>
      have after : less y x = .ok false := by
        rw [Bool.and_true] at order
        rw [back,order]
      refine ⟨x :: y :: rest,by simp only [insert,forth,bind,Except.bind]; rfl,List.pairwise_cons.mpr ⟨?_,sorted⟩⟩
      intro a member
      rcases List.mem_cons.mp member with rfl | behind
      · exact after
      · exact trans x (by simp) y (by simp) a (by simp [behind]) after (first a behind)
    | false =>
      have smaller : ∀ a ∈ x :: rest, a ∈ x :: y :: rest := by
        intro a member
        rcases List.mem_cons.mp member with rfl | behind
        · exact List.mem_cons_self
        · exact List.mem_cons_of_mem _ (List.mem_cons_of_mem _ behind)
      obtain ⟨inserted,further,order⟩ := ih (fun a member => answers a (List.mem_cons_of_mem _ member))
        (fun a first b second c third => trans a (smaller a first) b (smaller b second) c (smaller c third)) later
      refine ⟨y :: inserted,by simp only [insert,forth,further,bind,Except.bind]; rfl,List.pairwise_cons.mpr ⟨?_,order⟩⟩
      intro a member
      rcases List.mem_cons.mp ((insert_perm x rest further).mem_iff.mp member) with rfl | behind
      · exact forth
      · exact first a behind

theorem sortFrom_sorted (done rest : List α) (sortable : Sortable less (done ++ rest)) (sorted : Sorted less done) :
    (sortFrom less done rest).1 = .ok () ∧ Sorted less (sortFrom less done rest).2 := by
  induction rest generalizing done with
  | nil => exact ⟨rfl,sorted⟩
  | cons x rest ih =>
    obtain ⟨_,_,across⟩ := List.pairwise_append.mp sortable.answers
    have inside : ∀ a ∈ x :: done, a ∈ done ++ x :: rest := by
      intro a member
      rcases List.mem_cons.mp member with rfl | old
      · simp
      · exact List.mem_append_left _ old
    obtain ⟨inserted,came,order⟩ := insert_sorted x done (fun a member => across a member x List.mem_cons_self)
      (fun a first b second c third => sortable.trans a (inside a first) b (inside b second) c (inside c third)) sorted
    have placed : (inserted ++ rest).Perm (done ++ x :: rest) :=
      ((insert_perm x done came).append_right rest).trans List.perm_middle.symm
    have still : Sortable less (inserted ++ rest) := by
      constructor
      · apply (placed.pairwise_iff ?_).mpr sortable.answers
        rintro a b ⟨p,q,forth,back,order⟩
        exact ⟨q,p,back,forth,by rw [Bool.and_comm]; exact order⟩
      · intro a first b second c third
        exact sortable.trans a (placed.mem_iff.mp first) b (placed.mem_iff.mp second) c (placed.mem_iff.mp third)
    rw [sortFrom,came]
    exact ih inserted still order

theorem sort_sorted (l : List α) (sortable : Sortable less l) : (sort less l).1 = .ok () ∧ Sorted less (sort less l).2 :=
  sortFrom_sorted [] l sortable .nil

end FallibleSort
