import Mathlib.Logic.Basic

-- A call runs on a state and returns or raises; what it did to the state before raising
-- stays done. A wrapper runs it again while what it raises is to be retried.
namespace Retry
variable {σ ε δ α β : Type} {retried : ε → Bool}

abbrev Call (σ ε α : Type) := EStateM ε σ α

def handling (body : Call σ δ α) (handler : δ → Call σ ε α) : Call σ ε α := fun s =>
  match body s with
  | .ok a t => .ok a t
  | .error e t => handler e t

theorem bind_ok {m : Call σ ε α} (f : α → Call σ ε β) (ran : m s = .ok a t) : (m >>= f) s = f a t := by
  simp only [bind,EStateM.bind,ran]

theorem bind_error {m : Call σ ε α} (f : α → Call σ ε β) (ran : m s = .error e t) : (m >>= f) s = .error e t := by
  simp only [bind,EStateM.bind,ran]

theorem handling_ok {body : Call σ δ α} (handler : δ → Call σ ε α) (ran : body s = .ok a t) : handling body handler s = .ok a t := by
  rw [handling,ran]

theorem handling_error {body : Call σ δ α} (handler : δ → Call σ ε α) (ran : body s = .error e t) :
    handling body handler s = handler e t := by
  rw [handling,ran]

-- A sequence raises where its first part does, or the rest after it.
theorem bind_raised {m : Call σ ε α} {f : α → Call σ ε β} :
    (m >>= f) s = .error e t ↔ m s = .error e t ∨ ∃ a u, m s = .ok a u ∧ f a u = .error e t := by
  cases came : m s with
  | ok a u =>
    rw [bind_ok f came]
    constructor
    · exact fun raised => .inr ⟨a,u,rfl,raised⟩
    · intro either
      rcases either with impossible | ⟨_,_,same,raised⟩
      · cases impossible
      · cases same
        exact raised
  | error e' u =>
    rw [bind_error f came]
    constructor
    · intro raised
      cases raised
      exact .inl rfl
    · intro either
      rcases either with raised | ⟨_,_,impossible,_⟩
      · cases raised
        rfl
      · cases impossible

theorem handling_raised {body : Call σ δ α} {handler : δ → Call σ ε α} :
    handling body handler s = .error e t ↔ ∃ e' u, body s = .error e' u ∧ handler e' u = .error e t := by
  cases came : body s with
  | ok a u =>
    rw [handling_ok handler came]
    constructor
    · exact fun impossible => by cases impossible
    · intro raised
      obtain ⟨_,_,impossible,_⟩ := raised
      cases impossible
  | error e' u =>
    rw [handling_error handler came]
    constructor
    · exact fun raised => ⟨e',u,rfl,raised⟩
    · intro raised
      obtain ⟨_,_,same,again⟩ := raised
      cases same
      exact again

-- A first attempt and, while what is raised is to be retried, up to so many more; what the
-- last one raises is raised.
def retrying (retried : ε → Bool) : Nat → Call σ ε α → Call σ ε α
  | 0,body => body
  | more + 1,body => fun s =>
    match body s with
    | .ok a t => .ok a t
    | .error e t => if retried e then retrying retried more body t else .error e t

def stateOf : EStateM.Result ε σ α → σ
  | .ok _ s => s
  | .error _ s => s

-- The state in which an attempt starts after so many others.
def after (body : Call σ ε α) : Nat → σ → σ
  | 0,s => s
  | n + 1,s => after body n (stateOf (body s))

-- The same call, with the attempts counted.
def counted (body : Call σ ε α) : Call (σ × Nat) ε α := fun s =>
  match body s.1 with
  | .ok a t => .ok a (t,s.2 + 1)
  | .error e t => .error e (t,s.2 + 1)

-- Where nothing that is raised is to be retried there is one attempt.
theorem retrying_once (more : Nat) {body : Call σ ε α} (never : ∀ s e t, body s = .error e t → retried e = false) :
    retrying retried more body = body := by
  funext s
  cases more with
  | zero => rfl
  | succ more =>
    unfold retrying
    cases came : body s with
    | ok a t => rfl
    | error e t => exact if_neg (Bool.eq_false_iff.mp (never s e t came))

theorem counted_ok {body : Call σ ε α} (ran : body s = .ok a t) (n : Nat) : counted body (s,n) = .ok a (t,n + 1) := by
  rw [counted,ran]

theorem counted_error {body : Call σ ε α} (ran : body s = .error e t) (n : Nat) : counted body (s,n) = .error e (t,n + 1) := by
  rw [counted,ran]

theorem counted_never {body : Call σ ε α} (never : ∀ s e t, body s = .error e t → retried e = false) :
    ∀ s e t, counted body s = .error e t → retried e = false := by
  intro s e t raised
  cases came : body s.1 with
  | ok a u =>
    rw [counted_ok came] at raised
    cases raised
  | error e' u =>
    rw [counted_error came] at raised
    cases raised
    exact never s.1 e u came

end Retry
