import Mathlib.Logic.Basic

-- A call with effects: it runs on a state and returns a value or raises a
-- message. Whatever it did to the state before raising stays done.
def Effect (σ : Type) (α : Type) := σ → Except String α × σ

namespace Effect
variable {σ α β γ : Type}

def done (a : α) : Effect σ α := fun s => (.ok a,s)

def andThen (m : Effect σ α) (f : α → Effect σ β) : Effect σ β := fun s =>
  match m s with
  | (.ok a,t) => f a t
  | (.error e,t) => (.error e,t)

instance : Monad (Effect σ) where
  pure := done
  bind := andThen

def modify (f : σ → σ) : Effect σ Unit := fun s => (.ok (),f s)

def read (f : σ → α) : Effect σ α := fun s => (.ok (f s),s)

def ofExcept (outcome : Except String α) : Effect σ α := fun s => (outcome,s)

-- An except clause: the handler starts from the state the body left.
def attempt (body : Effect σ α) (handler : String → Effect σ α) : Effect σ α := fun s =>
  match body s with
  | (.ok a,t) => (.ok a,t)
  | (.error e,t) => handler e t

theorem bind_run (m : Effect σ α) (f : α → Effect σ β) (s : σ) :
    (m >>= f) s = match m s with | (.ok a,t) => f a t | (.error e,t) => (.error e,t) := rfl

theorem bind_ok {m : Effect σ α} (f : α → Effect σ β) (ran : m s = (.ok a,t)) : (m >>= f) s = f a t := by
  rw [bind_run,ran]

theorem bind_error {m : Effect σ α} (f : α → Effect σ β) (ran : m s = (.error e,t)) :
    (m >>= f) s = (.error e,t) := by rw [bind_run,ran]

theorem attempt_ok {body : Effect σ α} (handler : String → Effect σ α) (ran : body s = (.ok a,t)) :
    attempt body handler s = (.ok a,t) := by rw [attempt,ran]

theorem attempt_error {body : Effect σ α} (handler : String → Effect σ α) (ran : body s = (.error e,t)) :
    attempt body handler s = handler e t := by rw [attempt,ran]

theorem bind_pure (m : Effect σ α) (f : α → β) (s : σ) : (m >>= fun a => pure (f a)) s = ((m s).1.map f,(m s).2) := by
  rw [bind_run]
  rcases m s with ⟨outcome,t⟩
  cases outcome <;> rfl

-- What a sequence that returned has done.
theorem bind_returned {m : Effect σ α} {f : α → Effect σ β} (ran : (m >>= f) s = (.ok b,t)) :
    ∃ a u, m s = (.ok a,u) ∧ f a u = (.ok b,t) := by
  rw [bind_run] at ran
  rcases started : m s with ⟨outcome,u⟩
  rw [started] at ran
  cases outcome with
  | ok a => exact ⟨a,u,rfl,ran⟩
  | error e => cases ran

theorem ofExcept_bind (f : α → Effect σ β) (s : σ) (came : outcome = .ok a) : (ofExcept outcome >>= f) s = f a s := by
  rw [came]
  rfl

theorem ofExcept_failed (f : α → Effect σ β) (s : σ) (came : outcome = .error e) :
    (ofExcept outcome >>= f) s = (.error e,s) := by
  rw [came]
  rfl

theorem ofExcept_run (outcome : Except String α) (f : α → Effect σ β) (s : σ) :
    (∃ e, (ofExcept outcome >>= f) s = (.error e,s)) ∨ ∃ a, (ofExcept outcome >>= f) s = f a s := by
  cases outcome with
  | error e => exact .inl ⟨e,rfl⟩
  | ok a => exact .inr ⟨a,rfl⟩

theorem ofExcept_returned (ran : (ofExcept outcome : Effect σ α) s = (.ok a,t)) : outcome = .ok a :=
  congrArg Prod.fst ran

@[simp] theorem read_bind (f : σ → α) (g : α → Effect σ β) (s : σ) : (read f >>= g) s = g (f s) s := rfl

@[simp] theorem modify_bind (f : σ → σ) (g : Unit → Effect σ β) (s : σ) :
    (modify f >>= g) s = g () (f s) := rfl

def Returns (m : Effect σ α) : Prop := ∀ s, ∃ a t, m s = (.ok a,t)

theorem returns_pure (a : α) : Returns (pure a : Effect σ α) := fun s => ⟨a,s,rfl⟩

theorem returns_read (f : σ → α) : Returns (read f) := fun s => ⟨f s,s,rfl⟩

theorem returns_modify (f : σ → σ) : Returns (modify f) := fun s => ⟨(),f s,rfl⟩

theorem Returns.bind {m : Effect σ α} {f : α → Effect σ β} (first : Returns m) (rest : ∀ a, Returns (f a)) :
    Returns (m >>= f) := by
  intro s
  obtain ⟨a,t,ran⟩ := first s
  rw [bind_ok f ran]
  exact rest a t

theorem Returns.attempt {body : Effect σ α} {handler : String → Effect σ α} (rest : ∀ e, Returns (handler e)) :
    Returns (attempt body handler) := by
  intro s
  rcases ran : body s with ⟨outcome,t⟩
  cases outcome with
  | ok a => exact ⟨a,t,attempt_ok handler ran⟩
  | error e => rw [attempt_error handler ran]; exact rest e t

def Yields (good : α → Prop) (m : Effect σ α) : Prop := ∀ s a t, m s = (.ok a,t) → good a

section Yields
variable {good : α → Prop}

theorem yields_pure {a : α} (holds : good a) : Yields good (pure a : Effect σ α) := by
  intro s b t ran
  cases ran
  exact holds

theorem Yields.bind {was : γ → Prop} {m : Effect σ γ} {f : γ → Effect σ α} (first : Yields was m)
    (rest : ∀ c, was c → Yields good (f c)) : Yields good (m >>= f) := by
  intro s a t ran
  rcases started : m s with ⟨outcome,u⟩
  cases outcome with
  | ok c => rw [bind_ok f started] at ran; exact rest c (first s c u started) u a t ran
  | error e => rw [bind_error f started] at ran; cases ran

theorem yields_bind {m : Effect σ γ} {f : γ → Effect σ α} (rest : ∀ c, Yields good (f c)) :
    Yields good (m >>= f) := by
  have first : Yields (fun _ : γ => True) m := fun _ _ _ _ => trivial
  exact first.bind fun c _ => rest c

theorem Yields.attempt {body : Effect σ α} {handler : String → Effect σ α} (first : Yields good body)
    (rest : ∀ e, Yields good (handler e)) : Yields good (attempt body handler) := by
  intro s a t ran
  rcases started : body s with ⟨outcome,u⟩
  cases outcome with
  | ok b => rw [attempt_ok handler started] at ran; cases ran; exact first s a t started
  | error e => rw [attempt_error handler started] at ran; exact rest e u a t ran

end Yields

section Moves
variable {moves : σ → σ → Prop}

-- Where the call leaves the state, whether it returns or raises.
def Moves (moves : σ → σ → Prop) (m : Effect σ α) : Prop := ∀ s, moves s (m s).2

theorem Moves.bind {m : Effect σ α} {f : α → Effect σ β} (joins : ∀ s t u, moves s t → moves t u → moves s u)
    (first : Moves moves m) (rest : ∀ a, Moves moves (f a)) : Moves moves (m >>= f) := by
  intro s
  have moved := first s
  rw [bind_run]
  rcases ran : m s with ⟨outcome,t⟩
  rw [ran] at moved
  cases outcome with
  | ok a => exact joins s t _ moved (rest a t)
  | error e => exact moved

theorem Moves.attempt {body : Effect σ α} {handler : String → Effect σ α}
    (joins : ∀ s t u, moves s t → moves t u → moves s u) (first : Moves moves body)
    (rest : ∀ e, Moves moves (handler e)) : Moves moves (attempt body handler) := by
  intro s
  have moved := first s
  rw [Effect.attempt]
  rcases ran : body s with ⟨outcome,t⟩
  rw [ran] at moved
  cases outcome with
  | ok a => exact moved
  | error e => exact joins s t _ moved (rest e t)

end Moves

section Frame
variable {observed : σ → γ}

-- A part of the state the call leaves alone, whether it returns or raises.
def Frames (observed : σ → γ) (m : Effect σ α) : Prop := ∀ s, observed (m s).2 = observed s

theorem frames_pure (a : α) : Frames observed (pure a : Effect σ α) := fun _ => rfl

theorem frames_read (f : σ → α) : Frames observed (read f) := fun _ => rfl

theorem frames_modify {f : σ → σ} (keeps : ∀ s, observed (f s) = observed s) : Frames observed (modify f) := keeps

theorem Frames.bind {m : Effect σ α} {f : α → Effect σ β} (first : Frames observed m)
    (rest : ∀ a, Frames observed (f a)) : Frames observed (m >>= f) := by
  have joins : ∀ s t u : σ, observed t = observed s → observed u = observed t → observed u = observed s :=
    fun _ _ _ early late => late.trans early
  exact Moves.bind joins first rest

theorem Frames.attempt {body : Effect σ α} {handler : String → Effect σ α} (first : Frames observed body)
    (rest : ∀ e, Frames observed (handler e)) : Frames observed (attempt body handler) := by
  have joins : ∀ s t u : σ, observed t = observed s → observed u = observed t → observed u = observed s :=
    fun _ _ _ early late => late.trans early
  exact Moves.attempt joins first rest

end Frame

section Additions
variable {log : σ → List β} {fits : β → Prop}

-- The log only grows, and by entries with the property.
def Adds (log : σ → List β) (fits : β → Prop) (m : Effect σ α) : Prop :=
  ∀ s, ∃ added, log (m s).2 = log s ++ added ∧ ∀ entry ∈ added, fits entry

theorem Frames.adds {m : Effect σ α} (kept : Frames log m) : Adds log fits m :=
  fun s => ⟨[],by simp [kept s],by simp⟩

theorem added_twice (s t u : σ) (first : ∃ added, log t = log s ++ added ∧ ∀ entry ∈ added, fits entry)
    (second : ∃ added, log u = log t ++ added ∧ ∀ entry ∈ added, fits entry) :
    ∃ added, log u = log s ++ added ∧ ∀ entry ∈ added, fits entry := by
  obtain ⟨added,grown,all⟩ := first
  obtain ⟨more,further,others⟩ := second
  refine ⟨added ++ more,by rw [further,grown,List.append_assoc],?_⟩
  intro entry member
  rcases List.mem_append.mp member with early | late
  · exact all entry early
  · exact others entry late

theorem Adds.bind {m : Effect σ γ} {f : γ → Effect σ α} (first : Adds log fits m)
    (rest : ∀ c, Adds log fits (f c)) : Adds log fits (m >>= f) := Moves.bind added_twice first rest

theorem Adds.attempt {body : Effect σ α} {handler : String → Effect σ α} (first : Adds log fits body)
    (rest : ∀ e, Adds log fits (handler e)) : Adds log fits (attempt body handler) := Moves.attempt added_twice first rest

theorem Adds.mono {m : Effect σ α} (holds : Adds log fits m) (implied : ∀ entry, fits entry → wider entry) :
    Adds log wider m := by
  intro s
  obtain ⟨added,grown,all⟩ := holds s
  exact ⟨added,grown,fun entry member => implied entry (all entry member)⟩

end Additions

section Ledger
variable {ledger : σ → List β} {failed : α → Prop}

-- The ledger gains exactly one entry when the result counts as failed, and
-- none when it does not or when the call raises.
def Accounts (ledger : σ → List β) (failed : α → Prop) (s : σ) : Except String α → σ → Prop
  | .ok a,t => (failed a ∧ ∃ entry, ledger t = ledger s ++ [entry]) ∨ (¬failed a ∧ ledger t = ledger s)
  | .error _,t => ledger t = ledger s

def Accounted (ledger : σ → List β) (failed : α → Prop) (m : Effect σ α) : Prop :=
  ∀ s, Accounts ledger failed s (m s).1 (m s).2

theorem accounted_pure {a : α} (fine : ¬failed a) : Accounted ledger failed (pure a : Effect σ α) :=
  fun _ => .inr ⟨fine,rfl⟩

theorem accounted_file {file : Effect σ Unit} {a : α} (bad : failed a)
    (files : ∀ s, ∃ entry t, file s = (.ok (),t) ∧ ledger t = ledger s ++ [entry]) :
    Accounted ledger failed (file >>= fun _ => pure a) := by
  intro s
  obtain ⟨entry,t,ran,grown⟩ := files s
  rw [bind_ok _ ran]
  exact .inl ⟨bad,entry,grown⟩

theorem Accounted.after {m : Effect σ γ} {f : γ → Effect σ α} (quiet : Frames ledger m)
    (rest : ∀ c, Accounted ledger failed (f c)) : Accounted ledger failed (m >>= f) := by
  intro s
  have kept := quiet s
  rw [bind_run]
  rcases ran : m s with ⟨outcome,t⟩
  rw [ran] at kept
  cases outcome with
  | error e => exact kept
  | ok c =>
    have next := rest c t
    simp only at kept
    unfold Accounts at next ⊢
    simpa only [kept] using next

theorem Accounted.attempt {body : Effect σ α} {handler : String → Effect σ α}
    (first : Accounted ledger failed body) (rest : ∀ e, Accounted ledger failed (handler e)) :
    Accounted ledger failed (attempt body handler) := by
  intro s
  have accounts := first s
  rw [Effect.attempt]
  rcases ran : body s with ⟨outcome,t⟩
  rw [ran] at accounts
  cases outcome with
  | ok a => exact accounts
  | error e =>
    have next := rest e t
    have kept : ledger t = ledger s := accounts
    unfold Accounts at next ⊢
    simpa only [kept] using next

theorem Accounted.bind {bad : γ → Prop} {m : Effect σ γ} {f : γ → Effect σ α}
    (first : Accounted ledger bad m)
    (stops : ∀ c, bad c → ∀ s, ∃ a t, f c s = (.ok a,t) ∧ failed a ∧ ledger t = ledger s)
    (rest : ∀ c, ¬bad c → Accounted ledger failed (f c)) : Accounted ledger failed (m >>= f) := by
  intro s
  have accounts := first s
  rw [bind_run]
  rcases ran : m s with ⟨outcome,t⟩
  rw [ran] at accounts
  cases outcome with
  | error e => exact accounts
  | ok c =>
    rcases accounts with ⟨isBad,entry,grown⟩ | ⟨notBad,kept⟩
    · obtain ⟨a,u,same,fails,quiet⟩ := stops c isBad t
      simp only [same]
      exact .inl ⟨fails,entry,quiet.trans grown⟩
    · have next := rest c notBad t
      unfold Accounts at next ⊢
      simpa only [kept] using next

end Ledger
end Effect
