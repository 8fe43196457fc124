import Mathlib.Algebra.Group.Basic
import RiskPulse.Library.Effect

-- What effects add to a measure of the state they run on, by what they return or raise.
namespace Effect
variable {σ α β γ : Type} [AddCommGroup γ] {valid : σ → Prop} {measure : σ → γ}

def Shifts (valid : σ → Prop) (measure : σ → γ) (m : Effect σ α) (d : Except String α → γ) : Prop :=
  ∀ s, valid s → valid (m s).2 ∧ measure (m s).2 = measure s + d (m s).1

def Balanced (valid : σ → Prop) (measure : σ → γ) (m : Effect σ α) : Prop := Shifts valid measure m fun _ => 0

theorem shifts_pure (a : α) : Balanced valid measure (pure a : Effect σ α) := fun _ holds => ⟨holds,(add_zero _).symm⟩

theorem shifts_read (f : σ → α) : Balanced valid measure (read f) := fun _ holds => ⟨holds,(add_zero _).symm⟩

theorem Shifts.bind {m : Effect σ α} {f : α → Effect σ β} {d : Except String α → γ} {e : α → Except String β → γ} {g : Except String β → γ}
    (first : Shifts valid measure m d) (rest : ∀ a, Shifts valid measure (f a) (e a)) (raised : ∀ x, d (.error x) = g (.error x))
    (returned : ∀ a out, d (.ok a) + e a out = g out) : Shifts valid measure (m >>= f) g := by
  intro s holds
  obtain ⟨kept,moved⟩ := first s holds
  rw [bind_run]
  rcases ran : m s with ⟨outcome,t⟩
  rw [ran] at kept moved
  cases outcome with
  | error x => exact ⟨kept,moved.trans (by rw [raised])⟩
  | ok a =>
    obtain ⟨still,further⟩ := rest a t kept
    refine ⟨still,?_⟩
    calc measure (f a t).2 = measure s + d (.ok a) + e a (f a t).1 := by rw [further,moved]
      _ = measure s + g (f a t).1 := by rw [add_assoc,returned]

theorem Shifts.attempt {body : Effect σ α} {handler : String → Effect σ α} {d g : Except String α → γ}
    (first : Shifts valid measure body d) (rest : ∀ x, Balanced valid measure (handler x)) (returned : ∀ a, d (.ok a) = g (.ok a))
    (raised : ∀ x out, d (.error x) = g out) : Shifts valid measure (attempt body handler) g := by
  intro s holds
  obtain ⟨kept,moved⟩ := first s holds
  rw [Effect.attempt]
  rcases ran : body s with ⟨outcome,t⟩
  rw [ran] at kept moved
  cases outcome with
  | ok a => exact ⟨kept,moved.trans (by rw [returned])⟩
  | error x =>
    obtain ⟨still,further⟩ := rest x t kept
    refine ⟨still,?_⟩
    calc measure (handler x t).2 = measure s + d (.error x) := by rw [further,moved,add_zero]
      _ = measure s + g (handler x t).1 := by rw [raised]

-- A part that changes nothing of the measure stands before one that does.
theorem Balanced.then {m : Effect σ α} {f : α → Effect σ β} {g : Except String β → γ} (first : Balanced valid measure m)
    (rest : ∀ a, Shifts valid measure (f a) g) (raised : ∀ x, g (.error x) = 0) : Shifts valid measure (m >>= f) g :=
  Shifts.bind first rest (fun x => (raised x).symm) fun _ out => zero_add (g out)

theorem Balanced.bind {m : Effect σ α} {f : α → Effect σ β} (first : Balanced valid measure m) (rest : ∀ a, Balanced valid measure (f a)) :
    Balanced valid measure (m >>= f) := first.then rest fun _ => rfl

theorem Balanced.attempt {body : Effect σ α} {handler : String → Effect σ α} (first : Balanced valid measure body)
    (rest : ∀ x, Balanced valid measure (handler x)) : Balanced valid measure (attempt body handler) :=
  Shifts.attempt first rest (fun _ => rfl) fun _ _ => rfl

end Effect
