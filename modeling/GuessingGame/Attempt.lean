/-!
# Attempts

An attempt acts on a state and either returns a value or fails. What was done to
the state before a failure stays done, so the state after an attempt is defined
whatever its outcome. The equations below are all that is needed to run one.
-/

namespace GuessingGame

/-- A computation on a state that may fail, keeping what it did before. -/
structure Attempt (ε σ α : Type) where
  run : σ → Except ε α × σ

namespace Attempt

variable {ε σ α β : Type}

instance : Monad (Attempt ε σ) where
  pure a := ⟨fun s => (.ok a, s)⟩
  bind m f := ⟨fun s =>
    match m.run s with
    | (.ok a, s) => (f a).run s
    | (.error e, s) => (.error e, s)⟩

def state : Attempt ε σ σ := ⟨fun s => (.ok s, s)⟩

def change (f : σ → σ) : Attempt ε σ Unit := ⟨fun s => (.ok (), f s)⟩

def fail (e : ε) : Attempt ε σ α := ⟨fun s => (.error e, s)⟩

@[simp] theorem run_pure (a : α) (s : σ) : (pure a : Attempt ε σ α).run s = (.ok a, s) := rfl

@[simp] theorem run_state (s : σ) : (state : Attempt ε σ σ).run s = (.ok s, s) := rfl

@[simp] theorem run_change (f : σ → σ) (s : σ) :
    (change f : Attempt ε σ Unit).run s = (.ok (), f s) := rfl

@[simp] theorem run_fail (e : ε) (s : σ) :
    (fail e : Attempt ε σ α).run s = (.error e, s) := rfl

theorem run_bind (m : Attempt ε σ α) (f : α → Attempt ε σ β) (s : σ) :
    (m >>= f).run s = match m.run s with
      | (.ok a, s) => (f a).run s
      | (.error e, s) => (.error e, s) := rfl

theorem run_bind_of_ok {m : Attempt ε σ α} {f : α → Attempt ε σ β} {s t : σ} {a : α}
    (h : m.run s = (.ok a, t)) : (m >>= f).run s = (f a).run t := by
  rw [run_bind, h]

theorem run_bind_of_error {m : Attempt ε σ α} {f : α → Attempt ε σ β} {s t : σ} {e : ε}
    (h : m.run s = (.error e, t)) : (m >>= f).run s = (.error e, t) := by
  rw [run_bind, h]

@[simp] theorem run_state_bind (f : σ → Attempt ε σ β) (s : σ) :
    (state >>= f).run s = (f s).run s := rfl

@[simp] theorem run_change_bind (g : σ → σ) (f : Unit → Attempt ε σ β) (s : σ) :
    (change g >>= f).run s = (f ()).run (g s) := rfl

/-- A relation between the two ends of an attempt is kept from step to step. -/
theorem run_bind_rel (r : σ → σ → Prop) (trans : ∀ {a b c}, r a b → r b c → r a c)
    {m : Attempt ε σ α} {f : α → Attempt ε σ β}
    (hm : ∀ s, r s (m.run s).2) (hf : ∀ a s, r s ((f a).run s).2) (s : σ) :
    r s ((m >>= f).run s).2 := by
  have first := hm s
  rcases h : m.run s with ⟨e | a, t⟩ <;> rw [h] at first
  · rwa [run_bind_of_error h]
  · rw [run_bind_of_ok h]
    exact trans first (hf a t)

end Attempt

end GuessingGame
