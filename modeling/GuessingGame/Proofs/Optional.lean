import Mathlib.Data.List.Basic

/-!
# Lists of optional values

The parts of a record are read one after the other, and there is a record only if each of them is
there. What is read is then the list of what is read for each part.
-/

namespace GuessingGame

theorem mapM_map_eq_some_iff {α β : Type} {f : α → Option β} {value : α → β} {xs : List α} :
    xs.mapM f = some (xs.map value) ↔ ∀ x ∈ xs, f x = some (value x) := by
  induction xs with
  | nil => simp
  | cons x xs ih =>
      rw [List.forall_mem_cons, ← ih, List.mapM_cons]
      cases first : f x with
      | none => simp
      | some y =>
          cases others : xs.mapM f with
          | none => simp
          | some ys => simp

theorem eq_map_of_mapM {α β : Type} {f : α → Option β} {xs : List α} {ys : List β}
    (h : xs.mapM f = some ys) (fallback : β) : ys = xs.map fun x => (f x).getD fallback := by
  induction xs generalizing ys with
  | nil =>
      cases h
      rfl
  | cons x xs ih =>
      rw [List.mapM_cons] at h
      cases first : f x with
      | none => simp [first] at h
      | some y =>
          cases others : xs.mapM f with
          | none => simp [first, others] at h
          | some rest =>
              simp only [first, others] at h
              cases h
              rw [List.map_cons, first, ← ih others]
              rfl

theorem mapM_bind_mapM {α β γ : Type} (f : α → Option β) (g : β → Option γ) (xs : List α) :
    ((xs.mapM f).bind fun ys => ys.mapM g) = xs.mapM fun x => (f x).bind g := by
  induction xs with
  | nil => rfl
  | cons x xs ih =>
      rw [List.mapM_cons, List.mapM_cons, ← ih]
      cases f x with
      | none => rfl
      | some y =>
          cases xs.mapM f with
          | none => cases g y <;> simp
          | some ys => simp

end GuessingGame
