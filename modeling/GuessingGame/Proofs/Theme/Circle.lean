import GuessingGame.Theme.Basic
import Mathlib.Data.List.Nodup
import Mathlib.Data.Nat.ModEq
import Mathlib.Logic.Function.Iterate

/-!
# Round a circle of themes

The next theme is looked up by the name of the current one. In a circle without two themes of one
name that look-up finds the place at which the last step ended, so the steps go on from place to
place (`onward_of_next`), wherever the first of them led: behind the theme that has the name of
the current one, or to the beginning. As many steps as there are themes therefore lead to every
theme once.
-/

namespace GuessingGame.Theme

def onward (themes : List Theme) (current : Theme) (steps : Nat) : Theme :=
  (fun theme => theme.next themes)^[steps] current

theorem onward_succ (themes : List Theme) (current : Theme) (steps : Nat) :
    onward themes current (steps + 1) = (onward themes current steps).next themes :=
  Function.iterate_succ_apply' _ _ _

variable {themes : List Theme} {current : Theme}

/-- Where no two themes share a name, a theme is found at its own place. -/
theorem findIdx?_name (distinct : (themes.map (·.name)).Nodup) {i : Nat}
    (within : i < themes.length) (named : current.name = themes[i].name) :
    themes.findIdx? (·.name = current.name) = some i := by
  rw [List.findIdx?_eq_some_iff_getElem]
  refine ⟨within, by simp [named], fun j earlier => ?_⟩
  have there : j < themes.length := Nat.lt_trans earlier within
  have apart : themes[j].name ≠ themes[i].name :=
    List.pairwise_iff_getElem.mp (List.pairwise_map.mp distinct) j i there within earlier
  simpa [named] using apart

theorem next_of_named (distinct : (themes.map (·.name)).Nodup) {i : Nat}
    (within : i < themes.length) (named : current.name = themes[i].name) :
    themes[(i + 1) % themes.length]? = some (current.next themes) := by
  have behind : (i + 1) % themes.length < themes.length := Nat.mod_lt _ (by omega)
  simp only [next, findIdx?_name distinct within named, List.getElem?_eq_getElem behind,
    Option.getD_some]

theorem next_of_unnamed (some_theme : themes ≠ [])
    (unnamed : ∀ theme ∈ themes, theme.name ≠ current.name) :
    themes[0]? = some (current.next themes) := by
  have nowhere : themes.findIdx? (·.name = current.name) = none := by
    simpa [List.findIdx?_eq_none_iff] using unnamed
  obtain ⟨first, more, rfl⟩ := List.exists_cons_of_ne_nil some_theme
  simp only [next, nowhere, List.headD_cons, List.getElem?_cons_zero]

/-- Wherever the first step led, each further one leads to the place behind. -/
theorem onward_of_next (distinct : (themes.map (·.name)).Nodup) {place : Nat}
    (first : themes[place]? = some (current.next themes)) (steps : Nat) :
    themes[(place + steps) % themes.length]? = some (onward themes current (steps + 1)) := by
  induction steps with
  | zero =>
      obtain ⟨within, -⟩ := List.getElem?_eq_some_iff.mp first
      rw [Nat.add_zero, Nat.mod_eq_of_lt within]
      exact first
  | succ steps ih =>
      obtain ⟨within, reached⟩ := List.getElem?_eq_some_iff.mp ih
      have named : (onward themes current (steps + 1)).name =
          themes[(place + steps) % themes.length].name := congrArg name reached.symm
      rw [onward_succ, ← next_of_named distinct within named, Nat.mod_add_mod, Nat.add_assoc]

/-- Of as many consecutive steps as a circle has places, just one leads to any given place. -/
theorem existsUnique_step {size place : Nat} (within : place < size) (start : Nat) :
    ∃! step, step < size ∧ (start + step) % size = place := by
  have known : start % size < size := Nat.mod_lt _ (Nat.zero_lt_of_lt within)
  refine existsUnique_of_exists_of_unique ?_ ?_
  · refine ⟨(place + size - start % size) % size, Nat.mod_lt _ (by omega), ?_⟩
    rw [← Nat.mod_add_mod, Nat.add_mod_mod, Nat.add_sub_cancel' (by omega), Nat.add_mod_right,
      Nat.mod_eq_of_lt within]
  · rintro first second ⟨first_lt, first_eq⟩ ⟨second_lt, second_eq⟩
    have same : start + first ≡ start + second [MOD size] := first_eq.trans second_eq.symm
    exact (Nat.ModEq.add_left_cancel' start same).eq_of_lt_of_lt first_lt second_lt

/-- The first step leads behind the theme that has the name of the current one, or to the
beginning. -/
theorem exists_first_step (some_theme : themes ≠ []) (distinct : (themes.map (·.name)).Nodup)
    (current : Theme) : ∃ place : Nat, themes[place]? = some (current.next themes) := by
  by_cases unnamed : ∀ theme ∈ themes, theme.name ≠ current.name
  · exact ⟨0, next_of_unnamed some_theme unnamed⟩
  · push Not at unnamed
    obtain ⟨theme, listed, named⟩ := unnamed
    obtain ⟨i, within, rfl⟩ := List.getElem_of_mem listed
    exact ⟨_, next_of_named distinct within named.symm⟩

/-- In a circle of themes with distinct names, any number of steps from a theme that has the name
of one of them leads as many places on, round and round, and from any other theme to the beginning
and on from there. As many consecutive steps as there are themes lead to each of them once. -/
theorem circle_of_names (some_theme : themes ≠ []) (distinct : (themes.map (·.name)).Nodup)
    (current : Theme) :
    (∀ (i : Nat) (within : i < themes.length), current.name = themes[i].name → ∀ steps, 1 ≤ steps →
      themes[(i + steps) % themes.length]? = some (onward themes current steps)) ∧
    (current.name ∉ themes.map (·.name) → ∀ steps, 1 ≤ steps →
      themes[(steps - 1) % themes.length]? = some (onward themes current steps)) ∧
    ∀ before, ∀ theme ∈ themes, ∃! step, step < themes.length ∧
      onward themes current (before + step + 1) = theme := by
  refine ⟨fun i within named steps some_step => ?_, fun unnamed steps some_step => ?_,
    fun before theme listed => ?_⟩
  · obtain ⟨more, rfl⟩ := Nat.exists_eq_add_of_le' some_step
    rw [← onward_of_next distinct (next_of_named distinct within named), Nat.mod_add_mod,
      Nat.add_assoc, Nat.add_comm 1]
  · obtain ⟨more, rfl⟩ := Nat.exists_eq_add_of_le' some_step
    have first : themes[0]? = some (current.next themes) := by
      refine next_of_unnamed some_theme fun theme listed same => unnamed ?_
      exact List.mem_map.mpr ⟨theme, listed, same⟩
    rw [← onward_of_next distinct first, Nat.zero_add, Nat.add_sub_cancel]
  · obtain ⟨place, within, rfl⟩ := List.getElem_of_mem listed
    obtain ⟨start, first⟩ := exists_first_step some_theme distinct current
    have reached (step : Nat) : onward themes current (before + step + 1) = themes[place] ↔
        (start + before + step) % themes.length = place := by
      obtain ⟨there, visited⟩ :=
        List.getElem?_eq_some_iff.mp (onward_of_next distinct first (before + step))
      rw [← visited, distinct.of_map.getElem_inj_iff, Nat.add_assoc]
    simpa only [reached] using existsUnique_step within (start + before)

/-- Round the built-in themes, from the second of them and from a theme of a name of its own. -/
theorem circle_of_names_builtin : (builtin.map (·.name)).Nodup ∧
    onward builtin papaya 5 = default ∧
    onward builtin { mono with name := "Mine" } 6 = mono ∧
    ∃! step, step < 3 ∧ onward builtin papaya (4 + step + 1) = mono := by
  have some_theme : builtin ≠ [] := List.cons_ne_nil _ _
  have distinct : (builtin.map (·.name)).Nodup := by decide
  obtain ⟨named, -, once⟩ := circle_of_names some_theme distinct papaya
  obtain ⟨-, unnamed, -⟩ := circle_of_names some_theme distinct { mono with name := "Mine" }
  have fifth := named 1 (by decide) rfl 5 (by decide)
  have sixth := unnamed (by decide) 6 (by decide)
  exact ⟨distinct, (Option.some.inj fifth).symm, (Option.some.inj sixth).symm,
    once 4 mono (by simp [builtin])⟩

end GuessingGame.Theme
