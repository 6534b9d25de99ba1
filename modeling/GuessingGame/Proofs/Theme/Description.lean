import GuessingGame.Proofs.Optional
import GuessingGame.Proofs.Theme.Spelling
import GuessingGame.Theme.Custom

/-!
# What the description of a theme paints

A theme is described by a record of texts. Whether there is a theme depends on the record alone:
under each key there has to be a text or nothing (`ofYaml?_eq_some_iff`). What stands there for a
part of the screen is then a colour, and paints that part, or it is not, and leaves it as it is in
the theme that the description starts from.
-/

namespace GuessingGame

namespace Yaml.Place

/-- The parts of a record are looked up one by one among its entries, if it has any. -/
theorem exists_part? (place : Place) : ∃ (given? : Option (List (String × Place)))
    (part? : List (String × Place) → String → Option (Option Place)),
    ∀ names, place.parts? names = given?.bind fun given => names.mapM (part? given) := by
  unfold parts?
  cases place.follow? with
  | none => exact ⟨none, fun _ _ => none, fun _ => rfl⟩
  | some place =>
      cases node : place.node with
      | mapping anchor entries =>
          simp only [Option.bind_eq_bind, Option.bind_some, node]
          exact ⟨_, _, fun _ => rfl⟩
      | scalar anchor tag style text =>
          simp only [Option.bind_eq_bind, Option.bind_some, node]
          by_cases empty : style = .plain ∧ text = []
          · simp only [if_pos empty]
            exact ⟨_, _, fun _ => rfl⟩
          · simp only [if_neg empty]
            exact ⟨none, fun _ _ => none, fun _ => rfl⟩
      | _ =>
          simp only [Option.bind_eq_bind, Option.bind_some, node]
          exact ⟨none, fun _ _ => none, fun _ => rfl⟩

end Yaml.Place

namespace Theme

/-- What a record gives under a key: a text, or nothing. -/
def Gives (root : Yaml.Place) (key : String) (text : Option String) : Prop :=
  ∃ part, root.parts? [key] = some [part] ∧ textOf? part = some text

/-- The texts under several keys, if under each of them there is one or nothing. -/
def texts? (keys : List String) (root : Yaml.Place) : Option (List (Option String)) :=
  (root.parts? keys).bind fun parts => parts.mapM textOf?

/-- Each text of a record is read for itself. -/
theorem texts?_cases (root : Yaml.Place) :
    (∀ keys, texts? keys root = none) ∧ (∀ key text, ¬Gives root key text) ∨
    ∃ text? : String → Option (Option String), (∀ keys, texts? keys root = keys.mapM text?) ∧
      ∀ key text, Gives root key text ↔ text? key = some text := by
  obtain ⟨given?, part?, parts⟩ := root.exists_part?
  cases given? with
  | none =>
      have none (keys : List String) : root.parts? keys = none := parts keys
      refine .inl ⟨fun keys => by rw [texts?, none]; rfl, ?_⟩
      rintro key text ⟨part, held, -⟩
      rw [none] at held
      cases held
  | some given =>
      have each (keys : List String) : root.parts? keys = keys.mapM (part? given) := parts keys
      refine .inr ⟨fun key => (part? given key).bind textOf?, fun keys => ?_, fun key text => ?_⟩
      · rw [texts?, each, mapM_bind_mapM]
      · rw [Gives, each]
        cases held : part? given key <;> simp [held]

/-- The texts of a record are those under each of the keys. -/
theorem texts?_eq_some_iff {keys : List String} (some_key : keys ≠ []) {root : Yaml.Place}
    {texts : List (Option String)} : texts? keys root = some texts ↔
      ∃ entry : String → Option String, (∀ key ∈ keys, Gives root key (entry key)) ∧
        texts = keys.map entry := by
  rcases texts?_cases root with ⟨none, never⟩ | ⟨text?, each, gives⟩
  · rw [none]
    constructor
    · nofun
    · rintro ⟨entry, given, -⟩
      obtain ⟨key, listed⟩ := List.exists_mem_of_ne_nil keys some_key
      exact absurd (given key listed) (never key _)
  · simp only [each, gives]
    constructor
    · intro read
      have form := eq_map_of_mapM read none
      refine ⟨fun key => (text? key).getD none, ?_, form⟩
      rw [form] at read
      exact mapM_map_eq_some_iff.mp read
    · rintro ⟨entry, given, rfl⟩
      exact mapM_map_eq_some_iff.mpr given

def keys : List String := ["name", "base"] ++ Role.all.map Role.key

/-- What a part of the screen is painted with, by what is written for it and the colour that it
has without. -/
inductive Painted : Option String → Color → Color → Prop
  | missing {base : Color} : Painted none base base
  | taken {text : String} {base color : Color} :
      Color.Taken (Text.trim text.toList) color → Painted (some text) base color
  | malformed {text : String} {base : Color} :
      (∀ color, ¬Color.Taken (Text.trim text.toList) color) → Painted (some text) base base

/-- What can be read as a colour paints, and nothing else. -/
theorem painted_iff {text : Option String} {base color : Color} :
    Painted text base color ↔ color = (text.bind Color.parse?).getD base := by
  cases text with
  | none =>
      constructor
      · rintro ⟨⟩
        rfl
      · rintro rfl
        exact .missing
  | some text =>
      rw [Option.bind_some]
      cases read : Color.parse? text with
      | none =>
          have never (color : Color) : ¬Color.Taken (Text.trim text.toList) color := by
            rw [← Color.parse?_eq_some_iff, read]
            nofun
          constructor
          · intro painted
            cases painted with
            | taken taken => exact absurd taken (never _)
            | malformed => rfl
          · rintro rfl
            exact .malformed never
      | some paint =>
          have taken := Color.parse?_eq_some_iff.mp read
          constructor
          · intro painted
            cases painted with
            | taken taken' =>
                rw [← Color.parse?_eq_some_iff, read] at taken'
                exact (Option.some.inj taken').symm
            | malformed never => exact absurd taken (never _)
          · rintro rfl
            exact .taken taken

def base (entry : String → Option String) : Theme := ((entry "base").bind named?).getD default

/-- The theme that the texts under the keys describe. -/
def described (entry : String → Option String) : Theme where
  name := (entry "name").getD "Custom"
  color role := ((entry role.key).bind Color.parse?).getD ((base entry).color role)

theorem lookup_roles (color : Role → Option String) (role : Role) :
    (Role.all.zip (Role.all.map color)).lookup role = some (color role) := by
  cases role <;> rfl

/-- The theme that the texts describe, if they are given in the order of the keys. -/
def ofTexts? : List (Option String) → Option Theme
  | name :: base :: colors => some {
      name := name.getD "Custom"
      color := fun role => (((Role.all.zip colors).lookup role).join.bind Color.parse?).getD
        (((base.bind named?).getD default).color role) }
  | _ => none

theorem ofYaml?_eq (root : Yaml.Place) : ofYaml? root = (texts? keys root).bind ofTexts? := by
  unfold ofYaml? texts? keys
  cases root.parts? (["name", "base"] ++ Role.all.map Role.key) <;> rfl

theorem ofTexts?_keys (entry : String → Option String) :
    ofTexts? (keys.map entry) = some (described entry) := by
  have order : keys.map entry =
      entry "name" :: entry "base" :: Role.all.map fun role => entry role.key := rfl
  rw [order, ofTexts?]
  simp only [lookup_roles]
  rfl

/-- A record describes a theme just when there is a text or nothing under each key. -/
theorem ofYaml?_eq_some_iff {root : Yaml.Place} {theme : Theme} :
    ofYaml? root = some theme ↔ ∃ entry : String → Option String,
      (∀ key ∈ keys, Gives root key (entry key)) ∧ theme.name = (entry "name").getD "Custom" ∧
        ∀ role, Painted (entry role.key) ((base entry).color role) (theme.color role) := by
  have painted (entry : String → Option String) : theme = described entry ↔
      theme.name = (entry "name").getD "Custom" ∧
        ∀ role, Painted (entry role.key) ((base entry).color role) (theme.color role) := by
    simp only [painted_iff]
    rw [← funext_iff, described, Theme.mk.injEq]
  have some_key : keys ≠ [] := List.cons_ne_nil _ _
  rw [ofYaml?_eq, Option.bind_eq_some_iff]
  simp only [← painted, texts?_eq_some_iff some_key]
  constructor
  · rintro ⟨texts, ⟨entry, given, rfl⟩, read⟩
    rw [ofTexts?_keys] at read
    exact ⟨entry, given, (Option.some.inj read).symm⟩
  · rintro ⟨entry, given, rfl⟩
    exact ⟨_, ⟨entry, given, rfl⟩, ofTexts?_keys entry⟩

/-- What is read as a colour, and what the texts of a description paint. Every way to write a
colour is read, and nothing else is, just when the text is no colour at all or has neither a plus
sign nor a Kelvin sign. The colours of a description that cannot be read are those of the theme
that it starts from. -/
theorem colors_of_description (text description : String) :
    (∀ color, Color.parse? text = some color ↔ Color.Taken (Text.trim text.toList) color) ∧
      ((∀ color, Color.parse? text = some color ↔ Color.Written (Text.trim text.toList) color) ↔
        Color.parse? text = none ∨
          '+' ∉ Text.trim text.toList ∧ Text.kelvin ∉ Text.trim text.toList) ∧
      (∀ color, Color.Written (Text.trim text.toList) color → Color.parse? text = some color) ∧
      (∀ color, Color.Written text.toList color → Color.parse? text = some color) ∧
      (∀ r g b, Color.Written (Color.mixed r g b).name.toList (.mixed r g b)) ∧
      ∀ theme, parse? description = some theme ↔ ∃ (root : Yaml.Place)
        (entry : String → Option String), Yaml.read? description = some root ∧
          (∀ key ∈ keys, Gives root key (entry key)) ∧
          theme.name = (entry "name").getD "Custom" ∧
          ∀ role, Painted (entry role.key) ((base entry).color role) (theme.color role) := by
  refine ⟨fun _ => Color.parse?_eq_some_iff, Color.parse?_written_iff, fun color written => ?_,
    fun color written => ?_, Color.written_name, fun theme => ?_⟩
  · exact Color.parse?_eq_some_iff.mpr written.taken
  · rw [← written.parse?_eq, String.ofList_toList]
  · rw [parse?, Option.bind_eq_some_iff]
    simp only [ofYaml?_eq_some_iff, exists_and_left]

/-- Plus signs are read in place of digits, and a Kelvin sign in place of a letter; the former
paint the text of a theme that would stay white. -/
theorem unwritten_colors :
    (Color.parse? "#+f+f+f" = some (.mixed 15 15 15) ∧
      ∀ color, ¬Color.Written (Text.trim "#+f+f+f".toList) color) ∧
    (Color.parse? "blac\u212a" = some .black ∧
      ∀ color, ¬Color.Written (Text.trim "blac\u212a".toList) color) ∧
    default.color .text = .white ∧
    ((parse? "fg: \"#+f+f+f\"\n").map fun theme => theme.color .text) =
      some (.mixed 15 15 15) := by
  refine ⟨⟨by decide +kernel, fun color written => ?_⟩, ⟨by decide +kernel, fun color written => ?_⟩,
    rfl, by decide +kernel⟩
  · exact (Color.written_iff.mp written).2.1 (by decide +kernel)
  · exact (Color.written_iff.mp written).2.2 (by decide +kernel)

end Theme

end GuessingGame
