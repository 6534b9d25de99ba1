import GuessingGame.CommandLine.Perform
import GuessingGame.Proofs.Console.Walk
import GuessingGame.Proofs.Json.RoundTrip
import GuessingGame.Proofs.Optional
import GuessingGame.Proofs.Text.Runs

/-!
# Exported games

A game that is exported as JSON is an object with a member for each of its parts. The parts are
looked up by their names, which differ, so each of them is found (`partsOfJson?_record`), and what
is found is read as what was written. With the round trip of JSON itself the text of a game is read
back as the game, in either layout.
-/

namespace GuessingGame.Game

open CommandLine
open Json (Legal)

def record (fields : List (String × Json)) : Json :=
  .object (fields.map fun field => (some field.1.toList, field.2))

theorem legal_record {fields : List (String × Json)} (legal : ∀ field ∈ fields, Legal field.2) :
    (record fields).Legal := by
  refine .object fun member listed => ?_
  obtain ⟨field, among, rfl⟩ := List.mem_map.mp listed
  exact legal field among

/-- Where the names differ, there is one field with the name of a field. -/
theorem filter_name {fields : List (String × Json)} (distinct : (fields.map (·.1)).Nodup)
    {field : String × Json} (listed : field ∈ fields) :
    fields.filter (fun other => other.1 = field.1) = [field] := by
  induction fields with
  | nil => cases listed
  | cons first fields ih =>
      rw [List.map_cons, List.nodup_cons] at distinct
      rcases List.mem_cons.mp listed with rfl | listed
      · have others : fields.filter (fun other => other.1 = field.1) = [] := by
          rw [List.filter_eq_nil_iff]
          intro other among same
          exact distinct.1 (of_decide_eq_true same ▸ List.mem_map_of_mem among)
        rw [List.filter_cons_of_pos (by simp), others]
      · have differ : first.1 ≠ field.1 := fun same =>
          distinct.1 (same ▸ List.mem_map_of_mem listed)
        rw [List.filter_cons_of_neg (by simp [differ]), ih distinct.2 listed]

/-- The parts of a record are found under their names. -/
theorem partsOfJson?_record {fields : List (String × Json)}
    (distinct : (fields.map (·.1)).Nodup) :
    partsOfJson? (fields.map (·.1)) (record fields) =
      some (fields.map fun field => some field.2) := by
  have named : (fields.map fun field => (some field.1.toList, field.2)).all (·.1.isSome) = true := by
    simp
  simp only [record, partsOfJson?]
  rw [if_pos named, List.mapM_map, mapM_map_eq_some_iff]
  intro field listed
  have found : (fields.map fun other => (some other.1.toList, other.2)).filter
      (fun member => member.1 = some field.1.toList) = [(some field.1.toList, field.2)] := by
    rw [List.filter_map, Function.comp_def]
    simp only [Option.some.injEq, String.toList_inj, filter_name distinct listed, List.map_cons,
      List.map_nil]
  simp only [Function.comp_apply, found]

theorem numberJson_eq (value : UInt64) :
    numberJson value = .number (Nat.toDigits 10 value.toNat) := by
  rw [numberJson]
  simp [toString]

theorem legal_textJson (text : String) : (textJson text).Legal := .string _

theorem legal_numberJson (value : UInt64) : (numberJson value).Legal := by
  rw [numberJson_eq]
  exact .number (Json.isNumber_decimal _)

theorem legal_optionJson (text : Option String) : (optionJson text).Legal := by
  cases text with
  | none => exact .null
  | some text => exact legal_textJson text

theorem textOfJson?_textJson (text : String) : textOfJson? (textJson text) = some text := by
  rw [textJson, textOfJson?, String.ofList_toList]

theorem numberOfJson?_numberJson (value : UInt64) :
    numberOfJson? (numberJson value) = some value := by
  rw [numberJson_eq, numberOfJson?, Text.word?_decimal]

/-- What is missing is written as `null`, and no text is. -/
theorem optionOfJson?_optionJson (text : Option String) :
    optionOfJson? (some (optionJson text)) = some text := by
  cases text with
  | none => rfl
  | some text =>
      have read : (textOfJson? (textJson text)).map some = some (some text) := by
        rw [textOfJson?_textJson, Option.map_some]
      exact read

theorem levelJson_eq (level : Level) : levelJson level = record [
    ("level_number", numberJson level.number), ("target", optionJson level.target),
    ("hint", optionJson level.hint)] :=
  rfl

theorem toJson_eq (game : Game) : game.toJson = record [
    ("title", textJson game.title), ("max_lives", numberJson game.maxLives),
    ("levels", .array (game.levels.map levelJson)), ("loose_target", optionJson game.looseTarget),
    ("loose_hint", optionJson game.looseHint)] :=
  rfl

theorem legal_levelJson (level : Level) : (levelJson level).Legal := by
  rw [levelJson_eq]
  refine legal_record ?_
  simp [legal_numberJson, legal_optionJson]

theorem legal_toJson (game : Game) : game.toJson.Legal := by
  have levels : (Json.array (game.levels.map levelJson)).Legal := by
    refine .array fun value listed => ?_
    obtain ⟨level, -, rfl⟩ := List.mem_map.mp listed
    exact legal_levelJson level
  rw [toJson_eq]
  refine legal_record ?_
  simp [legal_textJson, legal_numberJson, legal_optionJson, levels]

theorem levelOfJson?_levelJson (level : Level) : levelOfJson? (levelJson level) = some level := by
  have parts : partsOfJson? ["level_number", "target", "hint"] (levelJson level) =
      some [some (numberJson level.number), some (optionJson level.target),
        some (optionJson level.hint)] := by
    rw [levelJson_eq]
    exact partsOfJson?_record (by simp)
  simp only [levelOfJson?, parts]
  simp [numberOfJson?_numberJson, optionOfJson?_optionJson]

theorem levelsOfJson?_levelJson (levels : List Level) :
    levelsOfJson? (.array (levels.map levelJson)) = some levels := by
  have each : levelOfJson? ∘ levelJson = some := funext levelOfJson?_levelJson
  rw [levelsOfJson?, List.mapM_map, each]
  exact List.mapM_pure.trans (congrArg some (List.map_id levels))

/-- A game is read from the value that it is written as. -/
theorem ofJson?_toJson (game : Game) : ofJson? game.toJson = some game := by
  have parts : partsOfJson? ["title", "max_lives", "levels", "loose_target", "loose_hint"]
      game.toJson = some [some (textJson game.title), some (numberJson game.maxLives),
        some (.array (game.levels.map levelJson)), some (optionJson game.looseTarget),
        some (optionJson game.looseHint)] := by
    rw [toJson_eq]
    exact partsOfJson?_record (by simp)
  simp only [ofJson?, parts]
  simp [textOfJson?_textJson, numberOfJson?_numberJson, levelsOfJson?_levelJson,
    optionOfJson?_optionJson]

theorem parse?_writeJson (game : Game) (layout : Json.Layout) {blanks : String}
    (blank : ∀ c ∈ blanks.toList, Json.isSpace c = true) :
    Json.parse? (game.writeJson layout ++ blanks) = some game.toJson :=
  Json.parse?_print (legal_toJson game) layout blank

/-- Blanks behind the text do not matter. -/
theorem readJson?_writeJson (game : Game) (layout : Json.Layout) {blanks : String}
    (blank : ∀ c ∈ blanks.toList, Json.isSpace c = true) :
    readJson? (game.writeJson layout ++ blanks) = some game := by
  rw [readJson?, parse?_writeJson game layout blank, Option.bind_some, ofJson?_toJson]

/-- What is shown of a script that describes a game, in whatever format. -/
theorem perform_inspect {text : String} {game : Game} (described : Script.readGame text = .ok game)
    (format : Format) (input written : List UInt8) :
    (Command.inspect format).perform text (Console.ample input written) =
      (0, Console.ample input (written ++ Text.Utf8.encode (format.text game))) := by
  simp only [Command.perform, withGame, described, saying]
  rfl

/-- Reading back the JSON text of a game, in either layout. It is the text of one value, the one
that the game is written as, and gives the game back, with all that its texts hold and whatever
was missing. So no two games have the same text. What is shown of a script is such a text with a
line end behind it, and is read back as well. -/
theorem readJson?_of_export (game : Game) :
    (∀ layout, Json.parse? (game.writeJson layout) = some game.toJson ∧
      readJson? (game.writeJson layout) = some game ∧
      ∀ other : Game, other.writeJson layout = game.writeJson layout ↔ other = game) ∧
    readJson? (Format.text game .json) = some game ∧
    ∀ (text : String) (input written : List UInt8), Script.readGame text = .ok game →
      (Command.inspect .json).perform text (Console.ample input written) =
        (0, Console.ample input
          (written ++ Text.Utf8.encode (Format.text game .json))) := by
  have nothing : ∀ c ∈ "".toList, Json.isSpace c = true := by simp
  have read (game : Game) (layout : Json.Layout) :
      readJson? (game.writeJson layout) = some game := by
    simpa using readJson?_writeJson game layout nothing
  refine ⟨fun layout => ⟨?_, read game layout, fun other => ⟨fun same => ?_, ?_⟩⟩, ?_, ?_⟩
  · simpa using parse?_writeJson game layout nothing
  · have games := read other layout
    rw [same, read game layout] at games
    exact (Option.some.inj games).symm
  · rintro rfl
    rfl
  · exact readJson?_writeJson game .indented (by simp [Json.isSpace])
  · exact fun text input written described => perform_inspect described .json input written

example : writeJson .compact {
      title := "\"\n"
      maxLives := 18446744073709551615
      levels := [{ number := 1, hint := some "" }] } =
    "\x7b\"title\":\"\\\"\\n\",\"max_lives\":18446744073709551615," ++
      "\"levels\":[\x7b\"level_number\":1,\"target\":null,\"hint\":\"\"\x7d]," ++
      "\"loose_target\":null,\"loose_hint\":null\x7d" := by
  decide +kernel

end GuessingGame.Game
