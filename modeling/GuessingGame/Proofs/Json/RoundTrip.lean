import GuessingGame.Proofs.Json.Wording
import Mathlib.Data.List.Forall2

/-!
# Values are read back

A written value is a text that spells the tokens of the value, whatever its layout
(`tokens?_written`), and the tokens of a value are those of nothing else (`value?_tokens`). Both
go through arrays and objects alike: between the brackets stand pieces with commas between them,
and each is read for itself. So a value whose numbers are numbers is read back from its text,
`parse?_print`.
-/

namespace GuessingGame.Json

/-- What is true of a value if it is true of its items and members is true of all values. -/
@[elab_as_elim]
theorem induct {motive : Json → Prop} (null : motive .null) (bool : ∀ value, motive (.bool value))
    (number : ∀ digits, motive (.number digits)) (string : ∀ text, motive (.string text))
    (array : ∀ items, (∀ item ∈ items, motive item) → motive (.array items))
    (object : ∀ members, (∀ member ∈ members, motive member.2) → motive (.object members))
    (value : Json) : motive value :=
  @Json.rec motive (fun items => ∀ item ∈ items, motive item)
    (fun members => ∀ member ∈ members, motive member.2) (fun member => motive member.2)
    null bool number string array object (List.forall_mem_nil _)
    (fun _ _ first more => List.forall_mem_cons.mpr ⟨first, more⟩) (List.forall_mem_nil _)
    (fun _ _ first more => List.forall_mem_cons.mpr ⟨first, more⟩) (fun _ _ value => value) value

/-- The numbers of a value are spelt as numbers. -/
inductive Legal : Json → Prop
  | null : Legal .null
  | bool (value : Bool) : Legal (.bool value)
  | number {digits : List Char} : isNumber digits = true → Legal (.number digits)
  | string (text : Option (List Char)) : Legal (.string text)
  | array {items : List Json} : (∀ item ∈ items, Legal item) → Legal (.array items)
  | object {members : List (Option (List Char) × Json)} :
      (∀ member ∈ members, Legal member.2) → Legal (.object members)

def closed (closing : Token) : List (List Token) → List Token
  | [] => [closing]
  | piece :: pieces => .comma :: (piece ++ closed closing pieces)

def enclosed (opening closing : Token) : List (List Token) → List Token
  | [] => [opening, closing]
  | piece :: pieces => opening :: (piece ++ closed closing pieces)

mutual

def tokens : Json → List Token
  | .null => [.null]
  | .bool value => [.bool value]
  | .number digits => [.number digits]
  | .string text => [.string text]
  | .array items => enclosed .openBracket .closeBracket (tokensOfItems items)
  | .object members => enclosed .openBrace .closeBrace (tokensOfMembers members)

def tokensOfItems : List Json → List (List Token)
  | [] => []
  | item :: items => item.tokens :: tokensOfItems items

def tokensOfMembers : List (Option (List Char) × Json) → List (List Token)
  | [] => []
  | (name, value) :: members => (.string name :: .colon :: value.tokens) :: tokensOfMembers members

end

/-- A text is that of some tokens wherever no number and no name goes on behind it. -/
def Yields (text : List Char) (words : List Token) : Prop :=
  ∀ rest, Apart rest → tokens? (text ++ rest) = (tokens? rest).map (words ++ ·)

theorem apart_mark {c : Char} {token : Token} (mark : mark? c = some token) (rest : List Char) :
    Apart (c :: rest) := by
  rintro first head
  cases head
  exact (not_space_of_mark mark).2

theorem Apart.lineBreak {rest : List Char} (apart : Apart rest) (layout : Layout) (depth : Nat) :
    Apart (layout.lineBreak depth ++ rest) := by
  cases layout with
  | compact => exact apart
  | indented =>
      rintro c head
      cases head
      decide

/-- Pieces behind commas, up to the closing bracket. -/
theorem tokens?_closed {closing : Char} {last : Token} (closes : mark? closing = some last)
    (layout : Layout) (depth : Nat) {pieces : List (List Char)} {words : List (List Token)}
    (yields : List.Forall₂ Yields pieces words) (rest : List Char) :
    let text := pieces.flatMap (fun piece => ',' :: (layout.lineBreak (depth + 1) ++ piece)) ++
      (layout.lineBreak depth ++ closing :: rest)
    Apart text ∧ tokens? text = (tokens? rest).map (closed last words ++ ·) := by
  induction yields with
  | nil =>
      refine ⟨(apart_mark closes rest).lineBreak layout depth, ?_⟩
      rw [List.flatMap_nil, List.nil_append, tokens?_lineBreak, tokens?_mark closes]
      rfl
  | cons first others ih =>
      obtain ⟨apart, read⟩ := ih
      have comma : mark? ',' = some .comma := rfl
      simp only [List.flatMap_cons, List.cons_append, List.append_assoc] at apart read ⊢
      refine ⟨apart_mark comma _, ?_⟩
      rw [tokens?_mark comma, tokens?_lineBreak, first _ apart, read]
      simp [closed, Function.comp_def]

/-- Pieces between brackets. -/
theorem tokens?_bracketed {opening closing : Char} {first last : Token}
    (opens : mark? opening = some first) (closes : mark? closing = some last) (layout : Layout)
    (depth : Nat) {pieces : List (List Char)} {words : List (List Token)}
    (yields : List.Forall₂ Yields pieces words) (rest : List Char) :
    tokens? (bracketed layout depth opening closing pieces ++ rest) =
      (tokens? rest).map (enclosed first last words ++ ·) := by
  cases yields with
  | nil =>
      simp only [bracketed, List.cons_append, List.nil_append]
      rw [tokens?_mark opens, tokens?_mark closes]
      simp [enclosed, Function.comp_def]
  | cons head others =>
      obtain ⟨apart, read⟩ := tokens?_closed closes layout depth others rest
      simp only [bracketed, List.cons_append, List.append_assoc, List.nil_append] at apart read ⊢
      rw [tokens?_mark opens, tokens?_lineBreak, head _ apart, read]
      simp [enclosed, Function.comp_def]

theorem tokens?_colon (layout : Layout) (rest : List Char) :
    tokens? (layout.colon ++ rest) = (tokens? rest).map (.colon :: ·) := by
  have colon : mark? ':' = some .colon := rfl
  cases layout with
  | compact => exact tokens?_mark colon rest
  | indented =>
      simp only [Layout.colon, List.cons_append, List.nil_append]
      rw [tokens?_mark colon, tokens?_space (by decide)]

theorem yields_items {layout : Layout} {depth : Nat} {items : List Json}
    (yields : ∀ item ∈ items, Yields (written layout depth item) item.tokens) :
    List.Forall₂ Yields (writtenItems layout depth items) (tokensOfItems items) := by
  induction items with
  | nil => exact .nil
  | cons item items ih =>
      rw [List.forall_mem_cons] at yields
      exact .cons yields.1 (ih yields.2)

theorem yields_members {layout : Layout} {depth : Nat}
    {members : List (Option (List Char) × Json)}
    (yields : ∀ member ∈ members, Yields (written layout depth member.2) member.2.tokens) :
    List.Forall₂ Yields (writtenMembers layout depth members) (tokensOfMembers members) := by
  induction members with
  | nil => exact .nil
  | cons member members ih =>
      obtain ⟨name, value⟩ := member
      rw [List.forall_mem_cons] at yields
      refine .cons (fun rest apart => ?_) (ih yields.2)
      rw [List.append_assoc, List.append_assoc, tokens?_quoted, tokens?_colon, yields.1 rest apart]
      simp [Function.comp_def]

/-- Whatever its layout, a value is read as its tokens. -/
theorem Legal.yields {value : Json} (legal : value.Legal) (layout : Layout) (depth : Nat) :
    Yields (written layout depth value) value.tokens := by
  induction legal generalizing depth with
  | null =>
      intro rest apart
      rw [written]
      exact tokens?_name (by decide) apart
  | bool value =>
      intro rest apart
      cases value <;> rw [written] <;> exact tokens?_name (by decide) apart
  | number number => exact fun rest apart => tokens?_number number apart
  | string text => exact fun rest apart => tokens?_quoted text rest
  | array _ ih =>
      intro rest apart
      rw [written, tokens]
      exact tokens?_bracketed rfl rfl layout depth (yields_items fun item listed => ih item listed _) rest
  | object _ ih =>
      intro rest apart
      rw [written, tokens]
      exact tokens?_bracketed rfl rfl layout depth
        (yields_members fun member listed => ih member listed _) rest

theorem head?_enclosed (opening closing : Token) (pieces : List (List Token)) (rest : List Token) :
    (enclosed opening closing pieces ++ rest).head? = some opening := by
  cases pieces <;> rfl

/-- No value begins with a bracket that closes one. -/
theorem head?_tokens_ne (value : Json) (rest : List Token) :
    (value.tokens ++ rest).head? ≠ some .closeBracket := by
  cases value with
  | array items =>
      rw [tokens, head?_enclosed]
      decide
  | object members =>
      rw [tokens, head?_enclosed]
      decide
  | _ => simp [tokens]

theorem value?_of_items {fuel : Nat} {words rest : List Token} {items : List Json}
    (some_item : words.head? ≠ some .closeBracket) (read : items? fuel words = some (items, rest)) :
    value? (fuel + 1) (.openBracket :: words) = some (.array items, rest) := by
  cases words with
  | nil => simp [value?, read]
  | cons word words => cases word <;> simp_all [value?]

theorem value?_of_members {fuel : Nat} {words rest : List Token}
    {members : List (Option (List Char) × Json)} (some_member : words.head? ≠ some .closeBrace)
    (read : members? fuel words = some (members, rest)) :
    value? (fuel + 1) (.openBrace :: words) = some (.object members, rest) := by
  cases words with
  | nil => simp [value?, read]
  | cons word words => cases word <;> simp_all [value?]

/-- A value is read from its tokens, whatever stands behind them. There are two rounds for each
token: one for the value that it begins, and one for the list that the value is an item of. -/
def Reads (value : Json) : Prop :=
  ∀ fuel rest, 2 * value.tokens.length ≤ fuel →
    value? fuel (value.tokens ++ rest) = some (value, rest)

theorem items?_tokens {item : Json} {items : List Json} (first : Reads item)
    (others : ∀ item ∈ items, Reads item) {fuel : Nat} (rest : List Token)
    (enough : 2 * (item.tokens ++ closed .closeBracket (tokensOfItems items)).length ≤ fuel) :
    items? fuel (item.tokens ++ closed .closeBracket (tokensOfItems items) ++ rest) =
      some (item :: items, rest) := by
  induction items generalizing item fuel with
  | nil =>
      simp only [tokensOfItems, closed, List.length_append, List.length_singleton] at enough
      obtain ⟨fuel, rfl⟩ : ∃ less, fuel = less + 1 := ⟨fuel - 1, by omega⟩
      rw [items?, tokensOfItems, closed, List.append_assoc, first fuel _ (by omega)]
      rfl
  | cons next items ih =>
      rw [List.forall_mem_cons] at others
      simp only [tokensOfItems, closed, List.length_append, List.length_cons] at enough
      obtain ⟨fuel, rfl⟩ : ∃ less, fuel = less + 1 := ⟨fuel - 1, by omega⟩
      have enough : 2 * (next.tokens ++
          closed .closeBracket (tokensOfItems items)).length ≤ fuel := by
        rw [List.length_append]
        omega
      have more := ih others.1 others.2 enough
      rw [items?, tokensOfItems, closed, List.append_assoc, first fuel _ (by omega)]
      simp only [List.cons_append, more, Option.map_some]

theorem members?_tokens {name : Option (List Char)} {value : Json}
    {members : List (Option (List Char) × Json)} (first : Reads value)
    (others : ∀ member ∈ members, Reads member.2) {fuel : Nat} (rest : List Token)
    (enough : 2 * (.string name :: .colon :: (value.tokens ++
      closed .closeBrace (tokensOfMembers members))).length ≤ fuel) :
    members? fuel (.string name :: .colon :: (value.tokens ++
      closed .closeBrace (tokensOfMembers members) ++ rest)) =
        some ((name, value) :: members, rest) := by
  induction members generalizing name value fuel with
  | nil =>
      simp only [tokensOfMembers, closed, List.length_cons, List.length_append] at enough
      obtain ⟨fuel, rfl⟩ : ∃ less, fuel = less + 1 := ⟨fuel - 1, by omega⟩
      rw [members?, tokensOfMembers, closed, List.append_assoc, first fuel _ (by omega)]
      rfl
  | cons next members ih =>
      obtain ⟨name', value'⟩ := next
      rw [List.forall_mem_cons] at others
      simp only [tokensOfMembers, closed, List.length_cons, List.length_append] at enough
      obtain ⟨fuel, rfl⟩ : ∃ less, fuel = less + 1 := ⟨fuel - 1, by omega⟩
      have second : Reads value' := others.1
      have enough : 2 * (Token.string name' :: .colon :: (value'.tokens ++
          closed .closeBrace (tokensOfMembers members))).length ≤ fuel := by
        rw [List.length_cons, List.length_cons, List.length_append]
        omega
      have more := ih second others.2 enough
      rw [members?, tokensOfMembers, closed, List.append_assoc, first fuel _ (by omega)]
      simp only [List.cons_append, more, Option.map_some]

/-- Every value is read from its tokens. -/
theorem reads (value : Json) : Reads value := by
  induction value using induct with
  | array items ih =>
      intro fuel rest enough
      cases items with
      | nil =>
          simp only [tokens, tokensOfItems, enclosed, List.length_cons] at enough
          obtain ⟨fuel, rfl⟩ : ∃ less, fuel = less + 1 := ⟨fuel - 1, by omega⟩
          rfl
      | cons item items =>
          rw [List.forall_mem_cons] at ih
          simp only [tokens, tokensOfItems, enclosed, List.length_cons, List.cons_append]
            at enough ⊢
          obtain ⟨fuel, rfl⟩ : ∃ less, fuel = less + 1 := ⟨fuel - 1, by omega⟩
          refine value?_of_items ?_ (items?_tokens ih.1 ih.2 rest (by omega))
          rw [List.append_assoc]
          exact head?_tokens_ne item _
  | object members ih =>
      intro fuel rest enough
      cases members with
      | nil =>
          simp only [tokens, tokensOfMembers, enclosed, List.length_cons] at enough
          obtain ⟨fuel, rfl⟩ : ∃ less, fuel = less + 1 := ⟨fuel - 1, by omega⟩
          rfl
      | cons member members =>
          obtain ⟨name, value⟩ := member
          rw [List.forall_mem_cons] at ih
          simp only [tokens, tokensOfMembers, enclosed, List.length_cons, List.cons_append]
            at enough ⊢
          obtain ⟨fuel, rfl⟩ : ∃ less, fuel = less + 1 := ⟨fuel - 1, by omega⟩
          refine value?_of_members (by simp) (members?_tokens ih.1 ih.2 rest ?_)
          simp only [List.length_cons]
          omega
  | _ =>
      intro fuel rest enough
      simp only [tokens, List.length_singleton] at enough
      obtain ⟨fuel, rfl⟩ : ∃ less, fuel = less + 1 := ⟨fuel - 1, by omega⟩
      simp only [tokens, List.cons_append, List.nil_append, value?]

/-- The tokens of a value are those of no other. -/
theorem ofTokens?_tokens (value : Json) : ofTokens? value.tokens = some value := by
  have read := reads value (2 * value.tokens.length) [] (Nat.le_refl _)
  rw [List.append_nil] at read
  rw [ofTokens?, read]

theorem tokens?_blanks {blanks : List Char} (blank : ∀ c ∈ blanks, isSpace c = true) :
    Apart blanks ∧ tokens? blanks = some [] := by
  induction blanks with
  | nil => exact ⟨nofun, by rw [tokens?]⟩
  | cons c blanks ih =>
      rw [List.forall_mem_cons] at blank
      refine ⟨?_, by rw [tokens?_space blank.1, (ih blank.2).2]⟩
      have spaces : c = ' ' ∨ c = '\n' ∨ c = '\r' ∨ c = '\t' := by
        simpa [isSpace, or_assoc] using blank.1
      rintro first head
      cases head
      rcases spaces with rfl | rfl | rfl | rfl <;> decide

/-- A written value is read back, whatever its layout and whatever blanks stand behind it. -/
theorem parse?_print {value : Json} (legal : value.Legal) (layout : Layout) {blanks : String}
    (blank : ∀ c ∈ blanks.toList, isSpace c = true) :
    parse? (print layout value ++ blanks) = some value := by
  obtain ⟨apart, behind⟩ := tokens?_blanks blank
  rw [parse?, print, String.toList_append, String.toList_ofList, legal.yields layout 0 _ apart,
    behind, Option.map_some, List.append_nil, Option.bind_some, ofTokens?_tokens]

end GuessingGame.Json
