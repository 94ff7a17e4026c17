import Mathlib.Data.List.Forall2
import TurtleLang.Document.Quoted
import TurtleLang.Proofs.AsciiCase

/-!
String literals are read back as they were written. A literal is a row of signs between two
double quotes, one sign for each character of its text: the character itself, a letter behind a
backslash, or four hexadecimal digits behind `\u`. The reader takes a literal apart sign by sign
and knows no escapes but these. What a quoted word gives as an input is a literal of the text
behind the quote, whatever that text is, so different words give different literals.
-/
namespace TurtleLang.Text

set_option autoImplicit false

def escapedBy? : Char → Option Char
  | '"' => some '"'
  | '\\' => some '\\'
  | 'b' => some '\x08'
  | 'f' => some '\x0c'
  | 'n' => some '\n'
  | 'r' => some '\r'
  | 't' => some '\t'
  | _ => none

def fourDigits? (a b c d : Char) : Option Nat :=
  match Document.hexValue a, Document.hexValue b, Document.hexValue c, Document.hexValue d with
  | some a, some b, some c, some d => some (((a * 16 + b) * 16 + c) * 16 + d)
  | _, _, _, _ => none

inductive Sign : List Char → Char → Prop
  | plain {character : Char} : 0x20 ≤ character.toNat → character ≠ '"' → character ≠ '\\' →
      Sign [character] character
  | letter {letter character : Char} : escapedBy? letter = some character →
      Sign ['\\', letter] character
  | code {a b c d character : Char} : fourDigits? a b c d = some character.toNat →
      Sign ['\\', 'u', a, b, c, d] character

/-- The literal is a row of signs between quotes, one sign for each character of the text. -/
def Spelled (literal text : String) : Prop :=
  ∃ signs, literal.toList = '"' :: signs.flatten ++ ['"'] ∧ List.Forall₂ Sign signs text.toList

def readCode : List Char → Option (Char × List Char)
  | a :: b :: c :: d :: rest =>
      match fourDigits? a b c d with
      | some code => if code.isValidChar then some (Char.ofNat code, rest) else none
      | none => none
  | _ => none

def readEscape : List Char → Option (Char × List Char)
  | [] => none
  | letter :: rest =>
      if letter = 'u' then readCode rest
      else (escapedBy? letter).map fun character => (character, rest)

def readSign : List Char → Option (Char × List Char)
  | [] => none
  | first :: rest =>
      if first = '\\' then readEscape rest
      else if first = '"' ∨ first.toNat < 0x20 then none
      else some (first, rest)

theorem read_code_eq_some {input rest : List Char} {character : Char} :
    readCode input = some (character, rest) ↔
      ∃ a b c d, fourDigits? a b c d = some character.toNat ∧ input = a :: b :: c :: d :: rest := by
  constructor
  · intro read
    unfold readCode at read
    split at read
    · next a b c d after =>
        split at read
        · next code spelled =>
            split at read
            · next valid =>
                cases read
                exact ⟨a, b, c, d, by rw [spelled, to_nat_of_nat valid], rfl⟩
            · cases read
        · cases read
    · cases read
  · rintro ⟨a, b, c, d, spelled, whole⟩
    have valid : character.toNat.isValidChar := character.valid
    rw [whole, readCode, spelled]
    dsimp only
    rw [if_pos valid, Char.ofNat_toNat]

theorem read_escape_eq_some {input rest : List Char} {character : Char} :
    readEscape input = some (character, rest) ↔
      ∃ sign, Sign ('\\' :: sign) character ∧ sign ≠ [] ∧ input = sign ++ rest := by
  constructor
  · intro read
    unfold readEscape at read
    split at read
    · cases read
    · next letter after =>
        split at read
        · next long =>
            obtain ⟨a, b, c, d, spelled, whole⟩ := read_code_eq_some.mp read
            exact ⟨['u', a, b, c, d], .code spelled, by simp, by simp [long, whole]⟩
        · next short =>
            obtain ⟨found, named, same⟩ := Option.map_eq_some_iff.mp read
            cases same
            exact ⟨[letter], .letter named, by simp, rfl⟩
  · rintro ⟨sign, stands, filled, whole⟩
    rw [whole]
    cases stands with
    | plain _ _ noBackslash => exact absurd rfl noBackslash
    | @letter letter _ named =>
        have short : letter ≠ 'u' := by
          intro same
          rw [same] at named
          cases named
        rw [List.singleton_append, readEscape, if_neg short, named]
        rfl
    | code spelled =>
        rw [List.cons_append, readEscape, if_pos rfl]
        exact read_code_eq_some.mpr ⟨_, _, _, _, spelled, rfl⟩

theorem read_sign_eq_some {input rest : List Char} {character : Char} :
    readSign input = some (character, rest) ↔
      ∃ sign, Sign sign character ∧ input = sign ++ rest := by
  constructor
  · intro read
    unfold readSign at read
    split at read
    · cases read
    · next first after =>
        split at read
        · next escapes =>
            obtain ⟨sign, stands, _, whole⟩ := read_escape_eq_some.mp read
            exact ⟨'\\' :: sign, stands, by rw [escapes, whole, List.cons_append]⟩
        · next noBackslash =>
            split at read
            · cases read
            · next allowed =>
                cases read
                rw [not_or, Nat.not_lt] at allowed
                exact ⟨[character], .plain allowed.2 allowed.1 noBackslash, rfl⟩
  · rintro ⟨sign, stands, whole⟩
    rw [whole]
    cases stands with
    | plain printable noQuote noBackslash =>
        have allowed : ¬(character = '"' ∨ character.toNat < 0x20) :=
          not_or.mpr ⟨noQuote, Nat.not_lt.mpr printable⟩
        rw [List.singleton_append, readSign, if_neg noBackslash, if_neg allowed]
    | letter named =>
        rw [List.cons_append, readSign, if_pos rfl]
        exact read_escape_eq_some.mpr ⟨_, .letter named, by simp, rfl⟩
    | code spelled =>
        rw [List.cons_append, readSign, if_pos rfl]
        exact read_escape_eq_some.mpr ⟨_, .code spelled, by simp, rfl⟩

theorem sign_ne_nil {sign : List Char} {character : Char} (stands : Sign sign character) :
    sign ≠ [] := by
  cases stands <;> simp

theorem read_sign_rest_length {input rest : List Char} {character : Char}
    (read : readSign input = some (character, rest)) : rest.length < input.length := by
  obtain ⟨sign, stands, whole⟩ := read_sign_eq_some.mp read
  have filled := List.length_pos_iff.mpr (sign_ne_nil stands)
  rw [whole, List.length_append]
  omega

/-- Reads signs up to the closing quote, which is consumed, and returns what follows it. -/
def readSigns (input : List Char) : Option (List Char × List Char) :=
  if input.head? = some '"' then some ([], input.tail)
  else
    match found : readSign input with
    | none => none
    | some (character, rest) =>
        have : rest.length < input.length := read_sign_rest_length found
        (readSigns rest).map fun (characters, after) => (character :: characters, after)
termination_by input.length

def readLiteral (literal : String) : Option String :=
  match literal.toList with
  | '"' :: inside =>
      match readSigns inside with
      | some (characters, []) => some (String.ofList characters)
      | _ => none
  | _ => none

/-- A sign does not start with a quote, so a row of signs ends at the first quote that starts
none. -/
theorem sign_head {sign : List Char} {character : Char} (stands : Sign sign character)
    (rest : List Char) : (sign ++ rest).head? ≠ some '"' := by
  cases stands with
  | plain _ noQuote _ => simpa using noQuote
  | letter _ => simp
  | code _ => simp

theorem read_signs_sign {sign : List Char} {character : Char} (stands : Sign sign character)
    (rest : List Char) : readSigns (sign ++ rest) =
      (readSigns rest).map fun (characters, after) => (character :: characters, after) := by
  have read : readSign (sign ++ rest) = some (character, rest) :=
    read_sign_eq_some.mpr ⟨sign, stands, rfl⟩
  rw [readSigns, if_neg (sign_head stands rest)]
  split
  · next missing => cases read.symm.trans missing
  · next found =>
      cases read.symm.trans found
      rfl

/-- The reader takes rows of signs up to a closing quote, and nothing else. -/
theorem read_signs_eq_some {input characters rest : List Char} :
    readSigns input = some (characters, rest) ↔
      ∃ signs, List.Forall₂ Sign signs characters ∧ input = signs.flatten ++ '"' :: rest := by
  constructor
  · intro read
    fun_induction readSigns input generalizing characters with
    | case1 input closes =>
        obtain ⟨after, whole⟩ := List.head?_eq_some_iff.mp closes
        rw [whole] at read
        cases read
        exact ⟨[], .nil, whole⟩
    | case2 => cases read
    | case3 input continues character after found shorter ih =>
        obtain ⟨⟨others, left⟩, readRest, same⟩ := Option.map_eq_some_iff.mp read
        cases same
        obtain ⟨signs, stand, whole⟩ := ih readRest
        obtain ⟨sign, stands, split⟩ := read_sign_eq_some.mp found
        refine ⟨sign :: signs, .cons stands stand, ?_⟩
        rw [split, whole, List.flatten_cons, List.append_assoc]
  · rintro ⟨signs, stand, whole⟩
    rw [whole]
    clear whole
    induction stand with
    | nil =>
        have closes : ('"' :: rest).head? = some '"' := rfl
        rw [List.flatten_nil, List.nil_append, readSigns, if_pos closes]
        rfl
    | cons stands _ ih =>
        rw [List.flatten_cons, List.append_assoc, read_signs_sign stands, ih]
        rfl

/-- The reader knows exactly the literals that are spelled as described. -/
theorem read_literal_eq_some {literal text : String} :
    readLiteral literal = some text ↔ Spelled literal text := by
  constructor
  · intro read
    unfold readLiteral at read
    split at read
    · next inside opened =>
        split at read
        · next characters found =>
            cases read
            obtain ⟨signs, stand, whole⟩ := read_signs_eq_some.mp found
            rw [Spelled, String.toList_ofList]
            exact ⟨signs, by rw [opened, whole, List.cons_append], stand⟩
        · cases read
    · cases read
  · rintro ⟨signs, whole, stand⟩
    have read : readSigns (signs.flatten ++ ['"']) = some (text.toList, []) :=
      read_signs_eq_some.mpr ⟨signs, stand, rfl⟩
    unfold readLiteral
    rw [whole, List.cons_append]
    simp only [read, String.ofList_toList]

/-- The quote at the end belongs to the escape, so the literal is not closed. -/
example : readLiteral "\"a\\\"" = none := by decide +kernel

theorem escape_ascii_read :
    ∀ code < 0x80, readSign (escape (Char.ofNat code)) = some (Char.ofNat code, []) := by
  decide

theorem escape_ascii_printable :
    ∀ code < 0x80,
      ((escape (Char.ofNat code)).all fun image => decide (0x20 ≤ image.toNat)) = true := by
  decide

theorem escape_sign (character : Char) : Sign (escape character) character := by
  induction character using ascii_induction with
  | ascii code small =>
      obtain ⟨sign, stands, whole⟩ := read_sign_eq_some.mp (escape_ascii_read code small)
      rwa [whole, List.append_nil]
  | beyond character large _ =>
      rw [escape_beyond large]
      apply Sign.plain (by omega)
      · intro same
        rw [same] at large
        exact absurd large (by decide)
      · intro same
        rw [same] at large
        exact absurd large (by decide)

theorem escape_printable (character : Char) :
    ∀ image ∈ escape character, 0x20 ≤ image.toNat := by
  induction character using ascii_induction with
  | ascii code small =>
      intro image member
      have printable := List.all_eq_true.mp (escape_ascii_printable code small) image member
      exact of_decide_eq_true printable
  | beyond character large _ =>
      intro image member
      rw [escape_beyond large, List.mem_singleton] at member
      rw [member]
      omega

theorem escapes_stand (characters : List Char) :
    List.Forall₂ Sign (characters.map escape) characters := by
  induction characters with
  | nil => exact .nil
  | cons character characters ih => exact .cons (escape_sign character) ih

theorem literal_spelled (text : String) : Spelled (literal text) text := by
  refine ⟨text.toList.map escape, ?_, escapes_stand text.toList⟩
  rw [literal, String.toList_ofList, literalOf, List.flatMap_def]

end TurtleLang.Text

namespace TurtleLang

set_option autoImplicit false

theorem input_of_quoted (text : String) : inputOf ("\"" ++ text) = Text.literal text := by
  have spelled : ("\"" ++ text).toList = '"' :: text.toList := by simp
  unfold inputOf
  simp only [spelled, String.ofList_toList]

theorem literal_printable (text : String) :
    ∀ character ∈ (Text.literal text).toList, 0x20 ≤ character.toNat := by
  intro character member
  rw [Text.literal, String.toList_ofList, Text.literalOf, List.mem_append, List.mem_cons,
    List.mem_singleton, List.mem_flatMap] at member
  rcases member with (quote | ⟨original, _, written⟩) | quote
  · rw [quote]
    decide
  · exact Text.escape_printable original character written
  · rw [quote]
    decide

/-- A quoted word gives a literal of the text behind the quote: between two quotes it has one
complete sign for each character, none of its characters is below the space, and it is read
back as that text. So no other quoted word gives the same literal. -/
theorem input_of_quoted_read_back (text : String) :
    Text.Spelled (inputOf ("\"" ++ text)) text ∧
      (∀ character ∈ (inputOf ("\"" ++ text)).toList, 0x20 ≤ character.toNat) ∧
      Text.readLiteral (inputOf ("\"" ++ text)) = some text ∧
      ∀ other, inputOf ("\"" ++ other) = inputOf ("\"" ++ text) ↔ other = text := by
  have readBack : ∀ written, Text.readLiteral (inputOf ("\"" ++ written)) = some written := by
    intro written
    rw [input_of_quoted]
    exact Text.read_literal_eq_some.mpr (Text.literal_spelled written)
  refine ⟨Text.read_literal_eq_some.mp (readBack text), ?_, readBack text, ?_⟩
  · rw [input_of_quoted]
    exact literal_printable text
  · intro other
    constructor
    · intro same
      have texts : some other = some text := by rw [← readBack other, same, readBack text]
      exact Option.some.inj texts
    · intro same
      rw [same]

end TurtleLang
