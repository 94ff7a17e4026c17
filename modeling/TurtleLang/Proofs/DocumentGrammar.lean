import Mathlib.Data.List.Forall2

/-!
The grammar of documents, without regard to how one is read. A value is given with all the
characters it may be written with: blanks between its parts, any of the escapes in its strings,
any form of a number. Strings are compared by the sixteen-bit units they stand for, because an
escape names one unit and a document may name units that no text has.
-/
namespace TurtleLang.Document

set_option autoImplicit false

def Gap (blanks : List Char) : Prop :=
  ∀ character ∈ blanks,
    character = ' ' ∨ character = '\t' ∨ character = '\n' ∨ character = '\r'

def Digits (characters : List Char) : Prop :=
  characters ≠ [] ∧ ∀ character ∈ characters, character.isDigit = true

/-- The parts of a number as they are written; a part that is absent is empty. -/
structure Numeral where
  minus : Bool
  whole : List Char
  fraction : List Char
  exponent : List Char

namespace Numeral

def text (numeral : Numeral) : List Char :=
  (if numeral.minus then ['-'] else []) ++ numeral.whole ++ numeral.fraction ++ numeral.exponent

/-- The digits in front of the point: a zero alone, or digits that do not start with one. -/
def IsWhole (characters : List Char) : Prop :=
  characters = ['0'] ∨ Digits characters ∧ characters.head? ≠ some '0'

inductive IsFraction : List Char → Prop
  | intro {digits : List Char} : Digits digits → IsFraction ('.' :: digits)

inductive IsExponent : List Char → Prop
  | intro {mark : Char} {sign digits : List Char} : mark = 'e' ∨ mark = 'E' →
      sign = [] ∨ sign = ['+'] ∨ sign = ['-'] → Digits digits →
      IsExponent (mark :: (sign ++ digits))

structure WellFormed (numeral : Numeral) : Prop where
  whole : IsWhole numeral.whole
  fraction : numeral.fraction = [] ∨ IsFraction numeral.fraction
  exponent : numeral.exponent = [] ∨ IsExponent numeral.exponent

end Numeral

/-- The sixteen-bit units of a character: one, or a pair of surrogates. -/
def unitsOf (character : Char) : List Nat :=
  if character.toNat < 0x10000 then [character.toNat]
  else [0xD800 + (character.toNat - 0x10000) / 0x400, 0xDC00 + (character.toNat - 0x10000) % 0x400]

def units (text : String) : List Nat :=
  text.toList.flatMap unitsOf

def escapeLetters : List (Char × Char) :=
  [('"', '"'), ('\\', '\\'), ('/', '/'), ('b', '\x08'), ('f', '\x0c'), ('n', '\n'), ('r', '\r'),
    ('t', '\t')]

def hexDigits : List (Char × Nat) :=
  [('0', 0), ('1', 1), ('2', 2), ('3', 3), ('4', 4), ('5', 5), ('6', 6), ('7', 7), ('8', 8),
    ('9', 9), ('a', 10), ('b', 11), ('c', 12), ('d', 13), ('e', 14), ('f', 15), ('A', 10),
    ('B', 11), ('C', 12), ('D', 13), ('E', 14), ('F', 15)]

inductive Sign : List Char → List Nat → Prop
  | plain {character : Char} : 0x20 ≤ character.toNat → character ≠ '"' → character ≠ '\\' →
      Sign [character] (unitsOf character)
  | letter {letter character : Char} : (letter, character) ∈ escapeLetters →
      Sign ['\\', letter] (unitsOf character)
  | code {a b c d : Char} {first second third fourth : Nat} : (a, first) ∈ hexDigits →
      (b, second) ∈ hexDigits → (c, third) ∈ hexDigits → (d, fourth) ∈ hexDigits →
      Sign ['\\', 'u', a, b, c, d] [((first * 16 + second) * 16 + third) * 16 + fourth]

inductive Quoted : List Nat → List Char → Prop
  | intro {signs : List (List Char)} {pieces : List (List Nat)} : List.Forall₂ Sign signs pieces →
      Quoted pieces.flatten (signs.flatten ++ ['"'])

inductive Value where
  | null
  | boolean (value : Bool)
  | number (numeral : Numeral)
  | text (units : List Nat)
  | list (elements : List Value)
  | object (members : List (List Nat × Value))

/-- Items behind an item: each of them follows a comma, and the closing mark follows the last. -/
inductive Behind {Item : Type} (Part : Item → List Char → Prop) (closing : Char) :
    List Item → List Char → Prop
  | close {blanks : List Char} : Gap blanks → Behind Part closing [] (blanks ++ [closing])
  | more {blanks text rest : List Char} {item : Item} {items : List Item} : Gap blanks →
      Part item text → Behind Part closing items rest →
      Behind Part closing (item :: items) (blanks ++ ',' :: (text ++ rest))

inductive Inside {Item : Type} (Part : Item → List Char → Prop) (closing : Char) :
    List Item → List Char → Prop
  | empty {blanks : List Char} : Gap blanks → Inside Part closing [] (blanks ++ [closing])
  | filled {text rest : List Char} {item : Item} {items : List Item} : Part item text →
      Behind Part closing items rest → Inside Part closing (item :: items) (text ++ rest)

inductive Element (Written : Value → List Char → Prop) : Value → List Char → Prop
  | intro {blanks text : List Char} {value : Value} : Gap blanks → Written value text →
      Element Written value (blanks ++ text)

inductive Member (Written : Value → List Char → Prop) : List Nat × Value → List Char → Prop
  | intro {front back quoted text : List Char} {key : List Nat} {value : Value} : Gap front →
      Quoted key quoted → Gap back → Element Written value text →
      Member Written (key, value) (front ++ '"' :: (quoted ++ (back ++ ':' :: text)))

inductive Written : Value → List Char → Prop
  | null : Written .null ['n', 'u', 'l', 'l']
  | yes : Written (.boolean true) ['t', 'r', 'u', 'e']
  | no : Written (.boolean false) ['f', 'a', 'l', 's', 'e']
  | number {numeral : Numeral} : numeral.WellFormed → Written (.number numeral) numeral.text
  | text {units : List Nat} {quoted : List Char} : Quoted units quoted →
      Written (.text units) ('"' :: quoted)
  | list {elements : List Value} {text : List Char} :
      Inside (Element Written) ']' elements text → Written (.list elements) ('[' :: text)
  | object {members : List (List Nat × Value)} {text : List Char} :
      Inside (Member Written) '\x7d' members text → Written (.object members) ('\x7b' :: text)

def IsObject (text : String) (members : List (List Nat × Value)) : Prop :=
  ∃ front object back, Gap front ∧ Written (.object members) object ∧ Gap back ∧
    text.toList = front ++ object ++ back

theorem quoted_cons {sign quoted : List Char} {piece key : List Nat} (stands : Sign sign piece)
    (spelled : Quoted key quoted) : Quoted (piece ++ key) (sign ++ quoted) := by
  cases spelled with
  | @intro signs pieces others =>
      have longer := Quoted.intro (.cons stands others)
      rwa [List.flatten_cons, List.flatten_cons, List.append_assoc] at longer

theorem quoted_plain (text : String) (plain : ∀ character ∈ text.toList,
    0x20 ≤ character.toNat ∧ character ≠ '"' ∧ character ≠ '\\') :
    Quoted (units text) (text.toList ++ ['"']) := by
  unfold units
  revert plain
  induction text.toList with
  | nil =>
      intro _
      exact Quoted.intro .nil
  | cons character characters ih =>
      intro plain
      obtain ⟨⟨printable, noQuote, noBackslash⟩, others⟩ := List.forall_mem_cons.mp plain
      have longer := quoted_cons (Sign.plain printable noQuote noBackslash) (ih others)
      exact longer

theorem gap_none : Gap [] := by
  simp [Gap]

theorem gap_space : Gap [' '] := by
  simp [Gap]

end TurtleLang.Document
