import TurtleLang.Text.CaseContext
import TurtleLang.Text.LowerTable

/-!
Lower case, in two strengths. `lower` follows the full rules: every letter that
has a lower-case form takes it, the dotted capital I becomes two characters, and
a capital sigma that ends a word takes its final form. `lowerAscii` touches the
letters A to Z alone. Names that a program chooses are compared in the first
form, fixed words of the language in the second.
-/
namespace TurtleLang.Text

def lowerCharacter (character : Char) : List Char :=
  if character.toNat < 0x80 then [character.toLower]
  else if character = 'İ' then ['i', '\u0307']
  else
    match lowerRuns.find? (·.contains character.toNat) with
    | some run => [Char.ofNat (run.lower character.toNat)]
    | none => [character]

/-- Whether the first character that case rules do not look through is a cased
letter. -/
def meetsCased (characters : List Char) : Bool :=
  match characters.dropWhile isCaseIgnorable with
  | [] => false
  | character :: _ => isCased character

/-- A sigma ends a word when a cased letter comes before it and none after it.
The characters before are given last one first. -/
def endsWord (before after : List Char) : Bool :=
  meetsCased before && !meetsCased after

/-- Lower case of `after`, a text whose earlier characters are `before`, last
one first. -/
def lowerFrom (before : List Char) : List Char → List Char
  | [] => []
  | character :: after =>
      (if character = 'Σ' then [if endsWord before after then 'ς' else 'σ']
        else lowerCharacter character) ++
      lowerFrom (character :: before) after

def lower (text : String) : String :=
  String.ofList (lowerFrom [] text.toList)

def lowerAscii (text : String) : String :=
  String.ofList (text.toList.map Char.toLower)

end TurtleLang.Text
