/-!
Blank characters and the cuts that depend on them: trimming, words and physical
lines. Every cut works on a list of characters by one pass from left to right,
with the piece being read kept back to front; the `String` forms only convert.
-/
namespace TurtleLang.Text

/-- The characters that separate words: tab to carriage return, the space, and
the separators and line marks beyond ASCII. The information separators, the
zero-width characters and the byte order mark are not among them. -/
def isBlank (character : Char) : Bool :=
  let code := character.toNat
  (0x09 ≤ code && code ≤ 0x0D) || code == 0x20 || code == 0x85 || code == 0xA0 ||
  code == 0x1680 || (0x2000 ≤ code && code ≤ 0x200A) || code == 0x2028 || code == 0x2029 ||
  code == 0x202F || code == 0x205F || code == 0x3000

def dropBlanks (characters : List Char) : List Char :=
  characters.dropWhile isBlank

def trimBlanks (characters : List Char) : List Char :=
  (dropBlanks (dropBlanks characters).reverse).reverse

def trim (text : String) : String :=
  String.ofList (trimBlanks text.toList)

def finishWord (pending : List Char) : List (List Char) :=
  if pending.isEmpty then [] else [pending.reverse]

/-- The maximal runs of characters that are not blank. `pending` holds the
characters of a run already begun, last one first. -/
def wordsFrom (pending : List Char) : List Char → List (List Char)
  | [] => finishWord pending
  | character :: rest =>
      if isBlank character then finishWord pending ++ wordsFrom [] rest
      else wordsFrom (character :: pending) rest

def words (text : String) : List String :=
  (wordsFrom [] text.toList).map String.ofList

/-- A physical line read back to front, without the carriage return that may
stand directly before its line feed. -/
def finishLine : List Char → List Char
  | '\r' :: pending => pending.reverse
  | pending => pending.reverse

/-- The physical lines of a text. Only a line feed ends a line; an unfinished
last line counts when it holds a character, and keeps its carriage return. -/
def linesFrom (pending : List Char) : List Char → List (List Char)
  | [] => if pending.isEmpty then [] else [pending.reverse]
  | character :: rest =>
      if character = '\n' then finishLine pending :: linesFrom [] rest
      else linesFrom (character :: pending) rest

def lines (text : String) : List String :=
  (linesFrom [] text.toList).map String.ofList

end TurtleLang.Text
