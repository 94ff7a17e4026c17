import TurtleLang.Text.Blank
import TurtleLang.Text.Lower

/-!
The executable lines of a source text. A line is trimmed, and a line that is
blank or starts with the comment mark is dropped; each remaining line keeps the
number of the physical line it came from.
-/
namespace TurtleLang

/-- An executable line with its physical number, counted from one. -/
structure Line where
  number : Nat
  text : String
  deriving DecidableEq, Repr

def isSkipped (text : String) : Bool :=
  match Text.dropBlanks text.toList with
  | [] => true
  | first :: _ => first == ';'

def numberLines (number : Nat) : List String → List Line
  | [] => []
  | text :: rest => ⟨number, Text.trim text⟩ :: numberLines (number + 1) rest

def executableLines (source : String) : List Line :=
  (numberLines 1 (Text.lines source)).filter fun line => !isSkipped line.text

def isHeader (text : String) : Bool :=
  match Text.words text with
  | [] => false
  | first :: _ => Text.lowerAscii first == "to"

def isTerminator (text : String) : Bool :=
  Text.lowerAscii (Text.trim text) == "end"

end TurtleLang
