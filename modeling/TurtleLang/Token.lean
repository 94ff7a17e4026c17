import TurtleLang.Text.Blank

/-!
Tokens of a command line: words and square brackets. Blanks separate words and
are dropped; a bracket is a token of its own wherever it stands.
-/
namespace TurtleLang

inductive Token where
  | word (text : String)
  | opening
  | closing
  deriving DecidableEq, Repr

namespace Token

def text : Token → String
  | .word content => content
  | .opening => "["
  | .closing => "]"

def finish (pending : List Char) : List Token :=
  if pending.isEmpty then [] else [.word (String.ofList pending.reverse)]

/-- The tokens of the characters. `pending` holds the characters of a word
already begun, last one first. -/
def scanFrom (pending : List Char) : List Char → List Token
  | [] => finish pending
  | character :: rest =>
      if Text.isBlank character then finish pending ++ scanFrom [] rest
      else if character = '[' then finish pending ++ .opening :: scanFrom [] rest
      else if character = ']' then finish pending ++ .closing :: scanFrom [] rest
      else scanFrom (character :: pending) rest

def scan (text : String) : List Token :=
  scanFrom [] text.toList

end Token

end TurtleLang
