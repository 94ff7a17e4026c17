import TurtleLang.Decimal
import TurtleLang.Text.Shown

/-!
What can be wrong with a settings document, and where. A settings document is
JSON and is read from left to right; the first problem ends the reading. Readers
take the characters still to be read and return a value with the characters
left. A fault says how many bytes were unread when it was found, from which its
line and column follow.
-/
namespace TurtleLang.Document

inductive Found where
  | null
  | boolean (value : Bool)
  | integer (value : Int)
  | decimal (value : Decimal)
  | text (value : String)
  | sequence
  | map
  deriving DecidableEq, Repr

def Found.message : Found → String
  | .null => "null"
  | .boolean value => "boolean `" ++ (if value then "true" else "false") ++ "`"
  | .integer value => "integer `" ++ toString value ++ "`"
  | .decimal value => "floating point `" ++ value.render .message ++ "`"
  | .text value => "string " ++ Text.shown value
  | .sequence => "sequence"
  | .map => "map"

inductive Expected where
  | settings
  | indent
  | nothing
  deriving DecidableEq, Repr

def Expected.message : Expected → String
  | .settings => "struct TranslateOptions"
  | .indent => "usize"
  | .nothing => "unit"

inductive Problem where
  | endInValue
  | endInObject
  | endInList
  | endInText
  | expectedValue
  | expectedWord
  | expectedColon
  | expectedCommaOrBrace
  | expectedCommaOrBracket
  | keyNotText
  | trailingComma
  | trailingCharacters
  | invalidNumber
  | numberOutOfRange
  | invalidEscape
  | controlCharacter
  | surrogateCutOff
  | surrogateAlone
  | wrongType (found : Found) (expected : Expected)
  | negativeIndent (value : Int)
  | unknownField (name : String)
  | duplicateField (name : String)
  | unknownPolicy (name : String)
  deriving DecidableEq, Repr

def Problem.message : Problem → String
  | .endInValue => "EOF while parsing a value"
  | .endInObject => "EOF while parsing an object"
  | .endInList => "EOF while parsing a list"
  | .endInText => "EOF while parsing a string"
  | .expectedValue => "expected value"
  | .expectedWord => "expected ident"
  | .expectedColon => "expected `:`"
  | .expectedCommaOrBrace => "expected `,` or `\x7d`"
  | .expectedCommaOrBracket => "expected `,` or `]`"
  | .keyNotText => "key must be a string"
  | .trailingComma => "trailing comma"
  | .trailingCharacters => "trailing characters"
  | .invalidNumber => "invalid number"
  | .numberOutOfRange => "number out of range"
  | .invalidEscape => "invalid escape"
  | .controlCharacter => "control character (\\u0000-\\u001F) found while parsing a string"
  | .surrogateCutOff => "unexpected end of hex escape"
  | .surrogateAlone => "lone leading surrogate in hex escape"
  | .wrongType found expected =>
      "invalid type: " ++ found.message ++ ", expected " ++ expected.message
  | .negativeIndent value =>
      "invalid value: integer `" ++ toString value ++ "`, expected " ++ Expected.indent.message
  | .unknownField name => "unknown field `" ++ name ++ "`, expected `indent` or `split`"
  | .duplicateField name => "duplicate field `" ++ name ++ "`"
  | .unknownPolicy name => "unknown variant `" ++ name ++ "`, expected `command` or `token`"

/-- A problem, with the number of bytes that were unread when it was found. -/
structure Fault where
  problem : Problem
  unread : Nat
  deriving DecidableEq, Repr

abbrev Reading (value : Type) := Except Fault (value × List Char)

def andThen {first second : Type} (reading : Reading first)
    (continuation : first → List Char → Reading second) : Reading second :=
  match reading with
  | .error fault => .error fault
  | .ok (value, rest) => continuation value rest

def byteLength : List Char → Nat
  | [] => 0
  | character :: rest => character.utf8Size + byteLength rest

/-- A fault found after everything before `rest` was read. -/
def Fault.before (problem : Problem) (rest : List Char) : Fault :=
  ⟨problem, byteLength rest⟩

/-- A fault found in the next byte of `rest`, which then counts as read. At the
end of the document there is no such byte. -/
def Fault.inside (problem : Problem) (rest : List Char) : Fault :=
  ⟨problem, byteLength rest - 1⟩

/-- A place in a document: the line, counted from one, and the number of bytes
read on it. -/
structure Position where
  line : Nat
  column : Nat
  deriving DecidableEq, Repr

def Position.advance (position : Position) (bytes : Nat) : List Char → Position
  | [] => position
  | character :: rest =>
      if character.utf8Size ≤ bytes then
        let next : Position :=
          if character = '\n' then ⟨position.line + 1, 0⟩
          else ⟨position.line, position.column + character.utf8Size⟩
        next.advance (bytes - character.utf8Size) rest
      else ⟨position.line, position.column + bytes⟩

def Fault.position (document : List Char) (fault : Fault) : Position :=
  Position.advance ⟨1, 0⟩ (byteLength document - fault.unread) document

def skipBlanks (input : List Char) : List Char :=
  input.dropWhile fun character =>
    character == ' ' || character == '\t' || character == '\n' || character == '\r'

def readWord : List Char → List Char → Reading Unit
  | [], input => .ok ((), input)
  | _ :: _, [] => .error (.before .endInValue [])
  | expected :: word, character :: rest =>
      if character = expected then readWord word rest
      else .error (.inside .expectedWord (character :: rest))

end TurtleLang.Document
