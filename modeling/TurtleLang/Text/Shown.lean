import TurtleLang.Text.CodeRange
import TurtleLang.Text.HiddenTable

/-!
Text shown inside a message. It stands between double quotes, and a character
that would not be seen, or would merge with its neighbour, is spelled by its
code point. Control characters with a letter of their own keep it.
-/
namespace TurtleLang.Text

def hexDigits (value : Nat) : List Char :=
  Nat.toDigits 16 value

def showCharacter (character : Char) : List Char :=
  if character = '"' then ['\\', '"']
  else if character = '\\' then ['\\', '\\']
  else if character = '\n' then ['\\', 'n']
  else if character = '\r' then ['\\', 'r']
  else if character = '\t' then ['\\', 't']
  else if character = '\x00' then ['\\', '0']
  else if inRanges hiddenRanges character then
    ['\\', 'u', '\x7b'] ++ hexDigits character.toNat ++ ['\x7d']
  else [character]

def shown (text : String) : String :=
  String.ofList ('"' :: text.toList.flatMap showCharacter ++ ['"'])

end TurtleLang.Text
