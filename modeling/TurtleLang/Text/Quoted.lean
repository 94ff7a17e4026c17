/-!
String literals. A literal stands between double quotes; inside, a quote and a
backslash take a backslash, the five common control characters have a letter of
their own, every other control character is written with four hexadecimal
digits, and all else stands for itself. The same literal is a string in JSON and
in Python.
-/
namespace TurtleLang.Text

def hexDigit (value : Nat) : Char :=
  if value < 10 then Char.ofNat (48 + value) else Char.ofNat (87 + value)

def escape (character : Char) : List Char :=
  if character = '"' then ['\\', '"']
  else if character = '\\' then ['\\', '\\']
  else if character = '\x08' then ['\\', 'b']
  else if character = '\x0c' then ['\\', 'f']
  else if character = '\n' then ['\\', 'n']
  else if character = '\r' then ['\\', 'r']
  else if character = '\t' then ['\\', 't']
  else if character.toNat < 0x20 then
    ['\\', 'u', '0', '0', hexDigit (character.toNat / 16), hexDigit (character.toNat % 16)]
  else [character]

def literalOf (characters : List Char) : List Char :=
  '"' :: characters.flatMap escape ++ ['"']

def literal (text : String) : String :=
  String.ofList (literalOf text.toList)

end TurtleLang.Text
