import TurtleLang.Document

/-!
Reading numbers. A number without fraction and exponent stays a whole number as
long as it fits: up to sixty-four bits, or sixty-three with a sign. Every other
number is a binary floating-point number, made from its leading digits and a
power of ten.
-/
namespace TurtleLang.Document

inductive Number where
  /-- A whole number without a sign. -/
  | natural (value : Nat)
  /-- A whole number below zero, given without its sign. -/
  | negative (value : Nat)
  | decimal (value : Decimal)
  deriving DecidableEq, Repr

def Number.found : Number → Found
  | .natural value => .integer value
  | .negative value => .integer (-(value : Int))
  | .decimal value => .decimal value

def greatestSignificand : Nat := Nat.pow 2 64 - 1

def greatestExponent : Nat := Nat.pow 2 31 - 1

/-- Adds digits to a value while it stays within the limit, and returns the
digits that no longer fit. -/
def gather (limit value : Nat) : List Char → Nat × List Char
  | [] => (value, [])
  | digit :: rest =>
      let next := value * 10 + (digit.toNat - 48)
      if limit < next then (value, digit :: rest) else gather limit next rest

def powerOfTen (exponent : Nat) : Float :=
  Float.ofScientific 1 false exponent

def divideByTens (value : Float) (exponent : Nat) : Float :=
  if exponent ≤ 308 then value / powerOfTen exponent
  else if value == 0 then value
  else divideByTens (value / powerOfTen 308) (exponent - 308)
termination_by exponent
decreasing_by omega

def scale (significand : Nat) (exponent : Int) : Option Float :=
  let value := significand.toUInt64.toFloat
  if exponent < 0 then some (divideByTens value (-exponent).toNat)
  else if exponent ≤ 308 then
    let product := value * powerOfTen exponent.toNat
    if product.isInf then none else some product
  else if significand = 0 then some value
  else none

def finishDecimal (signed : Bool) (significand : Nat) (exponent : Int) (rest : List Char) :
    Reading Number :=
  match scale significand exponent with
  | none => .error (.before .numberOutOfRange rest)
  | some value => .ok (.decimal (Decimal.ofFloat (if signed then -value else value)), rest)

/-- The whole number with the given sign. A signed zero, and a number too small
for sixty-three bits, is a floating-point number. -/
def finishWhole (signed : Bool) (significand : Nat) (rest : List Char) : Reading Number :=
  if signed = false then .ok (.natural significand, rest)
  else if significand = 0 ∨ Nat.pow 2 63 < significand then
    .ok (.decimal (Decimal.ofFloat (-significand.toUInt64.toFloat)), rest)
  else .ok (.negative significand, rest)

def exponentSign : List Char → Bool × List Char
  | '+' :: rest => (false, rest)
  | '-' :: rest => (true, rest)
  | rest => (false, rest)

/-- Reads an exponent whose mark has been read. An exponent with too many digits
makes the number too large, or zero. -/
def readExponent (signed : Bool) (significand : Nat) (shift : Int) (input : List Char) :
    Reading Number :=
  let (downward, unsigned) := exponentSign input
  let digits := unsigned.takeWhile Char.isDigit
  let rest := unsigned.dropWhile Char.isDigit
  if digits.isEmpty then
    match unsigned with
    | [] => .error (.before .endInValue [])
    | other => .error (.inside .invalidNumber other)
  else
    match gather greatestExponent 0 digits with
    | (exponent, []) =>
        finishDecimal signed significand
          (if downward then shift - exponent else shift + exponent) rest
    | (_, _ :: excess) =>
        if significand ≠ 0 ∧ downward = false then
          .error (.before .numberOutOfRange (excess ++ rest))
        else .ok (.decimal ⟨signed, 0, 0⟩, rest)

def readScale (signed : Bool) (significand : Nat) (shift : Int) (input : List Char) :
    Reading Number :=
  match input with
  | 'e' :: rest => readExponent signed significand shift rest
  | 'E' :: rest => readExponent signed significand shift rest
  | rest => finishDecimal signed significand shift rest

/-- Reads a fraction whose point has been read. Digits that no longer fit are
left out. -/
def readFraction (signed : Bool) (significand : Nat) (shift : Int) (input : List Char) :
    Reading Number :=
  let digits := input.takeWhile Char.isDigit
  let rest := input.dropWhile Char.isDigit
  if digits.isEmpty then
    match rest with
    | [] => .error (.before .endInValue [])
    | other => .error (.inside .invalidNumber other)
  else
    let (value, ignored) := gather greatestSignificand significand digits
    readScale signed value (shift - ((digits.length - ignored.length : Nat) : Int)) rest

/-- Reads what follows the whole part of a number. `excess` counts the digits of
the whole part that no longer fit. -/
def readTail (signed : Bool) (significand excess : Nat) (input : List Char) : Reading Number :=
  match input with
  | '.' :: rest => readFraction signed significand excess rest
  | 'e' :: rest => readExponent signed significand excess rest
  | 'E' :: rest => readExponent signed significand excess rest
  | rest =>
      if excess = 0 then finishWhole signed significand rest
      else finishDecimal signed significand excess rest

def readNumber (signed : Bool) (input : List Char) : Reading Number :=
  let digits := input.takeWhile Char.isDigit
  let rest := input.dropWhile Char.isDigit
  match digits with
  | [] =>
      match rest with
      | [] => .error (.before .endInValue [])
      | other => .error (.inside .invalidNumber other)
  | '0' :: more =>
      if more.isEmpty then readTail signed 0 0 rest
      else .error (.inside .invalidNumber (more ++ rest))
  | _ =>
      let (significand, excess) := gather greatestSignificand 0 digits
      readTail signed significand excess.length rest

end TurtleLang.Document
