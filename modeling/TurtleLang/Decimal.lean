/-!
Decimal text of binary floating-point numbers. A finite double is a whole number
of units of a power of two, and the reals that round to it form an interval
around it; `shortest` finds the fewest digits of a decimal in that interval, the
nearest one when there are several, in exact integer arithmetic. `DecimalStyle`
holds the decisions of a notation.
-/
namespace TurtleLang

structure Decimal where
  negative : Bool
  digits : Nat
  exponent : Int
  deriving DecidableEq, Repr

namespace Decimal

def powerFraction (base : Nat) (exponent : Int) : Nat × Nat :=
  if 0 ≤ exponent then (base.pow exponent.toNat, 1) else (1, base.pow (-exponent).toNat)

/-- The exponent of the leading decimal digit of a positive fraction that is at
least `10 ^ (-400)`. -/
def leadingExponent (numerator denominator : Nat) : Int :=
  ((Nat.toDigits 10 (numerator * Nat.pow 10 400 / denominator)).length : Int) - 401

/-- A decimal without the zeros at the end of its digits, found by dividing at
most `fuel` times. -/
def dropZeros : Nat → Nat → Int → Nat × Int
  | 0, digits, exponent => (digits, exponent)
  | fuel + 1, digits, exponent =>
      if digits ≠ 0 ∧ digits % 10 = 0 then dropZeros fuel (digits / 10) (exponent + 1)
      else (digits, exponent)

/-- The best decimal on the grid of multiples of `10 ^ exponent` for a value with
the bounds of its interval, all three in units of `numerator / denominator`. Of
the two neighbours of the value the one inside the interval is taken; of two the
nearer, and of two equally near the even one. -/
def onGrid (numerator denominator lower value upper : Nat) (closed : Bool) (exponent : Int) :
    Option Nat :=
  let (gridUp, gridDown) := powerFraction 10 exponent
  let scale := denominator * gridUp
  let unit := numerator * gridDown
  let below := value * unit / scale
  let inside (candidate : Nat) : Bool :=
    if closed then lower * unit ≤ candidate * scale && candidate * scale ≤ upper * unit
    else lower * unit < candidate * scale && candidate * scale < upper * unit
  let downward := value * unit - below * scale
  let upward := (below + 1) * scale - value * unit
  match inside below, inside (below + 1) with
  | false, false => none
  | true, false => some below
  | false, true => some (below + 1)
  | true, true =>
      if downward < upward ∨ (downward = upward ∧ below % 2 = 0) then some below
      else some (below + 1)

/-- The fewest digits whose decimal reads back as `mantissa * 2 ^ power`. The
interval is closed when the mantissa is even; below a power of two, `narrow`,
its lower half is half as wide. -/
def shortest (mantissa : Nat) (power : Int) (narrow : Bool) : Nat × Int :=
  let (numerator, denominator) := powerFraction 2 (power - 2)
  let value := 4 * mantissa
  let lower := if narrow then value - 1 else value - 2
  let upper := value + 2
  let leading := leadingExponent (value * numerator) denominator
  let attempt (count : Nat) : Option (Nat × Int) :=
    let exponent := leading - (count : Int)
    (onGrid numerator denominator lower value upper (mantissa % 2 == 0) exponent).map
      fun digits => (digits, exponent)
  match (List.range 17).findSome? attempt with
  | some (digits, exponent) => dropZeros 20 digits exponent
  | none => (0, 0)

def ofBits (bits : UInt64) : Decimal :=
  let pattern := bits.toNat
  let negative := pattern / Nat.pow 2 63 == 1
  let biased := pattern / Nat.pow 2 52 % Nat.pow 2 11
  let fraction := pattern % Nat.pow 2 52
  if biased = 0 then
    if fraction = 0 then ⟨negative, 0, 0⟩
    else
      let (digits, exponent) := shortest fraction (-1074) false
      ⟨negative, digits, exponent⟩
  else
    let (digits, exponent) :=
      shortest (Nat.pow 2 52 + fraction) ((biased : Int) - 1075) (fraction == 0 && 1 < biased)
    ⟨negative, digits, exponent⟩

def ofFloat (value : Float) : Decimal :=
  ofBits value.toBits

end Decimal

/-- The decisions of a decimal notation: the leading exponents that are written
without an exponent part, and the marks of a positive and of a negative one. -/
structure DecimalStyle where
  leastPlain : Int
  greatestPlain : Int
  positiveMark : String
  negativeMark : String

def DecimalStyle.message : DecimalStyle := ⟨-5, 15, "e+", "e-"⟩

/-- A decimal in a notation. Without an exponent part there is always a digit on
either side of the point; with one, the point is written only before digits. -/
def Decimal.render (style : DecimalStyle) (decimal : Decimal) : String :=
  let digits := Nat.toDigits 10 decimal.digits
  let leading := decimal.exponent + (digits.length : Int) - 1
  let sign := if decimal.negative then "-" else ""
  let zeros (count : Int) : List Char := List.replicate count.toNat '0'
  if decimal.digits = 0 then sign ++ "0.0"
  else if style.leastPlain ≤ leading ∧ leading ≤ style.greatestPlain then
    if 0 ≤ decimal.exponent then
      sign ++ String.ofList (digits ++ zeros decimal.exponent) ++ ".0"
    else if 0 ≤ leading then
      let whole := (leading + 1).toNat
      sign ++ String.ofList (digits.take whole ++ '.' :: digits.drop whole)
    else sign ++ "0." ++ String.ofList (zeros (-leading - 1) ++ digits)
  else
    let mark := if 0 ≤ leading then style.positiveMark else style.negativeMark
    let point := if digits.length = 1 then [] else ['.']
    sign ++ String.ofList (digits.take 1 ++ point ++ digits.drop 1) ++ mark ++
      toString leading.natAbs

end TurtleLang
