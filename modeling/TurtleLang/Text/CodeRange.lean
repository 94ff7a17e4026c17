/-!
Membership of a character in a table of code point ranges. The character
classes of the library are such tables, ends included.
-/
namespace TurtleLang.Text

/-- Whether a character lies in one of the ranges, both ends included. -/
def inRanges (ranges : List (Nat × Nat)) (character : Char) : Bool :=
  ranges.any fun (first, last) => first ≤ character.toNat && character.toNat ≤ last

end TurtleLang.Text
