import TurtleLang.Token

/-!
Bracketed groups of tokens. `takeGroup` reads what stands between an opening
bracket and the closing bracket that matches it; `groupText` writes a group back
as one text. A group that the tokens leave open ends with them, and the closing
brackets it lacks are supplied.
-/
namespace TurtleLang.Token

/-- The tokens up to the closing bracket of the group, without it, and the tokens
after it. `depth` counts the inner groups that are open at this point. -/
def takeGroup : Nat → List Token → List Token × List Token
  | depth, [] => (List.replicate depth .closing, [])
  | depth, .word content :: rest =>
      let (inner, after) := takeGroup depth rest
      (.word content :: inner, after)
  | depth, .opening :: rest =>
      let (inner, after) := takeGroup (depth + 1) rest
      (.opening :: inner, after)
  | 0, .closing :: rest => ([], rest)
  | depth + 1, .closing :: rest =>
      let (inner, after) := takeGroup depth rest
      (.closing :: inner, after)

/-- Whether one space stands between two neighbouring tokens of a written group:
always, except directly inside a bracket. -/
def spaced (left right : Token) : Bool :=
  left != .opening && right != .closing

def spell : List Token → String
  | [] => ""
  | [last] => last.text
  | left :: right :: rest =>
      left.text ++ (if spaced left right then " " else "") ++ spell (right :: rest)

def groupText (inner : List Token) : String :=
  "[" ++ spell inner ++ "]"

theorem take_group_rest_length (depth : Nat) (tokens : List Token) :
    (takeGroup depth tokens).2.length ≤ tokens.length := by
  induction tokens generalizing depth with
  | nil => simp [takeGroup]
  | cons token rest ih =>
      cases token with
      | word content => simpa [takeGroup] using Nat.le_succ_of_le (ih depth)
      | opening => simpa [takeGroup] using Nat.le_succ_of_le (ih (depth + 1))
      | closing =>
          cases depth with
          | zero => simp [takeGroup]
          | succ depth => simpa [takeGroup] using Nat.le_succ_of_le (ih depth)

end TurtleLang.Token
