import TurtleLang.Text.Lower

/-!
The turtle operations the language has built in: the names that call them, how
many inputs each one takes, and the statement each one becomes.
-/
namespace TurtleLang

inductive Primitive where
  | forward
  | back
  | right
  | left
  | penUp
  | penDown
  | print
  | clearScreen
  | home
  | hideTurtle
  | showTurtle
  | setHeading
  deriving DecidableEq, Repr

namespace Primitive

def ofLowerName? (name : String) : Option Primitive :=
  if name = "fd" ∨ name = "forward" then some .forward
  else if name = "bk" ∨ name = "back" ∨ name = "backward" then some .back
  else if name = "rt" ∨ name = "right" then some .right
  else if name = "lt" ∨ name = "left" then some .left
  else if name = "pu" ∨ name = "penup" then some .penUp
  else if name = "pd" ∨ name = "pendown" then some .penDown
  else if name = "print" then some .print
  else if name = "cs" ∨ name = "clearscreen" then some .clearScreen
  else if name = "home" then some .home
  else if name = "ht" ∨ name = "hideturtle" then some .hideTurtle
  else if name = "st" ∨ name = "showturtle" then some .showTurtle
  else if name = "seth" ∨ name = "setheading" then some .setHeading
  else none

/-- The operation a name calls, in any mixture of ASCII cases. -/
def ofName? (name : String) : Option Primitive :=
  ofLowerName? (Text.lowerAscii name)

def label : Primitive → String
  | .forward => "Forward"
  | .back => "Back"
  | .right => "Right"
  | .left => "Left"
  | .penUp => "PenUp"
  | .penDown => "PenDown"
  | .print => "Print"
  | .clearScreen => "ClearScreen"
  | .home => "Home"
  | .hideTurtle => "HideTurtle"
  | .showTurtle => "ShowTurtle"
  | .setHeading => "SetHeading"

def arity : Primitive → Nat
  | .forward | .back | .right | .left | .print | .setHeading => 1
  | .penUp | .penDown | .clearScreen | .home | .hideTurtle | .showTurtle => 0

/-- The statement for the operation. Its inputs are joined by spaces, so that
`fd 10 + 5` stays one expression; an operation without inputs ignores them. -/
def render (operation : Primitive) (inputs : List String) : String :=
  let expression := " ".intercalate inputs
  match operation with
  | .forward => "turtle.forward(" ++ expression ++ ")"
  | .back => "turtle.backward(" ++ expression ++ ")"
  | .right => "turtle.right(" ++ expression ++ ")"
  | .left => "turtle.left(" ++ expression ++ ")"
  | .setHeading => "turtle.setheading(" ++ expression ++ ")"
  | .print => "print(" ++ expression ++ ")"
  | .penUp => "turtle.penup()"
  | .penDown => "turtle.pendown()"
  | .clearScreen => "turtle.clearscreen()"
  | .home => "turtle.home()"
  | .hideTurtle => "turtle.hideturtle()"
  | .showTurtle => "turtle.showturtle()"

end Primitive

end TurtleLang
