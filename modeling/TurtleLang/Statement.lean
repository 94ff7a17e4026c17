import TurtleLang.Command.Line

/-!
Statements of the generated program and how commands become them. A statement
keeps its nesting depth apart from its text, so that indentation is decided only
when the statement is laid out as a line.
-/
namespace TurtleLang

structure Statement where
  depth : Nat
  text : String
  deriving DecidableEq, Repr

namespace Statement

def layout (options : Options) (statement : Statement) : String :=
  options.margin statement.depth ++ statement.text

/-- Whether the statement does anything: it is neither blank nor a comment. -/
def isEffective (statement : Statement) : Bool :=
  match Text.dropBlanks statement.text.toList with
  | [] => false
  | first :: _ => first != '#'

/-- Completes the statements of a block. A block that holds nothing but comments
still needs a statement, which is `pass`. -/
def closeBlock (depth : Nat) (statements : List Statement) : List Statement :=
  if statements.any isEffective then statements else statements ++ [⟨depth, "pass"⟩]

end Statement

namespace Command

mutual

def statements (depth : Nat) : Command → List Statement
  | .primitive operation inputs => [⟨depth, operation.render inputs⟩]
  | .call name inputs => [⟨depth, name ++ "(" ++ ", ".intercalate inputs ++ ")"⟩]
  | .unknown text => [⟨depth, "# Unknown: " ++ text⟩]
  | .loop count body =>
      ⟨depth, "for _ in range(int(" ++ count ++ ")):"⟩ ::
        Statement.closeBlock (depth + 1) (statementsOf (depth + 1) body)

def statementsOf (depth : Nat) : List Command → List Statement
  | [] => []
  | command :: rest => statements depth command ++ statementsOf depth rest

end

def lineStatements (registry : Registry) (split : SplitPolicy) (depth : Nat) (line : String) :
    List Statement :=
  statementsOf depth (readLine registry split line)

def bodyStatements (registry : Registry) (split : SplitPolicy) (depth : Nat)
    (lines : List String) : List Statement :=
  Statement.closeBlock depth (statementsOf depth (lines.flatMap (readLine registry split)))

end Command

end TurtleLang
