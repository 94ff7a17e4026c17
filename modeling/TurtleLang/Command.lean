import TurtleLang.Primitive
import TurtleLang.Text.Quoted

/-!
Commands, the typed form of a source line, and the inputs they carry. An input
is the text that stands for it in the generated program.
-/
namespace TurtleLang

inductive Command where
  /-- A built-in operation with its inputs. -/
  | primitive (operation : Primitive) (inputs : List String)
  /-- A block to be done `count` times. -/
  | loop (count : String) (body : List Command)
  /-- A call of a known procedure. -/
  | call (name : String) (inputs : List String)
  /-- Anything else, with the source text it was. -/
  | unknown (text : String)
  deriving Repr

/-- The input that a source word gives. A colon reads the variable of that name,
a double quote starts a string, and any other word stands for itself. -/
def inputOf (word : String) : String :=
  match word.toList with
  | ':' :: name => Text.lower (String.ofList name)
  | '"' :: text => Text.literal (String.ofList text)
  | _ => word

/-- The inputs an operation keeps on a line of its own: all of them, or none when
it takes none. -/
def keptInputs (operation : Primitive) (inputs : List String) : List String :=
  if operation.arity = 0 then [] else inputs

end TurtleLang
