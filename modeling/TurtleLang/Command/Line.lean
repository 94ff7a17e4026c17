import TurtleLang.Command.Block
import TurtleLang.Options

/-!
Reading one source line as commands. A line is a single command whose inputs are
all its other words, except that a line which starts with `repeat` is cut up as
the split policy says: command by command over its tokens, where commands may
follow the block, or word by word.
-/
namespace TurtleLang.Command

/-- Reads a line that does not start with `repeat`. `first` is its first word and
`rest` are the others. -/
def readPlain (registry : Registry) (line first : String) (rest : List String) : Command :=
  let name := Text.lower first
  match Primitive.ofName? name with
  | some operation => .primitive operation (keptInputs operation (rest.map inputOf))
  | none =>
      if registry.contains name then .call name (rest.map inputOf)
      else .unknown (Text.trim line)

/-- The command that one word of a block is when each word stands on its own. A
loop needs a count, so the word `repeat` alone is unknown. -/
def readWord (registry : Registry) (word : String) : Command :=
  if Text.lower word = loopWord then .unknown word
  else readPlain registry word word []

def dropOpening : List Char → List Char
  | '[' :: rest => rest
  | characters => characters

def dropClosing (characters : List Char) : List Char :=
  match characters.reverse with
  | ']' :: rest => rest.reverse
  | _ => characters

/-- The words of a block given as the words of its line, without the bracket that
may open it and the bracket that may close it. -/
def blockWords (block : List String) : List String :=
  Text.words (String.ofList (dropClosing (dropOpening (" ".intercalate block).toList)))

def readByWord (registry : Registry) (line : String) : List String → Command
  | [] => .unknown (Text.trim line)
  | count :: block => .loop (inputOf count) ((blockWords block).map (readWord registry))

def readLine (registry : Registry) (split : SplitPolicy) (line : String) : List Command :=
  match Text.words line with
  | [] => []
  | first :: rest =>
      if Text.lower first = loopWord then
        match split with
        | .command => readAll registry (Token.scan line)
        | .token => [readByWord registry line rest]
      else [readPlain registry line first rest]

end TurtleLang.Command
