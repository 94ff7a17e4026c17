/-!
The settings of one compilation: how many spaces one nesting level takes, and how
the inside of a `repeat` block is cut into commands. Settings can be built
freely; `Options.check` says which ones a configuration may ask for.
-/
namespace TurtleLang

/-- How the inside of a `repeat` block is cut into commands. -/
inductive SplitPolicy where
  /-- Command by command, each one taking as many inputs as it declares. -/
  | command
  /-- Word by word, each word a command of its own. -/
  | token
  deriving DecidableEq, Repr

def SplitPolicy.word : SplitPolicy → String
  | .command => "command"
  | .token => "token"

def SplitPolicy.ofWord? (word : String) : Option SplitPolicy :=
  if word = "command" then some .command
  else if word = "token" then some .token
  else none

structure Options where
  /-- Spaces for one nesting level. -/
  indent : Nat := 4
  split : SplitPolicy := .command
  deriving DecidableEq, Repr

def Options.widestIndent : Nat := 16

inductive OptionsFault where
  | indentTooSmall
  | indentTooLarge (indent : Nat)
  deriving DecidableEq, Repr

def OptionsFault.message : OptionsFault → String
  | .indentTooSmall => "`indent` must be at least 1"
  | .indentTooLarge indent =>
      "`indent` must be at most " ++ toString Options.widestIndent ++ ", got " ++ toString indent

def Options.check (options : Options) : Except OptionsFault Unit :=
  if options.indent = 0 then .error .indentTooSmall
  else if Options.widestIndent < options.indent then .error (.indentTooLarge options.indent)
  else .ok ()

def Options.margin (options : Options) (depth : Nat) : String :=
  String.ofList (List.replicate (options.indent * depth) ' ')

end TurtleLang
