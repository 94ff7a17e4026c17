import TurtleLang.Options

/-!
The command line of the compiler. Arguments are taken from left to right, and
the first problem decides. A value that stands apart from its flag is checked
only when the next argument that the program knows is met, or at the end; an
argument that the program does not know is therefore reported before it.
-/
namespace TurtleLang

structure Arguments where
  input : Option String := none
  output : Option String := none
  config : Option String := none
  split : Option SplitPolicy := none
  indent : Option Nat := none
  /-- How often more reporting was asked for, counted up to 255. -/
  verbosity : Nat := 0
  deriving DecidableEq, Repr

inductive UsageFault where
  | unknownArgument
  | invalidValue
  | invalidNumber
  | repeatedFlag
  | unneededValue
  deriving DecidableEq, Repr

def UsageFault.message : UsageFault → String
  | .unknownArgument => "unexpected argument"
  | .invalidValue => "a value is missing or not one of those possible"
  | .invalidNumber => "a value is not a number in range"
  | .repeatedFlag => "a flag cannot be used more than once"
  | .unneededValue => "a flag takes no value"

inductive Invocation where
  | compile (arguments : Arguments)
  | summary
  | manual
  | version
  deriving DecidableEq, Repr

def Arguments.apply (arguments : Arguments) (options : Options) : Options where
  indent := arguments.indent.getD options.indent
  split := arguments.split.getD options.split

namespace CommandLine

inductive Slot where
  | input
  | output
  | config
  | split
  | indent
  deriving DecidableEq, Repr

/-- Reads an unsigned number of at most sixty-four bits: digits, after a plus sign
or none. -/
def naturalOf? (value : String) : Option Nat :=
  let digits : List Char := match value.toList with
    | '+' :: rest => rest
    | characters => characters
  let number : Nat := digits.foldl (fun number digit => number * 10 + (digit.toNat - 48)) 0
  if digits ≠ [] ∧ digits.all Char.isDigit ∧ number < Nat.pow 2 64 then some number else none

def pathOf (value : String) : Except UsageFault String :=
  if value = "" then .error .invalidValue else .ok value

def Slot.isFilled (arguments : Arguments) : Slot → Bool
  | .input => arguments.input.isSome
  | .output => arguments.output.isSome
  | .config => arguments.config.isSome
  | .split => arguments.split.isSome
  | .indent => arguments.indent.isSome

def Slot.fill (arguments : Arguments) (slot : Slot) (value : String) :
    Except UsageFault Arguments :=
  if slot.isFilled arguments then .error .repeatedFlag
  else
    match slot with
    | .input => (pathOf value).map fun path => { arguments with input := some path }
    | .output => (pathOf value).map fun path => { arguments with output := some path }
    | .config => (pathOf value).map fun path => { arguments with config := some path }
    | .split =>
        match SplitPolicy.ofWord? value with
        | some policy => .ok { arguments with split := some policy }
        | none => .error .invalidValue
    | .indent =>
        match naturalOf? value with
        | some number => .ok { arguments with indent := some number }
        | none => .error .invalidNumber

structure State where
  arguments : Arguments := {}
  /-- A place whose value, if it has been met, is not yet checked. -/
  pending : Option (Slot × Option String) := none
  /-- Whether the file to read has been met. -/
  inputMet : Bool := false
  deriving DecidableEq, Repr

inductive Step where
  | proceed (state : State)
  | stop (invocation : Invocation)

def State.settle (state : State) : Except UsageFault State :=
  match state.pending with
  | none => .ok state
  | some (_, none) => .error .invalidValue
  | some (slot, some value) =>
      match slot.fill state.arguments value with
      | .error fault => .error fault
      | .ok arguments => .ok { state with arguments, pending := none }

def State.await (state : State) (slot : Slot) : Except UsageFault Step :=
  match state.settle with
  | .error fault => .error fault
  | .ok state => .ok (.proceed { state with pending := some (slot, none) })

def State.attach (state : State) (slot : Slot) (value : String) : Except UsageFault Step :=
  match state.settle with
  | .error fault => .error fault
  | .ok state =>
      match slot.fill state.arguments value with
      | .error fault => .error fault
      | .ok arguments => .ok (.proceed { state with arguments })

def State.louder (state : State) : Except UsageFault State :=
  match state.settle with
  | .error fault => .error fault
  | .ok state =>
      let verbosity := min 255 (state.arguments.verbosity + 1)
      .ok { state with arguments := { state.arguments with verbosity } }

def State.answer (state : State) (invocation : Invocation) : Except UsageFault Step :=
  match state.settle with
  | .error fault => .error fault
  | .ok _ => .ok (.stop invocation)

/-- Takes a cluster of one-letter flags. After a flag that takes a value, the rest
of the cluster is its value, less one equals sign. -/
def State.takeLetters (state : State) : List Char → Except UsageFault Step
  | [] => .ok (.proceed state)
  | letter :: rest =>
      let valued (slot : Slot) : Except UsageFault Step :=
        match rest with
        | [] => state.await slot
        | '=' :: value => state.attach slot (String.ofList value)
        | value => state.attach slot (String.ofList value)
      if letter = 'o' then valued .output
      else if letter = 'c' then valued .config
      else if letter = 'h' then state.answer .summary
      else if letter = 'V' then state.answer .version
      else if letter = 'v' then
        match state.louder with
        | .error fault => .error fault
        | .ok state => state.takeLetters rest
      else .error .unknownArgument

def splitFlag : List Char → List Char × Option (List Char)
  | [] => ([], none)
  | character :: rest =>
      if character = '=' then ([], some rest)
      else
        let (name, value) := splitFlag rest
        (character :: name, value)

def State.takeFlag (state : State) (flag : List Char) : Except UsageFault Step :=
  let (name, value) := splitFlag flag
  let valued (slot : Slot) : Except UsageFault Step :=
    match value with
    | none => state.await slot
    | some value => state.attach slot (String.ofList value)
  let plain (step : Except UsageFault Step) : Except UsageFault Step :=
    if value.isSome then .error .unneededValue else step
  match String.ofList name with
  | "output" => valued .output
  | "config" => valued .config
  | "split" => valued .split
  | "indent" => valued .indent
  | "verbose" => plain (state.louder.map Step.proceed)
  | "help" => plain (state.answer .manual)
  | "version" => plain (state.answer .version)
  | _ => .error .unknownArgument

def State.takeInput (state : State) (value : String) : Except UsageFault Step :=
  if state.inputMet then .error .unknownArgument
  else
    match state.settle with
    | .error fault => .error fault
    | .ok state =>
        .ok (.proceed { state with pending := some (.input, some value), inputMet := true })

def State.takeText (state : State) (value : String) : Except UsageFault Step :=
  match state.pending with
  | some (slot, none) => .ok (.proceed { state with pending := some (slot, some value) })
  | _ => state.takeInput value

/-- Takes one argument while flags are still possible. A dash alone is a text. -/
def State.take (state : State) (argument : String) : Except UsageFault Step :=
  match argument.toList with
  | '-' :: '-' :: flag => state.takeFlag flag
  | '-' :: letter :: rest => state.takeLetters (letter :: rest)
  | _ => state.takeText argument

/-- Takes the arguments. Two dashes alone end the flags. -/
def State.run (state : State) (flags : Bool) : List String → Except UsageFault Invocation
  | [] =>
      match state.settle with
      | .error fault => .error fault
      | .ok state => .ok (.compile state.arguments)
  | argument :: rest =>
      if flags ∧ argument = "--" then state.run false rest
      else
        match if flags then state.take argument else state.takeInput argument with
        | .error fault => .error fault
        | .ok (.stop invocation) => .ok invocation
        | .ok (.proceed state) => state.run flags rest

def parse (arguments : List String) : Except UsageFault Invocation :=
  State.run {} true arguments

def versionText : String := "turtle2py 0.1.0\n"

def usageText : String := "Usage: turtle2py [OPTIONS] [INPUT]\n"

def summaryText : String :=
  "Translate turtle graphics programs into Python\n\n" ++ usageText ++ "\n" ++
  "Arguments:\n" ++
  "  [INPUT]  Input turtle source file (stdin when omitted)\n\n" ++
  "Options:\n" ++
  "  -o, --output <OUTPUT>  Output .py file (stdout when omitted)\n" ++
  "  -c, --config <CONFIG>  JSON options file\n" ++
  "      --split <SPLIT>    How commands inside `repeat` blocks are separated " ++
  "[possible values: command, token]\n" ++
  "      --indent <INDENT>  Spaces per nesting level\n" ++
  "  -v, --verbose...       More logging (-v debug, -vv trace)\n" ++
  "  -h, --help             Print help (see more with '--help')\n" ++
  "  -V, --version          Print version\n"

def manualText : String :=
  "Translate turtle graphics programs into Python\n\n" ++ usageText ++ "\n" ++
  "Arguments:\n" ++
  "  [INPUT]\n" ++
  "          Input turtle source file (stdin when omitted)\n\n" ++
  "Options:\n" ++
  "  -o, --output <OUTPUT>\n" ++
  "          Output .py file (stdout when omitted)\n\n" ++
  "  -c, --config <CONFIG>\n" ++
  "          JSON options file\n\n" ++
  "      --split <SPLIT>\n" ++
  "          How commands inside `repeat` blocks are separated\n\n" ++
  "          Possible values:\n" ++
  "          - command: Read the block command by command, each command taking as many " ++
  "inputs as it declares\n" ++
  "          - token:   Lower every whitespace-separated word of the block on its own\n\n" ++
  "      --indent <INDENT>\n" ++
  "          Spaces per nesting level\n\n" ++
  "  -v, --verbose...\n" ++
  "          More logging (-v debug, -vv trace)\n\n" ++
  "  -h, --help\n" ++
  "          Print help (see a summary with '-h')\n\n" ++
  "  -V, --version\n" ++
  "          Print version\n"

end CommandLine

end TurtleLang
