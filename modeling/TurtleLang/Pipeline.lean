import TurtleLang.CommandLine
import TurtleLang.Directory
import TurtleLang.Document.Settings
import TurtleLang.Journal

/-!
The program from its arguments to its exit code. It works on a host, which is
whatever can read and write files and talk to the user; `World` is a host made
of values, in which the program can be followed step by step. The stages come in
a fixed order: settings from the options file, settings from flags, the source
text, the compilation, and last of all the writing, so that a failure of an
earlier stage leaves nothing behind.
-/
namespace TurtleLang

structure Host (action : Type → Type) where
  readFile : String → action (Except FileFault String)
  readInput : action (Except FileFault String)
  writeFile : String → String → action (Except FileFault Unit)
  print : String → action (Except FileFault Unit)
  complain : String → action Unit
  notify : Notice → action Unit

inductive Failure where
  | readingOptions (path : String) (fault : FileFault)
  | loadingOptions (path : String) (fault : LoadFault)
  | checkingOptions (fault : OptionsFault)
  | readingSource (path : String) (fault : FileFault)
  | readingInput (fault : FileFault)
  | compiling (fault : SourceFault)
  | writing (fault : FileFault)
  deriving DecidableEq, Repr

namespace Failure

def context : Failure → String
  | .readingOptions path _ => "Reading " ++ path
  | .loadingOptions path _ => "Loading options from " ++ path
  | .checkingOptions _ => "Checking options"
  | .readingSource path _ => "Reading " ++ path
  | .readingInput _ => "Reading stdin"
  | .compiling _ => "Translating turtle program"
  | .writing _ => "Writing Python output"

def cause : Failure → String
  | .readingOptions _ fault => fault.message
  | .loadingOptions _ fault => fault.message
  | .checkingOptions fault => fault.message
  | .readingSource _ fault => fault.message
  | .readingInput fault => fault.message
  | .compiling fault => fault.message
  | .writing fault => fault.message

def message (failure : Failure) : String :=
  failure.context ++ ": " ++ failure.cause

def indented (cause : List Char) : List Char :=
  [' ', ' ', ' ', ' '] ++
    cause.flatMap fun character =>
      if character = '\n' then ['\n', ' ', ' ', ' ', ' '] else [character]

def report (failure : Failure) : String :=
  "Error: " ++ failure.context ++ "\n\nCaused by:\n" ++
    String.ofList (indented failure.cause.toList) ++ "\n"

end Failure

def banner (source : Option String) : String :=
  match source with
  | some name => "# Auto-generated from " ++ name ++ ", do not edit\n"
  | none => "# Auto-generated, do not edit\n"

def Script.fileText (script : Script) (source : Option String) : String :=
  banner source ++ script.program

namespace Host

variable {action : Type → Type} [Monad action]

def notifyAll (host : Host action) : List Notice → action Unit
  | [] => pure ()
  | notice :: rest => do
      host.notify notice
      host.notifyAll rest

def loadOptions (host : Host action) (path : String) : action (Except Failure Options) := do
  match ← host.readFile path with
  | .error fault => return .error (.readingOptions path fault)
  | .ok text =>
      match Options.load text with
      | .error fault => return .error (.loadingOptions path fault)
      | .ok options =>
          host.notify (.optionsLoaded options)
          return .ok options

/-- The settings of a run: those of the options file, or the defaults, with the
flags over them, in the range that is allowed. -/
def settings (host : Host action) (arguments : Arguments) : action (Except Failure Options) := do
  let loaded ← match arguments.config with
    | some path => host.loadOptions path
    | none => pure (.ok {})
  match loaded with
  | .error failure => return .error failure
  | .ok options =>
      let options := arguments.apply options
      match options.check with
      | .error fault => return .error (.checkingOptions fault)
      | .ok () => return .ok options

def source (host : Host action) (arguments : Arguments) : action (Except Failure String) := do
  match arguments.input with
  | some path =>
      match ← host.readFile path with
      | .error fault => return .error (.readingSource path fault)
      | .ok text => return .ok text
  | none =>
      match ← host.readInput with
      | .error fault => return .error (.readingInput fault)
      | .ok text => return .ok text

def emit (host : Host action) (arguments : Arguments) (script : Script) :
    action (Except Failure Unit) := do
  let written ← match arguments.output with
    | some path => host.writeFile path (script.fileText arguments.input)
    | none => host.print script.program
  return written.mapError .writing

def perform (host : Host action) (arguments : Arguments) : action (Except Failure Unit) := do
  match ← host.settings arguments with
  | .error failure => return .error failure
  | .ok options =>
      match ← host.source arguments with
      | .error failure => return .error failure
      | .ok text =>
          host.notifyAll (Journal.ofSource options text)
          match Script.compile options text with
          | .error fault => return .error (.compiling fault)
          | .ok script =>
              host.notify (.ready script.procedures.length script.lines.length)
              host.emit arguments script

/-- Prints what was asked for about the program itself. Nobody is told when that
cannot be printed. -/
def inform (host : Host action) (text : String) : action Nat := do
  let _ ← host.print text
  return 0

/-- The whole program. The exit code is zero on success, one for a failure and
two for refused arguments. -/
def execute (host : Host action) (arguments : List String) : action Nat := do
  match CommandLine.parse arguments with
  | .error fault =>
      host.complain ("error: " ++ fault.message ++ "\n\n" ++ CommandLine.usageText)
      return 2
  | .ok .summary => host.inform CommandLine.summaryText
  | .ok .manual => host.inform CommandLine.manualText
  | .ok .version => host.inform CommandLine.versionText
  | .ok (.compile arguments) =>
      match ← host.perform arguments with
      | .error failure =>
          host.complain failure.report
          return 1
      | .ok () => return 0

end Host

structure World where
  directory : Directory := {}
  /-- The bytes of the input. -/
  input : List UInt8 := []
  /-- The text that was printed. -/
  output : String := ""
  /-- Why nothing can be printed, if nothing can. -/
  outputFault : Option FileFault := none
  /-- The text that was said about failures. -/
  complaints : String := ""
  notices : List Notice := []
  deriving DecidableEq, Repr

def World.host : Host (StateM World) where
  readFile path := do return (← get).directory.read path
  readInput := do return textOf (← get).input
  writeFile path text := do
    match (← get).directory.write path text with
    | .error fault => return .error fault
    | .ok directory =>
        modify fun world => { world with directory }
        return .ok ()
  print text := do
    match (← get).outputFault with
    | some fault => return .error fault
    | none =>
        modify fun world => { world with output := world.output ++ text }
        return .ok ()
  complain text := modify fun world => { world with complaints := world.complaints ++ text }
  notify notice := modify fun world => { world with notices := world.notices ++ [notice] }

end TurtleLang
