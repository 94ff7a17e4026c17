import TurtleLang.Options
import TurtleLang.Primitive
import TurtleLang.Procedure
import TurtleLang.Text.Shown

/-!
What the compiler reports about its own work. Each notice is a fact; its
severity and its wording follow from it.
-/
namespace TurtleLang

inductive Severity where
  | warning
  | information
  | debugging
  | tracing
  deriving DecidableEq, Repr

def Severity.rank : Severity → Nat
  | .warning => 0
  | .information => 1
  | .debugging => 2
  | .tracing => 3

def Severity.label : Severity → String
  | .warning => "WARN"
  | .information => "INFO"
  | .debugging => "DEBUG"
  | .tracing => "TRACE"

inductive Notice where
  /-- A top-level line is about to be read. -/
  | lowering (line : String) (depth : Nat)
  /-- A line gave inputs to an operation that takes none. -/
  | inputsIgnored (operation : Primitive) (inputs : List String)
  /-- A definition was read to its end. -/
  | scanned (procedure : Procedure)
  /-- A definition replaced an earlier one. -/
  | redefined (name : String)
  /-- A definition was entered; its header is on the given line. -/
  | defined (line : Nat) (procedure : Procedure)
  /-- All lines were turned into output lines. -/
  | compiled (lines outputs procedures : Nat)
  /-- Settings were read from a document. -/
  | optionsLoaded (options : Options)
  /-- A program is ready to be written. -/
  | ready (procedures outputs : Nat)
  deriving DecidableEq, Repr

namespace Notice

def severity : Notice → Severity
  | .inputsIgnored .. | .redefined _ => .warning
  | .ready .. => .information
  | .defined .. | .compiled .. | .optionsLoaded _ => .debugging
  | .lowering .. | .scanned _ => .tracing

def optionsText (options : Options) : String :=
  let policy := match options.split with
    | .command => "Command"
    | .token => "Token"
  "TranslateOptions \x7b indent: " ++ toString options.indent ++ ", split: " ++ policy ++ " \x7d"

def message : Notice → String
  | .lowering line depth => "lowering " ++ Text.shown line ++ " at depth " ++ toString depth
  | .inputsIgnored operation inputs =>
      operation.label ++ " takes no inputs, ignoring [" ++
        ", ".intercalate (inputs.map Text.shown) ++ "]"
  | .scanned procedure =>
      "scanned `" ++ procedure.name ++ "`: " ++ toString procedure.parameters.length ++
        " params, " ++ toString procedure.body.length ++ " body lines"
  | .redefined name => "procedure `" ++ name ++ "` redefined, the new definition wins"
  | .defined line procedure =>
      "line " ++ toString line ++ ": defined `" ++ procedure.name ++ "` (" ++
        toString procedure.parameters.length ++ " params)"
  | .compiled lines outputs procedures =>
      "translated " ++ toString lines ++ " lines into " ++ toString outputs ++ " (" ++
        toString procedures ++ " procedures)"
  | .optionsLoaded options => "options loaded: " ++ optionsText options
  | .ready procedures outputs =>
      toString procedures ++ " procedures, " ++ toString outputs ++ " output lines"

def record (notice : Notice) : String :=
  notice.severity.label ++ " " ++ notice.message

def select (threshold : Severity) (notices : List Notice) : List Notice :=
  notices.filter fun notice => notice.severity.rank ≤ threshold.rank

end Notice

end TurtleLang
