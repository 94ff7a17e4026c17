import TurtleLang.Notice
import TurtleLang.Statement

/-!
Whole programs. The executable lines are read once, in order, as items: single
command lines, and definitions from their header to their terminator. The items
are then turned into statements with the procedures known at each point, so a
definition counts from its own body onwards. A faulty header ends the reading;
what was read before it is kept, because the notices about it stand.
-/
namespace TurtleLang

inductive Item where
  | command (line : Line)
  | definition (header : Line) (procedure : Procedure)
  deriving DecidableEq, Repr

/-- The items of the lines, up to the first faulty definition, and its fault. -/
def readItems (lines : List Line) : List Item × Option SourceFault :=
  match lines with
  | [] => ([], none)
  | line :: rest =>
      if isHeader line.text then
        match scanned : Procedure.scan line rest with
        | .error fault => ([], some fault)
        | .ok (procedure, after) =>
            have : after.length < rest.length := Procedure.scan_rest_length scanned
            let (items, fault) := readItems after
            (.definition line procedure :: items, fault)
      else
        let (items, fault) := readItems rest
        (.command line :: items, fault)
termination_by lines.length
decreasing_by all_goals simp only [List.length_cons]; omega

namespace Item

def enter (registry : Registry) : Item → Registry
  | .command _ => registry
  | .definition _ procedure => registry.define procedure

/-- The statements of an item that is met with the given procedures known. A
definition is known inside its own body. -/
def statements (split : SplitPolicy) (registry : Registry) : Item → List Statement
  | .command line => Command.lineStatements registry split 0 line.text
  | .definition _ procedure =>
      let stored := Registry.entry procedure
      ⟨0, ""⟩ ::
        ⟨0, "def " ++ stored.name ++ "(" ++ ", ".intercalate stored.parameters ++ "):"⟩ ::
          Command.bodyStatements (registry.define procedure) split 1 stored.body

def definedName? : Item → Option String
  | .command _ => none
  | .definition _ procedure => some (Registry.entry procedure).name

end Item

def itemStatements (split : SplitPolicy) (registry : Registry) : List Item → List Statement
  | [] => []
  | item :: rest =>
      item.statements split registry ++ itemStatements split (item.enter registry) rest

structure Script where
  /-- The output lines, the import first and the call of the event loop last. -/
  lines : List String
  /-- The procedures defined, in the order of their definitions. -/
  procedures : List String
  deriving DecidableEq, Repr

namespace Script

def text (script : Script) : String :=
  "\n".intercalate script.lines

def program (script : Script) : String :=
  String.join (script.lines.map (· ++ "\n"))

def statements (split : SplitPolicy) (items : List Item) : List Statement :=
  ⟨0, "import turtle"⟩ :: itemStatements split Registry.empty items ++ [⟨0, "turtle.done()"⟩]

def ofItems (options : Options) (items : List Item) : Script where
  lines := (statements options.split items).map (Statement.layout options)
  procedures := items.filterMap Item.definedName?

def compile (options : Options) (source : String) : Except SourceFault Script :=
  match readItems (executableLines source) with
  | (_, some fault) => .error fault
  | (items, none) => .ok (ofItems options items)

def compileText (options : Options) (source : String) : Except SourceFault String :=
  (compile options source).map text

end Script

end TurtleLang
