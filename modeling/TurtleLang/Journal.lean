import TurtleLang.Program

/-!
The notices a compilation gives rise to, in the order of the work they are about.
They are computed beside the script and do not influence it.
-/
namespace TurtleLang.Journal

/-- The warning about a line that gives inputs to an operation without inputs. -/
def ofLine (line : String) : List Notice :=
  match Text.words line with
  | [] => []
  | first :: rest =>
      match Primitive.ofName? (Text.lower first) with
      | none => []
      | some operation =>
          if operation.arity = 0 ∧ rest ≠ [] then
            [.inputsIgnored operation (rest.map inputOf)]
          else []

def ofLowering (depth : Nat) (line : String) : List Notice :=
  .lowering line depth :: ofLine line

def ofBody (lines : List String) : List Notice :=
  lines.flatMap ofLine

def ofDefining (registry : Registry) (procedure : Procedure) : List Notice :=
  if registry.contains procedure.name then [.redefined (Registry.entry procedure).name] else []

def ofItem (registry : Registry) : Item → List Notice
  | .command line => ofLowering 0 line.text
  | .definition header procedure =>
      .scanned procedure :: ofDefining registry procedure ++
        .defined header.number (Registry.entry procedure) :: ofBody procedure.body

def ofItems (registry : Registry) : List Item → List Notice
  | [] => []
  | item :: rest => ofItem registry item ++ ofItems (item.enter registry) rest

/-- The notices about compiling a source text, also when it has a fault. -/
def ofSource (options : Options) (source : String) : List Notice :=
  let lines := executableLines source
  match readItems lines with
  | (items, some _) => ofItems Registry.empty items
  | (items, none) =>
      let script := Script.ofItems options items
      ofItems Registry.empty items ++
        [.compiled lines.length script.lines.length script.procedures.length]

end TurtleLang.Journal
