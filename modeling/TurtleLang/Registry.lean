import TurtleLang.Procedure

/-!
The procedures known at a point of a program. A registry holds one procedure for
each lower-case name; defining a name again replaces what it held and moves
nothing else.
-/
namespace TurtleLang

/-- The known procedures, one for each lower-case name. -/
structure Registry where
  procedures : List Procedure := []
  deriving DecidableEq, Repr

namespace Registry

def empty : Registry := {}

def lookup (registry : Registry) (name : String) : Option Procedure :=
  let key := Text.lower name
  registry.procedures.find? fun procedure => procedure.name == key

def contains (registry : Registry) (name : String) : Bool :=
  (registry.lookup name).isSome

def size (registry : Registry) : Nat :=
  registry.procedures.length

/-- Puts a procedure in the place of the one with its name, or at the end when
no procedure has its name. -/
def place (procedure : Procedure) : List Procedure → List Procedure
  | [] => [procedure]
  | known :: rest =>
      if known.name = procedure.name then procedure :: rest
      else known :: place procedure rest

def entry (procedure : Procedure) : Procedure :=
  { procedure with name := Text.lower procedure.name }

/-- Stores a procedure under its lower-case name. A later definition of a name
replaces the earlier one. -/
def define (registry : Registry) (procedure : Procedure) : Registry :=
  ⟨place (entry procedure) registry.procedures⟩

end Registry

end TurtleLang
