import TurtleLang.Source

/-!
Procedure definitions. A definition runs from its header, `to` with a name and
parameters, to the first later line that is `end`. `Procedure.scan` reads the
one whose header comes first in a list of lines and returns the lines after it;
`Procedure.scanAt` reads the one at an index.
-/
namespace TurtleLang

structure Procedure where
  name : String
  parameters : List String
  body : List String
  deriving DecidableEq, Repr

inductive SourceFault where
  | missingTerminator (name : String) (line : Nat)
  | missingName (line : Nat)
  | duplicateParameter (name parameter : String) (line : Nat)
  | notAHeader (index : Nat)
  deriving DecidableEq, Repr

def SourceFault.message : SourceFault → String
  | .missingTerminator name line =>
      "line " ++ toString line ++ ": procedure `" ++ name ++ "` has no matching `end`"
  | .missingName line =>
      "line " ++ toString line ++ ": `to` must be followed by a procedure name"
  | .duplicateParameter name parameter line =>
      "line " ++ toString line ++ ": procedure `" ++ name ++ "` declares parameter `" ++
        parameter ++ "` more than once"
  | .notAHeader index =>
      "line index " ++ toString index ++ " does not start a procedure definition"

namespace Procedure

/-- The parameter a header word declares: the word in lower case, without the
colon it may start with. -/
def parameterOf (word : String) : String :=
  match word.toList with
  | ':' :: rest => Text.lower (String.ofList rest)
  | _ => Text.lower word

/-- The first parameter that repeats an earlier one or one of `seen`. -/
def firstRepeated (seen : List String) : List String → Option String
  | [] => none
  | parameter :: rest =>
      if parameter ∈ seen then some parameter
      else firstRepeated (parameter :: seen) rest

def readHeader (header : Line) : Except SourceFault (String × List String) :=
  match (Text.words header.text).drop 1 with
  | [] => .error (.missingName header.number)
  | name :: words =>
      let parameters := words.map parameterOf
      match firstRepeated [] parameters with
      | some parameter =>
          .error (.duplicateParameter (Text.lower name) parameter header.number)
      | none => .ok (Text.lower name, parameters)

def takeBody : List Line → Option (List String × List Line)
  | [] => none
  | line :: rest =>
      if isTerminator line.text then some ([], rest)
      else
        match takeBody rest with
        | none => none
        | some (body, after) => some (line.text :: body, after)

theorem take_body_rest_length {lines after : List Line} {body : List String}
    (taken : takeBody lines = some (body, after)) : after.length < lines.length := by
  induction lines generalizing body after with
  | nil => simp [takeBody] at taken
  | cons line rest ih =>
      unfold takeBody at taken
      split at taken
      · cases taken
        exact Nat.lt_succ_self _
      · split at taken
        · cases taken
        · next found =>
            cases taken
            exact Nat.lt_succ_of_lt (ih found)

/-- Reads the definition that `header` opens and `rest` continues, and returns
the lines after its terminator. -/
def scan (header : Line) (rest : List Line) : Except SourceFault (Procedure × List Line) :=
  match readHeader header with
  | .error fault => .error fault
  | .ok (name, parameters) =>
      match takeBody rest with
      | none => .error (.missingTerminator name header.number)
      | some (body, after) => .ok (⟨name, parameters, body⟩, after)

theorem scan_rest_length {header : Line} {rest after : List Line} {procedure : Procedure}
    (scanned : scan header rest = .ok (procedure, after)) : after.length < rest.length := by
  unfold scan at scanned
  split at scanned
  · cases scanned
  · split at scanned
    · cases scanned
    · next taken =>
        cases scanned
        exact take_body_rest_length taken

/-- Reads the definition whose header has the given index, and returns the index
of the first line after it. -/
def scanAt (lines : List Line) (start : Nat) : Except SourceFault (Procedure × Nat) :=
  match lines.drop start with
  | [] => .error (.notAHeader start)
  | header :: rest =>
      if isHeader header.text then
        match scan header rest with
        | .error fault => .error fault
        | .ok (procedure, after) => .ok (procedure, lines.length - after.length)
      else .error (.notAHeader start)

end Procedure

end TurtleLang
