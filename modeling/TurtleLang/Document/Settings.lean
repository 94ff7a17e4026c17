import TurtleLang.Document.Number
import TurtleLang.Document.Quoted
import TurtleLang.Options

/-!
Reading settings from a document. The document is an object whose members are
`indent` and `split`, each at most once and in any order, or a list that gives
them in this order and may stop early. What is not given keeps its default. The
policy is a string, or an object whose only key is that string and whose value is
`null`. Settings that were read are checked last, so a problem of the document
comes before a refused value.
-/
namespace TurtleLang.Document

/-- The fault of a value of another kind than expected. The value is read to its
end first, except that a list or an object is left unread. -/
def mismatch (expected : Expected) (input : List Char) : Fault :=
  let named (found : Found) (rest : List Char) : Fault :=
    .before (.wrongType found expected) rest
  let word (rest : Reading Unit) (found : Found) : Fault :=
    match rest with
    | .error fault => fault
    | .ok (_, after) => named found after
  let number (rest : Reading Number) : Fault :=
    match rest with
    | .error fault => fault
    | .ok (value, after) => named value.found after
  match input with
  | 'n' :: rest => word (readWord ['u', 'l', 'l'] rest) .null
  | 't' :: rest => word (readWord ['r', 'u', 'e'] rest) (.boolean true)
  | 'f' :: rest => word (readWord ['a', 'l', 's', 'e'] rest) (.boolean false)
  | '-' :: rest => number (readNumber true rest)
  | '"' :: rest =>
      match readText rest with
      | .error fault => fault
      | .ok (text, after) => named (.text text) after
  | '[' :: _ => named .sequence input
  | '\x7b' :: _ => named .map input
  | other =>
      if (other.head?.map Char.isDigit).getD false then number (readNumber false other)
      else .inside .expectedValue other

def indentOf : Reading Number → Reading Nat
  | .error fault => .error fault
  | .ok (.natural value, rest) => .ok (value, rest)
  | .ok (.negative value, rest) => .error (.before (.negativeIndent (-(value : Int))) rest)
  | .ok (.decimal value, rest) => .error (.before (.wrongType (.decimal value) .indent) rest)

def readIndent (input : List Char) : Reading Nat :=
  match skipBlanks input with
  | [] => .error (.before .endInValue [])
  | first :: rest =>
      if first = '-' then indentOf (readNumber true rest)
      else if first.isDigit then indentOf (readNumber false (first :: rest))
      else .error (mismatch .indent (first :: rest))

def readPolicyName (input : List Char) : Reading SplitPolicy :=
  match readText input with
  | .error fault => .error fault
  | .ok (name, rest) =>
      match SplitPolicy.ofWord? name with
      | some policy => .ok (policy, rest)
      | none => .error (.before (.unknownPolicy name) rest)

def readColon (input : List Char) : Reading Unit :=
  match skipBlanks input with
  | [] => .error (.before .endInObject [])
  | ':' :: rest => .ok ((), rest)
  | other => .error (.inside .expectedColon other)

def readNull (input : List Char) : Reading Unit :=
  match skipBlanks input with
  | [] => .error (.before .endInValue [])
  | 'n' :: rest => readWord ['u', 'l', 'l'] rest
  | other => .error (mismatch .nothing other)

def readPolicyEnd (input : List Char) : Reading Unit :=
  match skipBlanks input with
  | [] => .error (.before .endInObject [])
  | '\x7d' :: rest => .ok ((), rest)
  | other => .error (.before .expectedValue other)

def readPolicyObject (input : List Char) : Reading SplitPolicy :=
  match skipBlanks input with
  | [] => .error (.before .endInObject [])
  | '"' :: name =>
      andThen (readPolicyName name) fun policy rest =>
      andThen (readColon rest) fun _ rest =>
      andThen (readNull rest) fun _ rest =>
      andThen (readPolicyEnd rest) fun _ rest =>
      .ok (policy, rest)
  | '\x7d' :: rest => .error (.inside .expectedValue ('\x7d' :: rest))
  | other => .error (.inside .keyNotText other)

def readPolicy (input : List Char) : Reading SplitPolicy :=
  match skipBlanks input with
  | [] => .error (.before .endInValue [])
  | '"' :: name => readPolicyName name
  | '\x7b' :: rest => readPolicyObject rest
  | other => .error (.inside .expectedValue other)

structure Given where
  indent : Option Nat := none
  split : Option SplitPolicy := none
  deriving DecidableEq, Repr

def Given.missing (given : Given) : Nat :=
  (if given.indent.isNone then 1 else 0) + (if given.split.isNone then 1 else 0)

def Given.options (given : Given) : Options where
  indent := given.indent.getD (Options.indent {})
  split := given.split.getD (Options.split {})

/-- Reads up to the end of the next key, or to the brace that closes the object.
`first` says that no member came before. -/
def nextKey (first : Bool) (input : List Char) : Reading (Option String) :=
  let key (name : List Char) : Reading (Option String) :=
    match readText name with
    | .error fault => .error fault
    | .ok (text, rest) => .ok (some text, rest)
  match skipBlanks input with
  | [] => .error (.before .endInObject [])
  | '\x7d' :: rest => .ok (none, rest)
  | other =>
      if first then
        match other with
        | '"' :: name => key name
        | _ => .error (.inside .keyNotText other)
      else
        match other with
        | ',' :: rest =>
            match skipBlanks rest with
            | [] => .error (.before .endInValue [])
            | '"' :: name => key name
            | '\x7d' :: after => .error (.inside .trailingComma ('\x7d' :: after))
            | after => .error (.inside .keyNotText after)
        | _ => .error (.inside .expectedCommaOrBrace other)

/-- The fault of a key that may not stand here. It is reported at the next thing
after the key, behind it when that closes the object. -/
def refuseKey (problem : Problem) (input : List Char) : Fault :=
  match skipBlanks input with
  | '\x7d' :: rest => .before problem rest
  | rest => .before problem rest

/-- Reads the members of an object up to and including its closing brace. A
member fills in a setting not given before, so there are at most two. -/
def readMembers (given : Given) (first : Bool) (input : List Char) : Reading Given :=
  match nextKey first input with
  | .error fault => .error fault
  | .ok (none, rest) => .ok (given, rest)
  | .ok (some key, rest) =>
      if key = "indent" then
        match vacant : given.indent with
        | some _ => .error (refuseKey (.duplicateField key) rest)
        | none =>
            match andThen (readColon rest) fun _ rest => readIndent rest with
            | .error fault => .error fault
            | .ok (indent, rest) =>
                have : Given.missing { given with indent := some indent } < given.missing := by
                  simp [Given.missing, vacant]
                readMembers { given with indent := some indent } false rest
      else if key = "split" then
        match vacant : given.split with
        | some _ => .error (refuseKey (.duplicateField key) rest)
        | none =>
            match andThen (readColon rest) fun _ rest => readPolicy rest with
            | .error fault => .error fault
            | .ok (split, rest) =>
                have : Given.missing { given with split := some split } < given.missing := by
                  simp [Given.missing, vacant]
                readMembers { given with split := some split } false rest
      else .error (refuseKey (.unknownField key) rest)
termination_by given.missing
decreasing_by all_goals assumption

def nextElement (first : Bool) (input : List Char) : Reading Bool :=
  match skipBlanks input with
  | [] => .error (.before .endInList [])
  | ']' :: rest => .ok (false, ']' :: rest)
  | other =>
      if first then .ok (true, other)
      else
        match other with
        | ',' :: rest =>
            match skipBlanks rest with
            | [] => .error (.before .endInValue [])
            | ']' :: after => .error (.inside .trailingComma (']' :: after))
            | after => .ok (true, after)
        | _ => .error (.inside .expectedCommaOrBracket other)

def readListEnd (input : List Char) : Reading Unit :=
  match skipBlanks input with
  | [] => .error (.before .endInList [])
  | ']' :: rest => .ok ((), rest)
  | ',' :: rest =>
      match skipBlanks rest with
      | ']' :: after => .error (.inside .trailingComma (']' :: after))
      | after => .error (.inside .trailingCharacters after)
  | other => .error (.inside .trailingCharacters other)

def closeList (given : Given) (input : List Char) : Reading Given :=
  andThen (readListEnd input) fun _ rest => .ok (given, rest)

def readElements (input : List Char) : Reading Given :=
  andThen (nextElement true input) fun more rest =>
  if more = false then closeList {} rest
  else
    andThen (readIndent rest) fun indent rest =>
    andThen (nextElement false rest) fun more rest =>
    if more = false then closeList { indent := some indent } rest
    else andThen (readPolicy rest) fun split rest => closeList ⟨some indent, some split⟩ rest

def readSettings (input : List Char) : Reading Given :=
  match skipBlanks input with
  | [] => .error (.before .endInValue [])
  | '[' :: rest => readElements rest
  | '\x7b' :: rest => readMembers {} true rest
  | other => .error (mismatch .settings other)

def readDocument (document : List Char) : Except Fault Given :=
  match readSettings document with
  | .error fault => .error fault
  | .ok (given, rest) =>
      match skipBlanks rest with
      | [] => .ok given
      | other => .error (.inside .trailingCharacters other)

end TurtleLang.Document

namespace TurtleLang

inductive LoadFault where
  | malformed (problem : Document.Problem) (position : Document.Position)
  | refused (fault : OptionsFault)
  deriving DecidableEq, Repr

def LoadFault.message : LoadFault → String
  | .malformed problem position =>
      "Failed to parse options JSON: " ++ problem.message ++ " at line " ++
        toString position.line ++ " column " ++ toString position.column
  | .refused fault => fault.message

def Options.load (text : String) : Except LoadFault Options :=
  match Document.readDocument text.toList with
  | .error fault => .error (.malformed fault.problem (fault.position text.toList))
  | .ok given =>
      match given.options.check with
      | .error fault => .error (.refused fault)
      | .ok () => .ok given.options

end TurtleLang
