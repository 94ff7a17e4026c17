/-!
A directory of files, as a value. The directory is the working directory of a
program: paths are walked from it, a file has no entries of its own, and nothing
is known of what lies outside. Only the reasons for which reading or writing a
file can fail are modelled, not permissions or links.
-/
namespace TurtleLang

inductive FileFault where
  | notFound
  | isDirectory
  | notDirectory
  | notText
  | other (message : String)
  deriving DecidableEq, Repr

def FileFault.message : FileFault → String
  | .notFound => "No such file or directory (os error 2)"
  | .isDirectory => "Is a directory (os error 21)"
  | .notDirectory => "Not a directory (os error 20)"
  | .notText => "stream did not contain valid UTF-8"
  | .other message => message

def textOf (contents : List UInt8) : Except FileFault String :=
  match String.fromUTF8? ⟨contents.toArray⟩ with
  | some text => .ok text
  | none => .error .notText

def bytesOf (text : String) : List UInt8 :=
  text.toUTF8.toList

structure Directory where
  files : List (String × List UInt8) := []
  deriving DecidableEq, Repr

namespace Directory

def find? (directory : Directory) (name : String) : Option (List UInt8) :=
  (directory.files.find? fun file => file.1 == name).map (·.2)

def place (name : String) (contents : List UInt8) :
    List (String × List UInt8) → List (String × List UInt8)
  | [] => [(name, contents)]
  | file :: rest =>
      if file.1 = name then (name, contents) :: rest else file :: place name contents rest

def put (directory : Directory) (name : String) (contents : List UInt8) : Directory :=
  ⟨place name contents directory.files⟩

/-- The pieces of a path between its slashes, of which there is at least one. -/
def pieces : List Char → List (List Char)
  | [] => [[]]
  | character :: rest =>
      if character = '/' then [] :: pieces rest
      else
        match pieces rest with
        | [] => [[character]]
        | piece :: more => (character :: piece) :: more

inductive Place where
  /-- The directory itself. -/
  | here
  /-- A directory outside. -/
  | outside
  /-- An entry of the directory, which a slash may follow. -/
  | entry (name : String) (slashed : Bool)
  deriving DecidableEq, Repr

def walk (directory : Directory) : Place → List (List Char) → Except FileFault Place
  | place, [] => .ok place
  | .here, piece :: rest =>
      if piece = [] ∨ piece = ['.'] then directory.walk .here rest
      else if piece = ['.', '.'] then directory.walk .outside rest
      else directory.walk (.entry (String.ofList piece) false) rest
  | .outside, piece :: rest =>
      if piece = [] ∨ piece = ['.'] ∨ piece = ['.', '.'] then directory.walk .outside rest
      else .error .notFound
  | .entry name _, piece :: rest =>
      if piece = [] then directory.walk (.entry name true) rest
      else if (directory.find? name).isSome then .error .notDirectory
      else .error .notFound

/-- The place that a path leads to. The empty path leads nowhere. -/
def resolve (directory : Directory) (path : String) : Except FileFault Place :=
  if path = "" then .error .notFound else directory.walk .here (pieces path.toList)

def read (directory : Directory) (path : String) : Except FileFault String :=
  match directory.resolve path with
  | .error fault => .error fault
  | .ok (.entry name slashed) =>
      match directory.find? name with
      | none => .error .notFound
      | some contents => if slashed then .error .notDirectory else textOf contents
  | .ok _ => .error .isDirectory

def write (directory : Directory) (path text : String) : Except FileFault Directory :=
  match directory.resolve path with
  | .error fault => .error fault
  | .ok (.entry name false) => .ok (directory.put name (bytesOf text))
  | .ok _ => .error .isDirectory

end Directory

end TurtleLang
