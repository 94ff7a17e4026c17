import TurtleLang.Pipeline

/-!
The program on a real machine: files, standard input and output, and notices on
standard error as far as they were asked for.
-/
namespace TurtleLang

def FileFault.ofError (error : IO.Error) : FileFault :=
  match error with
  | .noFileOrDirectory .. => .notFound
  | .inappropriateType _ _ details =>
      if Text.lowerAscii details = "is a directory" then .isDirectory
      else if Text.lowerAscii details = "not a directory" then .notDirectory
      else .other details
  | .resourceExhausted _ code details | .resourceVanished code details
  | .permissionDenied _ code details =>
      .other (details ++ " (os error " ++ toString code ++ ")")
  | unnamed => .other (toString unnamed)

partial def readBytes (stream : IO.FS.Stream) (read : ByteArray) : IO ByteArray := do
  let next ← stream.read 65536
  if next.isEmpty then return read else readBytes stream (read ++ next)

def readingText (action : IO ByteArray) : IO (Except FileFault String) := do
  try
    match String.fromUTF8? (← action) with
    | some text => return .ok text
    | none => return .error .notText
  catch error => return .error (.ofError error)

def writingText (action : IO Unit) : IO (Except FileFault Unit) := do
  try
    action
    return .ok ()
  catch error => return .error (.ofError error)

/-- Says something on standard error, to whoever may listen there. -/
def say (text : String) : IO Unit := do
  try IO.eprint text catch _ => pure ()

def machine (threshold : Severity) : Host IO where
  readFile path := readingText (IO.FS.readBinFile path)
  readInput := readingText (do readBytes (← IO.getStdin) ByteArray.empty)
  writeFile path text := writingText (IO.FS.withFile path .write fun file => do
    file.putStr text
    file.flush)
  print text := writingText do
    let output ← IO.getStdout
    output.putStr text
    output.flush
  complain := say
  notify notice := do
    if notice.severity.rank ≤ threshold.rank then say ("[" ++ notice.record ++ "]\n")

def thresholdOf (arguments : List String) : Severity :=
  match CommandLine.parse arguments with
  | .ok (.compile parsed) =>
      if parsed.verbosity = 0 then .warning
      else if parsed.verbosity = 1 then .debugging
      else .tracing
  | _ => .warning

end TurtleLang

def main (arguments : List String) : IO UInt32 := do
  let code ← (TurtleLang.machine (TurtleLang.thresholdOf arguments)).execute arguments
  return code.toUInt32
