import HugoStory.CommandLine
/-! The program: files are read from the file system, and the outcome of the command line is
written to the standard streams. -/
open HugoStory

def lookUpFile (path : String) : IO Lookup := do
  try
    let contents ← IO.FS.readBinFile path
    return .file contents
  catch
    | .inappropriateType _ 21 _ => return .directory
    | .inappropriateType _ _ _ => return .throughFile
    | _ => return .missing

def lookUpFiles (path : String) (options : List String) : IO (String → Lookup) := do
  let story ← lookUpFile path
  match (Invocation.ofStory path).withOptions options with
  | .ok { config := some name, .. } =>
    let config ← lookUpFile name
    return fun wanted => if wanted = name then config else story
  | _ => return fun _ => story

def main (arguments : List String) : IO UInt32 := do
  let files : String → Lookup ←
    match arguments with
    | [] => pure fun _ => .missing
    | path :: options => lookUpFiles path options
  let outcome := CommandLine.run files arguments
  IO.print outcome.output
  IO.eprint outcome.errors
  return outcome.exitCode.toUInt32
