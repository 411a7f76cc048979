import HugoStory.FileTree
import HugoStory.Invocation
import HugoStory.Report
import HugoStory.Settings.Document
import HugoStory.Story.Json
import HugoStory.Text.Quoted
/-! The command line: a story file, then options. Nothing is written to standard output before
all has gone well, and what goes wrong is reported on standard error. -/
namespace HugoStory

inductive Refusal
  | options (fault : OptionFault)
  | unreadableConfig (name reason : String)
  | invalidConfig (document : String)
  | missingStory (path : String)
  | unopenedStory (path reason : String)
  | unreadableStory (path reason : String)
  | faultyStory (fault : Fault)
deriving DecidableEq, Repr

namespace Refusal

/-- Faults of the options and of the settings are quoted. What is wrong with a settings document
is for the reader of such documents to say. Where its words are not known, the report stops in
front of them. -/
def report (complaint : String → Option String) : Refusal → String
  | options fault => "Error: " ++ Text.Quoted.render fault.message ++ "\n"
  | unreadableConfig name reason =>
    "Error: " ++ Text.Quoted.render ("Cannot read config '" ++ name ++ "': " ++ reason) ++ "\n"
  | invalidConfig document =>
    match complaint document with
    | none => "Error: \"Invalid config: "
    | some words => "Error: " ++ Text.Quoted.render ("Invalid config: " ++ words) ++ "\n"
  | missingStory path => "Error: Story file not found: " ++ path ++ "\n"
  | unopenedStory path reason =>
    "Error: Cannot open story file '" ++ path ++ "': " ++ reason ++ "\n"
  | unreadableStory path reason =>
    "Error: Cannot read story file '" ++ path ++ "': " ++ reason ++ "\n"
  | faultyStory fault => "Error: " ++ fault.message ++ "\n"

end Refusal

structure Outcome where
  exitCode : Nat
  output : String
  errors : String
deriving DecidableEq, Repr

namespace CommandLine

def programName : String := "hugo-browse"

def usage (program : String) : String :=
  programName ++ " - inspect compiled Hugo story files\n" ++
  "\n" ++
  "Usage: " ++ program ++ " <story.hex> [--json] [--section NAME]... [--config FILE]\n" ++
  "Examples:\n" ++
  "  " ++ program ++ " cloak.hex\n" ++
  "  " ++ program ++ " cloak.hex --section header --section grammar\n" ++
  "  " ++ program ++ " cloak.hex --json > cloak.json\n" ++
  "\n" ++
  "Sections: " ++ String.intercalate ", " (Section.all.map Section.name) ++ "\n"

def isDirectory : String := "Is a directory (os error 21)"
def isNoDirectory : String := "Not a directory (os error 20)"
def isMissing : String := "No such file or directory (os error 2)"
def isNoText : String := "stream did not contain valid UTF-8"

def readSettings (files : String → Lookup) (name : String) : Except Refusal Settings :=
  match files name with
  | .missing => .error (.unreadableConfig name isMissing)
  | .directory => .error (.unreadableConfig name isDirectory)
  | .throughFile => .error (.unreadableConfig name isNoDirectory)
  | .file contents =>
    match String.fromUTF8? contents with
    | none => .error (.unreadableConfig name isNoText)
    | some document =>
      match Settings.ofDocument? document with
      | none => .error (.invalidConfig document)
      | some settings => .ok settings

def chooseSettings (files : String → Lookup) (invocation : Invocation) :
    Except Refusal Settings := do
  let settings ←
    match invocation.config with
    | none => pure Settings.standard
    | some name => readSettings files name
  return invocation.adjust settings

def readStory (files : String → Lookup) (path : String) : Except Refusal Story :=
  match files path with
  | .missing => .error (.missingStory path)
  | .directory => .error (.unreadableStory path isDirectory)
  | .throughFile => .error (.unopenedStory path isNoDirectory)
  | .file contents =>
    match Story.read ⟨contents.data⟩ with
    | .error fault => .error (.faultyStory fault)
    | .ok story =>
      .ok (story.withFile { name := (FileTree.lastName? path).getD path, size := contents.size })

def display (settings : Settings) (story : Story) : String :=
  if settings.json then story.toJson.pretty ++ "\n" else Report.render story settings

/-- What the arguments bring up, if anything. Faults of the options come before those of the
settings, and those before faults of the story. -/
def answer (files : String → Lookup) (path : String) (options : List String) :
    Except Refusal String := do
  let invocation ←
    match (Invocation.ofStory path).withOptions options with
    | .error fault => throw (.options fault)
    | .ok invocation => pure invocation
  let settings ← chooseSettings files invocation
  let story ← readStory files path
  return display settings story

/-- Without arguments there is help, and that is no error. The help goes by the name that the
program was called with. -/
def runAs (program : String) (complaint : String → Option String) (files : String → Lookup) :
    List String → Outcome
  | [] => { exitCode := 0, output := usage program, errors := "" }
  | path :: options =>
    match answer files path options with
    | .ok output => { exitCode := 0, output, errors := "" }
    | .error refusal => { exitCode := 1, output := "", errors := refusal.report complaint }

def run (files : String → Lookup) (arguments : List String) : Outcome :=
  runAs programName (fun _ => none) files arguments

end CommandLine

end HugoStory
