import HugoStory.Settings
/-! What the arguments of the command line ask for, and why options are refused. -/
namespace HugoStory

structure Invocation where
  story : String
  config : Option String
  json : Bool
  sections : List Section
deriving DecidableEq, Repr

inductive OptionFault
  | missingSectionName
  | unknownSection (name : String)
  | missingConfigName
  | unknownOption (argument : String)
deriving DecidableEq, Repr

namespace OptionFault

def message : OptionFault → String
  | missingSectionName => "--section needs a section name"
  | unknownSection name => Section.unknownMessage name
  | missingConfigName => "--config needs a file name"
  | unknownOption argument => "Unknown option: " ++ argument

end OptionFault

namespace Invocation

def ofStory (story : String) : Invocation :=
  { story, config := none, json := false, sections := [] }

/-- Options are taken from left to right. Sections add up, and the last settings file
counts. -/
def withOptions (invocation : Invocation) : List String → Except OptionFault Invocation
  | [] => .ok invocation
  | option :: rest =>
    if option = "--json" then withOptions { invocation with json := true } rest
    else if option = "--section" then
      match rest with
      | [] => .error .missingSectionName
      | name :: rest =>
        match Section.parse? name with
        | none => .error (.unknownSection name)
        | some choice =>
          withOptions { invocation with sections := invocation.sections ++ [choice] } rest
    else if option = "--config" then
      match rest with
      | [] => .error .missingConfigName
      | name :: rest => withOptions { invocation with config := some name } rest
    else .error (.unknownOption option)

/-- Options win over the settings file. -/
def adjust (invocation : Invocation) (settings : Settings) : Settings where
  sections := if invocation.sections.isEmpty then settings.sections else invocation.sections
  json := invocation.json || settings.json
  maxEntries := settings.maxEntries

end Invocation

end HugoStory
