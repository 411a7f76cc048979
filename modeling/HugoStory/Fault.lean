import HugoStory.Text.Hexadecimal
import HugoStory.Version
/-! The ways in which a file fails to be a story file, each with the place it was noticed
and the message it is reported with. -/
namespace HugoStory

inductive Region
  | version
  | idAndSerial
  | offsets
  | counts
  | code
  | propertyDefaults
  | objects
  | dictionary
  | events
  | arrays
  | globals
  | grammar
  | specialWords
  | textBank
deriving DecidableEq, Repr

namespace Region

def label : Region → String
  | version => "compiler version"
  | idAndSerial => "id and serial number"
  | offsets => "offsets"
  | counts => "element counts"
  | code => "code"
  | propertyDefaults => "property defaults"
  | objects => "objects"
  | dictionary => "dictionary"
  | events => "events"
  | arrays => "arrays"
  | globals => "globals"
  | grammar => "grammar"
  | specialWords => "special words"
  | textBank => "text bank"

end Region

/-- Why a file is refused. Offsets count bytes from the start of the file. -/
inductive Fault
  | unsupportedVersion (found : Version)
  | endOfFile (region : Region) (offset : Nat)
  | unknownVerbKind (byte : UInt8) (offset : Nat)
  | strayGrammarByte (byte : UInt8) (offset : Nat)
  | unknownWordCategory (byte : UInt8) (offset : Nat)
deriving DecidableEq, Repr

namespace Fault

open Text

private def address (offset : Nat) : String := Hexadecimal.render 4 offset

private def byteText (byte : UInt8) : String := Hexadecimal.render 2 byte.toNat

def message : Fault → String
  | unsupportedVersion found =>
    "Invalid story file version or file not a Hugo story file. " ++
      "Only 3.1 supported, story file identifies itself as " ++ found.toText
  | endOfFile region offset =>
    "Story file ended unexpectedly when reading " ++ region.label ++
      " (offset " ++ address offset ++ ")"
  | unknownVerbKind byte offset =>
    "Unknown verb type " ++ byteText byte ++ " encountered while reading grammar at " ++
      address offset
  | strayGrammarByte byte offset =>
    "Expected 0x08, 0x2c, 0x2d or 0xff when reading grammar, found " ++ byteText byte ++
      " instead at " ++ address offset
  | unknownWordCategory byte offset =>
    "Encountered an unknown special word category index " ++ toString byte.toNat ++ " at " ++
      address offset

end Fault

end HugoStory
