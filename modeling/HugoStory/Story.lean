import HugoStory.Code
import HugoStory.Dictionary
import HugoStory.Event
import HugoStory.Grammar
import HugoStory.Ifid
import HugoStory.Library
import HugoStory.Object
import HugoStory.Preamble
import HugoStory.SpecialWord
import HugoStory.TextBank
import HugoStory.Variables
/-! A complete story: everything that a story file holds, read section by section, and the
names that its objects and words go by. -/
namespace HugoStory

structure FileInfo where
  name : String
  size : Nat
deriving DecidableEq, Repr

structure Story where
  version : Version
  id : UInt16
  serial : String
  ifids : List String
  entryPoints : EntryPoints
  counts : Counts
  code : List UInt8
  objects : List Object
  dictionary : Dictionary
  textBank : TextBank
  grammar : List GrammarEntry
  events : List Event
  arrays : OrderedMap Nat (List UInt16)
  globals : List Int
  specialWords : SpecialWords
  file : Option FileInfo
deriving DecidableEq, Repr

namespace Story

/-- Reads the sections in the order in which their faults are reported. The serial number is
a word of the dictionary, but no place to look for an identifier. -/
def readSections (image : Image) (preamble : Preamble) : Except Fault Story := do
  let header := preamble.header
  let layout := header.layout
  let counts := preamble.counts
  let arrays ← Variables.readArrays image layout.arrays layout.specialWords
  let code ← Code.read image layout.code layout.objects
  let dictionary ← Dictionary.read image layout.dictionary counts.dictionaryWords.toNat
  let events ← Event.readTable image layout.events counts.events.toNat
  let globals ← Variables.readGlobals image layout.arrays
  let grammar ← Grammar.read image
  let objects ←
    Object.readTable image layout.objects counts.objects.toNat layout.properties
      preamble.defaults
  let specialWords ←
    SpecialWords.read image layout.specialWords counts.specialWords.toNat
  let textBank ← TextBank.read image layout.textBank (preamble.textBankEnd image)
  return {
    version := header.version
    id := header.id
    serial := header.serial
    ifids := Ifid.findAll (dictionary.words.values ++ textBank.texts.values)
    entryPoints := header.entryPoints
    dictionary := dictionary.withReserved header.serial
    file := none
    counts, code, objects, textBank, grammar, events, arrays, globals, specialWords }

def read (image : Image) : Except Fault Story := do
  let preamble ← Preamble.read image
  readSections image preamble

def withFile (story : Story) (file : FileInfo) : Story := { story with file := some file }

def word (story : Story) (address : Int) : String :=
  (story.dictionary.get? address).getD ""

def wordFor (story : Story) : PropertyValue → String
  | .value address => story.word address
  | value@(.routine _) => value.toText

def object? (story : Story) (index : Nat) : Option Object := story.objects[index]?

/-- Objects are named by a word. A zero means no name, though the first word has that
address. -/
def objectName (story : Story) (index : Nat) : String :=
  match (story.object? index).bind fun object => object.first? Library.name with
  | none => ""
  | some value => if value = .value 0 then "" else story.wordFor value

def nameOf (story : Story) : PropertyValue → String
  | .value index => if 0 ≤ index then story.objectName index.toNat else ""
  | value@(.routine _) => value.toText

end Story

end HugoStory
