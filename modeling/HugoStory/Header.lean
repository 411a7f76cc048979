import HugoStory.Image
/-! The header of a story file: its version, its identity, where its sections lie and which
routines the engine enters. Section offsets and entry points are stored in blocks of sixteen
bytes. -/
namespace HugoStory

structure Layout where
  code : Nat
  objects : Nat
  properties : Nat
  events : Nat
  arrays : Nat
  dictionary : Nat
  specialWords : Nat
  textBank : Nat
deriving DecidableEq, Repr

structure EntryPoints where
  code : Nat
  init : Nat
  main : Nat
  parse : Nat
  parseError : Nat
  findObject : Nat
  endGame : Nat
  speakTo : Nat
  perform : Nat
deriving DecidableEq, Repr

structure Counts where
  objects : UInt16
  events : UInt16
  dictionaryWords : UInt16
  specialWords : UInt16
  properties : UInt16
deriving DecidableEq, Repr

structure Header where
  version : Version
  id : UInt16
  serial : String
  layout : Layout
  entryPoints : EntryPoints
  debugStart : Option Nat
deriving DecidableEq, Repr

namespace Header

def idOffset : Nat := 0x01
def serialOffset : Nat := 0x03
def serialLength : Nat := 8
def codeOffset : Nat := 0x0b
def objectsOffset : Nat := 0x0d
def propertiesOffset : Nat := 0x0f
def eventsOffset : Nat := 0x11
def arraysOffset : Nat := 0x13
def dictionaryOffset : Nat := 0x15
def specialWordsOffset : Nat := 0x17
def entryPointsOffset : Nat := 0x19
def textBankOffset : Nat := 0x29
def debugFlagOffset : Nat := 0x3a
def debugStartOffset : Nat := 0x3b

def blockSize : Nat := 16

def readVersion (image : Image) : Except Fault Version := do
  let byte ← image.byteAt .version 0
  let version := Version.ofByte byte
  if version = Version.supported then return version
  else throw (.unsupportedVersion version)

/-- The serial number is plain text, outside the character set of words and texts. -/
def readSerial (image : Image) : Except Fault String := do
  let bytes ← image.slice .idAndSerial serialOffset (serialOffset + serialLength)
  return String.ofList (bytes.map fun byte => Char.ofNat byte.toNat)

def readBlock (image : Image) (offset : Nat) : Except Fault Nat := do
  let word ← image.wordAt .offsets offset
  return word.toNat * blockSize

/-- The start of the code is the one offset that is not stored in blocks. -/
def readLayout (image : Image) : Except Fault Layout := do
  let code ← image.wordAt .offsets codeOffset
  let objects ← readBlock image objectsOffset
  let properties ← readBlock image propertiesOffset
  let events ← readBlock image eventsOffset
  let arrays ← readBlock image arraysOffset
  let dictionary ← readBlock image dictionaryOffset
  let specialWords ← readBlock image specialWordsOffset
  let textBank ← readBlock image textBankOffset
  return {
    code := code.toNat, objects, properties, events, arrays, dictionary, specialWords, textBank }

def readEntryPoints (image : Image) (code : Nat) : Except Fault EntryPoints := do
  let init ← readBlock image entryPointsOffset
  let main ← readBlock image (entryPointsOffset + 2)
  let parse ← readBlock image (entryPointsOffset + 4)
  let parseError ← readBlock image (entryPointsOffset + 6)
  let findObject ← readBlock image (entryPointsOffset + 8)
  let endGame ← readBlock image (entryPointsOffset + 10)
  let speakTo ← readBlock image (entryPointsOffset + 12)
  let perform ← readBlock image (entryPointsOffset + 14)
  return { code, init, main, parse, parseError, findObject, endGame, speakTo, perform }

/-- A file too short for the debug flag has no debugging data, but one whose flag is set
must hold all three bytes of the offset. -/
def readDebugStart (image : Image) : Except Fault (Option Nat) :=
  match image.byte? debugFlagOffset with
  | none | some 0 => return none
  | some _ => do
    let low ← image.byteAt .offsets debugStartOffset
    let middle ← image.byteAt .offsets (debugStartOffset + 1)
    let high ← image.byteAt .offsets (debugStartOffset + 2)
    return some (low.toNat + 256 * middle.toNat + 65536 * high.toNat)

def read (image : Image) : Except Fault Header := do
  let version ← readVersion image
  let id ← image.wordAt .idAndSerial idOffset
  let serial ← readSerial image
  let layout ← readLayout image
  let entryPoints ← readEntryPoints image layout.code
  let debugStart ← readDebugStart image
  return { version, id, serial, layout, entryPoints, debugStart }

end Header

namespace Counts

def read (image : Image) (layout : Layout) : Except Fault Counts := do
  let objects ← image.wordAt .counts layout.objects
  let events ← image.wordAt .counts layout.events
  let dictionaryWords ← image.wordAt .counts layout.dictionary
  let specialWords ← image.wordAt .counts layout.specialWords
  let properties ← image.wordAt .counts layout.properties
  return { objects, events, dictionaryWords, specialWords, properties }

end Counts

end HugoStory
