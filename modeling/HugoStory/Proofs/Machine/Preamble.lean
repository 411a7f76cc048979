import HugoStory.Proofs.EndOfFile.Region
import HugoStory.Proofs.Machine.Image
import HugoStory.Proofs.Parts
/-! The header, the counts and the default properties, read with the numbers of a machine. What
comes of the header is small: offsets are words that count blocks, and the debugging data start
at an address of three bytes. -/
namespace HugoStory.Machine
open Outcome

variable {image : Image}

section Header
open Header

def versionOf (byte : UInt8) : Checked Version :=
  if byte = 1 ∨ byte = 2 then do
    let tenths ← below byteLimit (byte.toNat * 10)
    return ⟨tenths⟩
  else return ⟨byte.toNat⟩

def readVersion (image : Image) : Checked Version := do
  let byte ← byteAt image .version 0
  let version ← versionOf byte
  if version = Version.supported then return version
  else throw (.fault (.unsupportedVersion version))

def readSerial (image : Image) : Checked String := do
  let stop ← add serialOffset serialLength
  let bytes ← slice image .idAndSerial serialOffset stop
  return String.ofList (bytes.map fun byte => Char.ofNat byte.toNat)

def readBlock (image : Image) (place : Nat) : Checked Nat := do
  let word ← wordAt image .offsets place
  let start ← mul word.toNat blockSize
  return start

def readLayout (image : Image) : Checked Layout := do
  let code ← wordAt image .offsets codeOffset
  let objects ← readBlock image objectsOffset
  let properties ← readBlock image propertiesOffset
  let events ← readBlock image eventsOffset
  let arrays ← readBlock image arraysOffset
  let dictionary ← readBlock image dictionaryOffset
  let specialWords ← readBlock image specialWordsOffset
  let textBank ← readBlock image textBankOffset
  return {
    code := code.toNat, objects, properties, events, arrays, dictionary, specialWords, textBank }

def readEntryPoint (image : Image) (distance : Nat) : Checked Nat := do
  let place ← add entryPointsOffset distance
  readBlock image place

def readEntryPoints (image : Image) (code : Nat) : Checked EntryPoints := do
  let init ← readBlock image entryPointsOffset
  let main ← readEntryPoint image 2
  let parse ← readEntryPoint image 4
  let parseError ← readEntryPoint image 6
  let findObject ← readEntryPoint image 8
  let endGame ← readEntryPoint image 10
  let speakTo ← readEntryPoint image 12
  let perform ← readEntryPoint image 14
  return { code, init, main, parse, parseError, findObject, endGame, speakTo, perform }

def readDebugAddress (image : Image) : Checked Nat := do
  let low ← byteAt image .offsets debugStartOffset
  let middlePlace ← add debugStartOffset 1
  let middle ← byteAt image .offsets middlePlace
  let highPlace ← add debugStartOffset 2
  let high ← byteAt image .offsets highPlace
  let shiftedMiddle ← shift middle.toNat 8
  let lower ← add low.toNat shiftedMiddle
  let shiftedHigh ← shift high.toNat 16
  let address ← add lower shiftedHigh
  return address

def readDebugStart (image : Image) : Checked (Option Nat) :=
  match image.byte? debugFlagOffset with
  | none | some 0 => return none
  | some _ => do
    let address ← readDebugAddress image
    return some address

def readHeader (image : Image) : Checked Header := do
  let version ← readVersion image
  let id ← wordAt image .idAndSerial idOffset
  let serial ← readSerial image
  let layout ← readLayout image
  let entryPoints ← readEntryPoints image layout.code
  let debugStart ← readDebugStart image
  return { version, id, serial, layout, entryPoints, debugStart }

end Header

def readCounts (image : Image) (layout : Layout) : Checked Counts := do
  let objects ← wordAt image .counts layout.objects
  let events ← wordAt image .counts layout.events
  let dictionaryWords ← wordAt image .counts layout.dictionary
  let specialWords ← wordAt image .counts layout.specialWords
  let properties ← wordAt image .counts layout.properties
  return { objects, events, dictionaryWords, specialWords, properties }

def readDefaults (image : Image) (offset count : Nat) : Checked (List Property) := do
  let start ← add offset 2
  let values ← signedWords image .propertyDefaults start count
  return values.map fun value => [.value value]

def readPreamble (image : Image) : Checked Preamble := do
  let header ← readHeader image
  let counts ← readCounts image header.layout
  let defaults ← readDefaults image header.layout.properties counts.properties.toNat
  return { header, counts, defaults }

private theorem versionOf_eq (byte : UInt8) : versionOf byte = .ok (Version.ofByte byte) := by
  unfold versionOf Version.ofByte
  split
  · rename_i early
    have small : byte.toNat * 10 < byteLimit := by rcases early with rfl | rfl <;> decide
    rw [below_eq small, ok_bind]
    rfl
  · rfl

private theorem readVersion_eq_lift : readVersion image = lift (Header.readVersion image) := by
  unfold readVersion Header.readVersion byteAt
  rw [lift_bind]
  apply lift_bind_congr
  intro byte _
  rw [versionOf_eq, ok_bind]
  by_cases known : Version.ofByte byte = Version.supported
  · simp [known]
  · simp [known]
    rfl

private theorem readSerial_eq_lift : readSerial image = lift (Header.readSerial image) := by
  unfold readSerial Header.readSerial slice
  rw [add_eq (by decide), ok_bind, lift_bind]
  rfl

private theorem readDebugAddress_eq_lift :
    readDebugAddress image = lift (do
      let low ← image.byteAt .offsets Header.debugStartOffset
      let middle ← image.byteAt .offsets (Header.debugStartOffset + 1)
      let high ← image.byteAt .offsets (Header.debugStartOffset + 2)
      return low.toNat + 256 * middle.toNat + 65536 * high.toNat) := by
  unfold readDebugAddress byteAt
  rw [lift_bind]
  apply lift_bind_congr
  intro low _
  have lowBound := low.toNat_lt
  rw [add_eq (by decide), ok_bind, lift_bind]
  apply lift_bind_congr
  intro middle _
  have middleBound := middle.toNat_lt
  rw [add_eq (by decide), ok_bind, lift_bind]
  apply lift_bind_congr
  intro high _
  have highBound := high.toNat_lt
  simp (disch := omega) only [shift_eq, add_eq, ok_bind, lift_pure]
  exact congrArg Except.ok (by omega)

private theorem readDebugStart_eq_lift :
    readDebugStart image = lift (Header.readDebugStart image) := by
  unfold readDebugStart Header.readDebugStart
  match image.byte? Header.debugFlagOffset with
  | none => rfl
  | some flag =>
    by_cases clear : flag = 0
    · rw [clear]
      rfl
    · simp only [readDebugAddress_eq_lift, lift_bind, lift_pure, bind_assoc, pure_bind]

variable (small : Addressable image)
include small

private theorem readBlock_eq_lift (place : Nat) :
    readBlock image place = lift (Header.readBlock image place) := by
  unfold readBlock Header.readBlock
  rw [wordAt_eq_lift small, lift_bind]
  apply lift_bind_congr
  intro word _
  have bound := word.toNat_lt
  unfold Header.blockSize
  rw [mul_eq (by omega)]
  rfl

private theorem readLayout_eq_lift : readLayout image = lift (Header.readLayout image) := by
  unfold readLayout Header.readLayout
  simp only [wordAt_eq_lift small, readBlock_eq_lift small, lift_bind, lift_pure]

private theorem readEntryPoint_eq_lift {distance : Nat} (near : distance ≤ 14) :
    readEntryPoint image distance =
      lift (Header.readBlock image (Header.entryPointsOffset + distance)) := by
  unfold readEntryPoint
  have fits : Header.entryPointsOffset + distance < 0x100000000 := by
    unfold Header.entryPointsOffset
    omega
  rw [add_eq fits, ok_bind, readBlock_eq_lift small]

private theorem readEntryPoints_eq_lift (code : Nat) :
    readEntryPoints image code = lift (Header.readEntryPoints image code) := by
  unfold readEntryPoints Header.readEntryPoints
  simp (disch := decide) only [readBlock_eq_lift small, readEntryPoint_eq_lift small, lift_bind,
    lift_pure]

private theorem readHeader_eq_lift : readHeader image = lift (Header.read image) := by
  unfold readHeader Header.read
  simp only [readVersion_eq_lift, wordAt_eq_lift small, readSerial_eq_lift,
    readLayout_eq_lift small, readEntryPoints_eq_lift small, readDebugStart_eq_lift, lift_bind,
    lift_pure]

private theorem readCounts_eq_lift (layout : Layout) :
    readCounts image layout = lift (Counts.read image layout) := by
  unfold readCounts Counts.read
  simp only [wordAt_eq_lift small, lift_bind, lift_pure]

private theorem readDefaults_eq_lift {offset count : Nat}
    (fits : offset + 2 + 2 * count < 0x100000000) :
    readDefaults image offset count = lift (Property.readDefaults image offset count) := by
  unfold readDefaults Property.readDefaults
  rw [add_eq (by omega), ok_bind, signedWords_eq_lift small fits]
  simp only [lift_bind, lift_pure, bind_assoc, pure_bind, List.map_map]
  rfl

theorem readPreamble_eq_lift : readPreamble image = lift (Preamble.read image) := by
  unfold readPreamble Preamble.read
  rw [readHeader_eq_lift small, lift_bind]
  apply lift_bind_congr
  intro header _
  rw [readCounts_eq_lift small, lift_bind]
  apply lift_bind_congr
  intro counts counted
  have inside := Counts.succeeds_read_iff.mp ⟨counts, counted⟩ header.layout.properties
    (by simp [Layout.counted])
  have bound := counts.properties.toNat_lt
  rw [readDefaults_eq_lift small (by omega)]
  simp only [lift_bind, lift_pure]

omit small

/-- The data area is not counted, so nothing but its block count keeps it within reach. -/
private theorem arrays_le_of_readLayout {layout : Layout}
    (read : Header.readLayout image = .ok layout) :
    layout.arrays ≤ 0xffff0 := by
  unfold Header.readLayout at read
  obtain ⟨code, _, read⟩ := bind_eq_ok_iff.mp read
  obtain ⟨objects, _, read⟩ := bind_eq_ok_iff.mp read
  obtain ⟨properties, _, read⟩ := bind_eq_ok_iff.mp read
  obtain ⟨events, _, read⟩ := bind_eq_ok_iff.mp read
  obtain ⟨arrays, block, read⟩ := bind_eq_ok_iff.mp read
  obtain ⟨dictionary, _, read⟩ := bind_eq_ok_iff.mp read
  obtain ⟨specialWords, _, read⟩ := bind_eq_ok_iff.mp read
  obtain ⟨textBank, _, read⟩ := bind_eq_ok_iff.mp read
  obtain ⟨word, _, scaled⟩ := bind_eq_ok_iff.mp block
  cases scaled
  cases read
  have bound := word.toNat_lt
  change word.toNat * 16 ≤ 0xffff0
  omega

theorem arrays_le_of_readHeader {header : Header} (read : Header.read image = .ok header) :
    header.layout.arrays ≤ 0xffff0 := by
  obtain ⟨-, -, -, layout, -⟩ := Header.read_eq_ok_iff.mp read
  exact arrays_le_of_readLayout layout

end HugoStory.Machine
