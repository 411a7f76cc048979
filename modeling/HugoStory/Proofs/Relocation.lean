import HugoStory.Proofs.Grammar.Entries
import HugoStory.Proofs.Outcome
import HugoStory.Story
/-! Tables can be moved. If bytes are put in front of a file and every offset is raised by their number,
then each reader finds the same table: what it keys by places it counts from the start of the table.
Only the offsets in faults count from the start of the file, so they are raised too. -/
namespace HugoStory
open Outcome

def Fault.moved (distance : Nat) : Fault → Fault
  | unsupportedVersion found => unsupportedVersion found
  | endOfFile region offset => endOfFile region (offset + distance)
  | unknownVerbKind byte offset => unknownVerbKind byte (offset + distance)
  | strayGrammarByte byte offset => strayGrammarByte byte (offset + distance)
  | unknownWordCategory byte offset => unknownWordCategory byte (offset + distance)

namespace Outcome

variable {α β : Type} {distance : Nat}

/-- The same outcome, its fault noticed so much further on. -/
def moved (distance : Nat) (outcome : Except Fault α) : Except Fault α :=
  outcome.mapError (Fault.moved distance)

@[simp] theorem moved_pure (value : α) :
    moved distance (pure value : Except Fault α) = pure value := rfl

@[simp] theorem moved_throw (fault : Fault) :
    moved distance (throw fault : Except Fault α) = throw (fault.moved distance) := rfl

@[simp] theorem moved_bind (first : Except Fault α) (next : α → Except Fault β) :
    moved distance (first >>= next) = moved distance first >>= fun value =>
      moved distance (next value) := by
  cases first <;> rfl

@[simp] theorem moved_map (result : α → β) (outcome : Except Fault α) :
    moved distance (result <$> outcome) = result <$> moved distance outcome := by
  cases outcome <;> rfl

end Outcome

namespace Record

variable {α β : Type} {distance : Nat}

def shift (distance : Nat) (entry : Nat × α) : Nat × α := (entry.1 + distance, entry.2)

/-- The same records, each found so much further on. -/
def Shifted (distance : Nat) (part whole : Except Fault (List (Nat × α))) : Prop :=
  whole = moved distance (part >>= fun records => pure (records.map (shift distance)))

private theorem Shifted.thenReturn {part whole : Except Fault (List (Nat × α))}
    {result result' : List (Nat × α) → β} (shifted : Shifted distance part whole)
    (same : ∀ records, result' (records.map (shift distance)) = result records) :
    (whole >>= fun records => pure (result' records)) =
      moved distance (part >>= fun records => pure (result records)) := by
  unfold Shifted at shifted
  simp [shifted, same]

private theorem shifted_readCount {read read' : Nat → Except Fault (Record α)}
    (each : ∀ place, read' (place + distance) = moved distance (read place)) (count start : Nat) :
    Shifted distance (readCount read count start) (readCount read' count (start + distance)) := by
  unfold Shifted
  induction count generalizing start with
  | zero => rfl
  | succ count ih =>
    rw [readCount_succ, readCount_succ, each]
    simp only [moved_bind, bind_assoc, pure_bind, moved_pure]
    refine bind_congr fun record => ?_
    rw [Nat.add_right_comm, ih]
    simp [shift]

private theorem shifted_readUpTo {read read' : Nat → Except Fault (Option (Record α))}
    (each : ∀ place, read' (place + distance) = moved distance (read place)) (stop start : Nat) :
    Shifted distance (readUpTo read stop start)
      (readUpTo read' (stop + distance) (start + distance)) := by
  unfold Shifted
  -- Each record is wider than nothing, so less of the table is left behind it.
  generalize remaining : stop - start = n
  induction n using Nat.strongRecOn generalizing start with
  | ind n ih =>
    by_cases inside : start < stop
    · rw [readUpTo_of_lt read inside, readUpTo_of_lt read' (Nat.add_lt_add_right inside _), each]
      simp only [moved_bind, bind_assoc]
      refine bind_congr fun found => ?_
      cases found with
      | none => rfl
      | some record =>
        have positive := record.width_pos
        dsimp only
        rw [Nat.add_right_comm, ih _ (by omega) (start + record.width) rfl]
        simp [shift]
    · have outside := Nat.not_lt.mp inside
      rw [readUpTo_of_le read outside, readUpTo_of_le read' (Nat.add_le_add_right outside _)]
      rfl

end Record

namespace Image

def behind (image : Image) (before : Array UInt8) : Image := ⟨before ++ image.bytes⟩

variable {image : Image} {before : Array UInt8} {region : Region}

private theorem size_behind : (image.behind before).size = image.size + before.size := by
  unfold behind size
  rw [Array.size_append, Nat.add_comm]

private theorem byte?_behind (place : Nat) :
    (image.behind before).byte? (place + before.size) = image.byte? place := by
  unfold behind byte?
  rw [Array.getElem?_append_right (Nat.le_add_left _ _), Nat.add_sub_cancel]

private theorem extract_behind (start stop : Nat) :
    (image.behind before).bytes.extract (start + before.size) (stop + before.size) =
      image.bytes.extract start stop := by
  unfold behind
  simp [Array.extract_append]

private theorem byteAt_behind (place : Nat) :
    (image.behind before).byteAt region (place + before.size) =
      moved before.size (image.byteAt region place) := by
  unfold byteAt
  rw [byte?_behind]
  cases image.byte? place <;> rfl

private theorem wordAt_behind (place : Nat) :
    (image.behind before).wordAt region (place + before.size) =
      moved before.size (image.wordAt region place) := by
  unfold wordAt
  simp [Nat.add_right_comm _ before.size, byteAt_behind]

private theorem slice_behind (start stop : Nat) :
    (image.behind before).slice region (start + before.size) (stop + before.size) =
      moved before.size (image.slice region start stop) := by
  unfold slice
  rw [size_behind, extract_behind]
  simp only [Nat.add_lt_add_iff_right]
  split <;> rfl

private theorem textAt_behind (place length : Nat) :
    (image.behind before).textAt region (place + before.size) length =
      moved before.size (image.textAt region place length) := by
  unfold textAt
  rw [Nat.add_right_comm, slice_behind]
  simp

private theorem clippedText_behind (place length : Nat) :
    (image.behind before).clippedText (place + before.size) length =
      image.clippedText place length := by
  unfold clippedText
  rw [Nat.add_right_comm, extract_behind]

private theorem words_behind (place count : Nat) :
    (image.behind before).words region (place + before.size) count =
      moved before.size (image.words region place count) := by
  have each (place : Nat) : (image.behind before).wordRecord region (place + before.size) =
      moved before.size (image.wordRecord region place) := by
    simp [wordRecord, wordAt_behind]
  exact (Record.shifted_readCount each count place).thenReturn fun _ => List.map_map

end Image

open Image

variable {image : Image} {before : Array UInt8}

private theorem Dictionary.read_behind (offset count : Nat) :
    Dictionary.read (image.behind before) (offset + before.size) count =
      moved before.size (Dictionary.read image offset count) := by
  have each (place : Nat) : readWord (image.behind before) (place + before.size) =
      moved before.size (readWord image place) := by
    simp [readWord, Nat.add_right_comm _ before.size, byteAt_behind, textAt_behind]
  unfold Dictionary.read
  rw [Nat.add_right_comm]
  apply (Record.shifted_readCount each count (offset + 2)).thenReturn
  intro records
  have same (place : Nat) : ((place + before.size : Nat) : Int) - (offset + 2 + before.size : Nat) =
      (place : Int) - (offset + 2 : Nat) := by omega
  simp only [List.map_map, Function.comp_def, Record.shift, same]

private theorem TextBank.read_behind (offset stop : Nat) :
    TextBank.read (image.behind before) (offset + before.size) (stop + before.size) =
      moved before.size (TextBank.read image offset stop) := by
  have each (place : Nat) : readText (image.behind before) (place + before.size) =
      moved before.size (readText image place) := by
    simp [readText, Nat.add_right_comm _ before.size, wordAt_behind, clippedText_behind]
  unfold TextBank.read
  apply (Record.shifted_readUpTo each stop offset).thenReturn
  intro records
  simp [Record.shift, Nat.add_sub_add_right]

namespace Variables

private theorem readGlobals_behind (offset : Nat) :
    readGlobals (image.behind before) (offset + before.size) =
      moved before.size (readGlobals image offset) := by
  simp [readGlobals, words_behind]

private theorem readArrays_behind (offset stop : Nat) :
    readArrays (image.behind before) (offset + before.size) (stop + before.size) =
      moved before.size (readArrays image offset stop) := by
  have each (place : Nat) : readArray (image.behind before) (place + before.size) =
      moved before.size (readArray image place) := by
    simp [readArray, Nat.add_right_comm _ before.size, wordAt_behind, words_behind]
  unfold readArrays
  rw [Nat.add_right_comm]
  apply (Record.shifted_readUpTo each stop (offset + 2 * globalCount)).thenReturn
  intro records
  simp [Record.shift, Nat.add_sub_add_right]

end Variables

private theorem Code.read_behind (offset stop : Nat) :
    Code.read (image.behind before) (offset + before.size) (stop + before.size) =
      moved before.size (Code.read image offset stop) := by
  simp [Code.read, slice_behind]

private theorem Event.readTable_behind (offset count : Nat) :
    Event.readTable (image.behind before) (offset + before.size) count =
      moved before.size (Event.readTable image offset count) := by
  have each (place : Nat) : readRecord (image.behind before) (place + before.size) =
      moved before.size (readRecord image place) := by
    simp [readRecord, Nat.add_right_comm _ before.size, wordAt_behind]
  unfold Event.readTable
  rw [Nat.add_right_comm]
  exact (Record.shifted_readCount each count (offset + 2)).thenReturn fun _ => List.map_map

private theorem Property.readDefaults_behind (offset count : Nat) :
    Property.readDefaults (image.behind before) (offset + before.size) count =
      moved before.size (Property.readDefaults image offset count) := by
  simp [Property.readDefaults, Nat.add_right_comm _ before.size, words_behind]

private theorem SpecialWords.read_behind (offset count : Nat) :
    SpecialWords.read (image.behind before) (offset + before.size) count =
      moved before.size (SpecialWords.read image offset count) := by
  have each (place : Nat) : readRecord (image.behind before) (place + before.size) =
      moved before.size (readRecord image place) := by
    unfold readRecord
    simp only [Nat.add_right_comm _ before.size, byteAt_behind, wordAt_behind, moved_bind]
    refine bind_congr fun byte => bind_congr fun first => bind_congr fun second => ?_
    split <;> rfl
  unfold SpecialWords.read
  rw [Nat.add_right_comm]
  apply (Record.shifted_readCount each count (offset + 2)).thenReturn
  intro records
  simp [Record.shift, Function.comp_def]

namespace Grammar

private theorem readLine_behind (place : Nat) :
    readLine (image.behind before) (place + before.size) =
      moved before.size (readLine image place) := by
  simp [readLine, Nat.add_right_comm _ before.size, byteAt_behind, slice_behind]

private theorem collectLines_behind (place : Nat) (seen : List (List UInt8)) :
    collectLines (image.behind before) (place + before.size) seen =
      moved before.size (do
        let (lines, next) ← collectLines image place seen
        return (lines, next + before.size)) := by
  -- The place behind the lines is told in the file, so it is raised by itself.
  generalize remaining : image.size - place = n
  induction n using Nat.strongRecOn generalizing place seen with
  | ind n ih =>
    by_cases inside : place < image.size
    · have inside' : place + before.size < (image.behind before).size := by
        rw [size_behind]
        omega
      rw [collectLines_of_lt inside, collectLines_of_lt inside', readLine_behind]
      simp only [moved_bind, bind_assoc]
      refine bind_congr fun line => ?_
      rw [Nat.add_right_comm, byteAt_behind]
      refine bind_congr fun byte => ?_
      split
      · have positive := line.width_pos
        rw [ih (image.size - (place + line.width)) (by omega) _ _ rfl, moved_bind]
      · split
        · rfl
        · rfl
    · have outside := Nat.not_lt.mp inside
      have outside' : (image.behind before).size ≤ place + before.size := by
        rw [size_behind]
        exact Nat.add_le_add_right outside _
      rw [collectLines_of_le outside, collectLines_of_le outside']
      rfl

private theorem readLines_behind (place : Nat) :
    readLines (image.behind before) (place + before.size) =
      moved before.size (readLines image place) := by
  unfold readLines
  rw [collectLines_behind]
  simp [Nat.add_sub_add_right]

private theorem readTable_behind (offset : Nat) :
    readTable (image.behind before) (offset + before.size) =
      moved before.size (readTable image offset) := by
  have each (place : Nat) : readEntry (image.behind before) (place + before.size) =
      moved before.size (readEntry image place) := by
    unfold readEntry
    rw [byteAt_behind, moved_bind]
    refine bind_congr fun byte => ?_
    split
    · rfl
    · split
      · rfl
      · simp only [Nat.add_right_comm _ before.size, byteAt_behind, words_behind, readLines_behind,
          moved_bind, moved_pure]
  unfold readTable
  rw [size_behind]
  exact (Record.shifted_readUpTo each image.size offset).thenReturn fun _ => List.map_map

end Grammar

private theorem Override.readStream_behind (offset : Nat) :
    readStream (image.behind before) (offset + before.size) =
      moved before.size (readStream image offset) := by
  have each (place : Nat) : Override.read (image.behind before) (place + before.size) =
      moved before.size (Override.read image place) := by
    unfold Override.read
    simp only [Nat.add_right_comm _ before.size, byteAt_behind, wordAt_behind, words_behind,
      moved_bind]
    refine bind_congr fun number => ?_
    split
    · rfl
    · rw [moved_bind]
      refine bind_congr fun count => ?_
      split
      · simp
      · split
        · rfl
        · simp
  unfold readStream
  rw [size_behind]
  exact (Record.shifted_readUpTo each image.size offset).thenReturn fun _ => List.map_map

private theorem Object.readTable_behind (offset count propertyTable : Nat)
    (defaults : List Property) :
    Object.readTable (image.behind before) (offset + before.size) count
        (propertyTable + before.size) defaults =
      moved before.size (Object.readTable image offset count propertyTable defaults) := by
  have each (place : Nat) :
      readRecord (image.behind before) (propertyTable + before.size) (numbered defaults)
          (place + before.size) =
        moved before.size (readRecord image propertyTable (numbered defaults) place) := by
    simp [readRecord, Nat.add_right_comm _ before.size, ← Nat.add_assoc, wordAt_behind, slice_behind,
      Override.readStream_behind]
  unfold Object.readTable
  rw [Nat.add_right_comm]
  exact (Record.shifted_readCount each count (offset + 2)).thenReturn fun _ => List.map_map

/-- Whatever a reader makes of a table in one file it makes of it so much further on in the other. -/
structure Image.Relocated (image image' : Image) (distance : Nat) : Prop where
  dictionary (offset count : Nat) :
    Dictionary.read image' (offset + distance) count =
      moved distance (Dictionary.read image offset count)
  textBank (offset stop : Nat) :
    TextBank.read image' (offset + distance) (stop + distance) =
      moved distance (TextBank.read image offset stop)
  arrays (offset stop : Nat) :
    Variables.readArrays image' (offset + distance) (stop + distance) =
      moved distance (Variables.readArrays image offset stop)
  code (offset stop : Nat) :
    Code.read image' (offset + distance) (stop + distance) =
      moved distance (Code.read image offset stop)
  events (offset count : Nat) :
    Event.readTable image' (offset + distance) count =
      moved distance (Event.readTable image offset count)
  globals (offset : Nat) :
    Variables.readGlobals image' (offset + distance) =
      moved distance (Variables.readGlobals image offset)
  defaults (offset count : Nat) :
    Property.readDefaults image' (offset + distance) count =
      moved distance (Property.readDefaults image offset count)
  specialWords (offset count : Nat) :
    SpecialWords.read image' (offset + distance) count =
      moved distance (SpecialWords.read image offset count)
  grammar (offset : Nat) :
    Grammar.readTable image' (offset + distance) = moved distance (Grammar.readTable image offset)
  objects (offset count propertyTable : Nat) (defaults : List Property) :
    Object.readTable image' (offset + distance) count (propertyTable + distance) defaults =
      moved distance (Object.readTable image offset count propertyTable defaults)

/-- Every table can be moved by what is put in front of the file. -/
theorem Image.relocated_behind (image : Image) (before : Array UInt8) :
    image.Relocated (image.behind before) before.size where
  dictionary := Dictionary.read_behind
  textBank := TextBank.read_behind
  arrays := Variables.readArrays_behind
  code := Code.read_behind
  events := Event.readTable_behind
  globals := Variables.readGlobals_behind
  defaults := Property.readDefaults_behind
  specialWords := SpecialWords.read_behind
  grammar := Grammar.readTable_behind
  objects := Object.readTable_behind

end HugoStory
