import HugoStory.Proofs.EndOfFile.Region
import HugoStory.Proofs.Grammar.Written
/-! Which bytes a reader looks at. Two files of one size that hold the same bytes from some place
on look the same to every reader that starts there, as none of them goes back. -/
namespace HugoStory
open Outcome

/-- Files of one size with the same bytes at the `places`. -/
structure Agree (places : Nat → Prop) (image image' : Image) : Prop where
  size : image.size = image'.size
  bytes : ∀ place, places place → image.byte? place = image'.byte? place

variable {image image' : Image} {region : Region}

namespace Agree

variable {places : Nat → Prop}

theorem mono {wider : Nat → Prop} (agree : Agree wider image image')
    (inside : ∀ place, places place → wider place) : Agree places image image' where
  size := agree.size
  bytes place here := agree.bytes place (inside place here)

theorem byteAt (agree : Agree places image image') {place : Nat} (here : places place) :
    image.byteAt region place = image'.byteAt region place := by
  unfold Image.byteAt
  rw [agree.bytes place here]

theorem wordAt (agree : Agree places image image') {place : Nat} (here : places place)
    (next : places (place + 1)) : image.wordAt region place = image'.wordAt region place := by
  unfold Image.wordAt
  rw [agree.byteAt here, agree.byteAt next]

theorem extract (agree : Agree places image image') {first stop : Nat}
    (inside : ∀ place, first ≤ place → place < stop → places place) :
    image.bytes.extract first stop = image'.bytes.extract first stop := by
  have size := agree.size
  unfold Image.size at size
  apply Array.ext_getElem?
  intro index
  rw [Array.getElem?_extract, Array.getElem?_extract, size]
  split
  · exact agree.bytes (first + index) (inside _ (by omega) (by omega))
  · rfl

theorem slice (agree : Agree places image image') {first stop : Nat}
    (inside : ∀ place, first ≤ place → place < stop → places place) :
    image.slice region first stop = image'.slice region first stop := by
  unfold Image.slice
  rw [agree.size, agree.extract inside]

theorem words_of_inside (agree : Agree places image image') {place count : Nat}
    (inside : ∀ other, place ≤ other → other < place + 2 * count → places other) :
    image.words region place count = image'.words region place count := by
  induction count generalizing place with
  | zero => rfl
  | succ count ih =>
    have first : image.wordAt region place = image'.wordAt region place :=
      agree.wordAt (inside place (Nat.le_refl place) (by omega)) (inside _ (by omega) (by omega))
    have rest := @ih (place + 2) fun other behind before => inside other (by omega) (by omega)
    rw [Image.words_succ, Image.words_succ, first, rest]

end Agree

namespace Record

variable {α : Type}

private theorem readCount_congr (start : Nat) {read read' : Nat → Except Fault (Record α)}
    {count place : Nat}
    (same : ∀ place, start ≤ place → read place = read' place) (after : start ≤ place) :
    readCount read count place = readCount read' count place := by
  induction count generalizing place with
  | zero => rfl
  | succ count ih =>
    rw [readCount_succ, readCount_succ, same place after]
    have later (record : Record α) := @ih (place + record.width) (by omega)
    simp only [later]

private theorem readUpTo_congr (start : Nat) {read read' : Nat → Except Fault (Option (Record α))}
    {stop place : Nat}
    (same : ∀ place, start ≤ place → read place = read' place) (after : start ≤ place) :
    readUpTo read stop place = readUpTo read' stop place := by
  -- A record has a width, so the distance from the stop falls with each.
  generalize remaining : stop - place = n
  induction n using Nat.strongRecOn generalizing place with
  | ind n ih =>
    by_cases before : place < stop
    · rw [readUpTo_of_lt read before, readUpTo_of_lt read' before, same place after]
      have later (record : Record α) :
          readUpTo read stop (place + record.width) =
            readUpTo read' stop (place + record.width) := by
        have positive := record.width_pos
        exact ih _ (by omega) (by omega) rfl
      simp only [later]
    · rw [readUpTo_of_le read (Nat.not_lt.mp before), readUpTo_of_le read' (Nat.not_lt.mp before)]

end Record

/-! What lies from a start on is read alike. -/

namespace Agree

variable {start : Nat} (agree : Agree (start ≤ ·) image image')
include agree

theorem textAt {place length : Nat} (after : start ≤ place) :
    image.textAt region place length = image'.textAt region place length := by
  unfold Image.textAt
  rw [agree.slice fun _ behind _ => Nat.le_trans after behind]

theorem clippedText {place length : Nat} (after : start ≤ place) :
    image.clippedText place length = image'.clippedText place length := by
  unfold Image.clippedText
  rw [agree.extract fun _ behind _ => Nat.le_trans after behind]

theorem words {place count : Nat} (after : start ≤ place) :
    image.words region place count = image'.words region place count :=
  agree.words_of_inside fun _ behind _ => Nat.le_trans after behind

theorem readGlobals {place : Nat} (after : start ≤ place) :
    Variables.readGlobals image place = Variables.readGlobals image' place := by
  unfold Variables.readGlobals
  rw [agree.words after]

theorem readArrays {offset stop : Nat} (after : start ≤ offset) :
    Variables.readArrays image offset stop = Variables.readArrays image' offset stop := by
  unfold Variables.readArrays
  rw [Record.readUpTo_congr start _ (by omega)]
  intro place after
  unfold Variables.readArray
  simp (disch := omega) only [agree.wordAt, agree.words]

theorem readDictionary {offset count : Nat} (after : start ≤ offset) :
    Dictionary.read image offset count = Dictionary.read image' offset count := by
  unfold Dictionary.read
  rw [Record.readCount_congr start _ (by omega)]
  intro place after
  unfold Dictionary.readWord
  simp (disch := omega) only [agree.byteAt, agree.textAt]

theorem readEvents {offset count : Nat} (after : start ≤ offset) :
    Event.readTable image offset count = Event.readTable image' offset count := by
  unfold Event.readTable
  rw [Record.readCount_congr start _ (by omega)]
  intro place after
  unfold Event.readRecord
  simp (disch := omega) only [agree.wordAt]

theorem readSpecialWords {offset count : Nat} (after : start ≤ offset) :
    SpecialWords.read image offset count = SpecialWords.read image' offset count := by
  unfold SpecialWords.read
  rw [Record.readCount_congr start _ (by omega)]
  intro place after
  unfold SpecialWords.readRecord
  simp (disch := omega) only [agree.byteAt, agree.wordAt]

theorem readTextBank {offset stop : Nat} (after : start ≤ offset) :
    TextBank.read image offset stop = TextBank.read image' offset stop := by
  unfold TextBank.read
  rw [Record.readUpTo_congr start _ after]
  intro place after
  unfold TextBank.readText
  simp (disch := omega) only [agree.wordAt, agree.clippedText]

theorem readCounts {layout : Layout} (after : ∀ table ∈ layout.counted, start ≤ table) :
    Counts.read image layout = Counts.read image' layout := by
  simp only [Layout.counted, List.forall_mem_cons] at after
  obtain ⟨objects, events, dictionary, specialWords, properties, -⟩ := after
  unfold Counts.read
  simp (disch := omega) only [agree.wordAt]

theorem readDefaults {offset count : Nat} (after : start ≤ offset) :
    Property.readDefaults image offset count = Property.readDefaults image' offset count := by
  unfold Property.readDefaults
  rw [agree.words (Nat.le_add_right_of_le after)]

private theorem readOverride {place : Nat} (after : start ≤ place) :
    Override.read image place = Override.read image' place := by
  unfold Override.read
  simp (disch := omega) only [agree.byteAt, agree.wordAt, agree.words]

theorem readStream {place : Nat} (after : start ≤ place) :
    Override.readStream image place = Override.readStream image' place := by
  unfold Override.readStream
  rw [Record.readUpTo_congr start (fun _ => agree.readOverride) after, agree.size]

/-- Streams are looked for behind the start of the property table, however far that is. -/
theorem readObjects {offset count propertyTable : Nat} {defaults : List Property}
    (after : start ≤ offset) (streams : start ≤ propertyTable) :
    Object.readTable image offset count propertyTable defaults =
      Object.readTable image' offset count propertyTable defaults := by
  have bits {place : Nat} (after : start ≤ place) :
      image.slice .objects place (place + Object.attributeBytes) =
        image'.slice .objects place (place + Object.attributeBytes) :=
    agree.slice fun _ behind _ => Nat.le_trans after behind
  unfold Object.readTable
  rw [Record.readCount_congr start _ (by omega)]
  intro place after
  unfold Object.readRecord
  simp (disch := omega) only [bits after, agree.wordAt, agree.readStream]

end Agree

end HugoStory
