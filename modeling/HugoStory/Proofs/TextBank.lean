import HugoStory.Proofs.Consistent
import HugoStory.Proofs.Image.Missing
import HugoStory.Proofs.Record.Place
/-! The walk over the text bank. Each length word leads to the next one, until the walk comes to its
stop, which may lie in front of the end of the file or behind it. Only a length word that the file does
not hold breaks the walk off. A text that the file does not hold to its end is clipped, and it is the
last one then, as no length word can be behind it. -/
namespace HugoStory
open Outcome

variable {image : Image} {offset stop place : Nat}

private theorem Image.length_clippedText (image : Image) (place length : Nat) :
    (image.clippedText place length).length = min (place + length) image.size - place := by
  rw [clippedText, Charset.length_decodeText, Array.length_toList, Array.size_extract, size]

namespace TextBank

def textEnd? (image : Image) (place : Nat) : Option Nat :=
  (image.word? place).map fun length => place + 2 + length.toNat

private theorem clipped_of_readText {record : Record String}
    (read : readText image place = .ok (some record)) :
    ∃ length, image.word? place = some length ∧ record.width = 2 + length.toNat ∧
      record.value = Charset.decodeText
        (image.bytes.extract (place + 2) (min (place + 2 + length.toNat) image.size)).toList ∧
      record.value.length ≤ length.toNat ∧
      (record.value.length < length.toNat ↔ image.size < place + 2 + length.toNat) := by
  obtain ⟨length, counted, read⟩ := bind_eq_ok_iff.mp read
  cases read
  have present := Image.wordAt_eq_ok_iff_word?.mp counted
  have inside := Image.le_size_of_word? present
  have clipped := image.length_clippedText (place + 2) length.toNat
  refine ⟨length, present, rfl, by rw [Image.clippedText, Image.extract_min], ?_, ?_⟩
  · rw [clipped]
    omega
  · rw [clipped]
    omega

private theorem textEnd?_eq_some_iff (place later : Nat) :
    textEnd? image place = some later ↔
      ∃ record, readText image place = .ok (some record) ∧ later = place + record.width := by
  constructor
  · intro ends
    obtain ⟨length, present, rfl⟩ := Option.map_eq_some_iff.mp ends
    exact ⟨_, bind_eq_ok_iff.mpr ⟨length, Image.wordAt_eq_ok_iff_word?.mpr present, rfl⟩,
      Nat.add_assoc _ _ _⟩
  · rintro ⟨record, read, rfl⟩
    obtain ⟨length, present, width, -⟩ := clipped_of_readText read
    exact Option.map_eq_some_iff.mpr ⟨length, present, by rw [width, Nat.add_assoc]⟩

private theorem readText_ne_none (image : Image) (place : Nat) :
    readText image place ≠ .ok none := by
  intro read
  obtain ⟨length, -, read⟩ := bind_eq_ok_iff.mp read
  cases read

private theorem readText_eq_error_iff {fault : Fault} :
    readText image place = .error fault ↔
      image.size < place + 2 ∧ fault = .endOfFile .textBank (max place image.size) :=
  thenReturn_eq_error_iff.trans Image.wordAt_eq_error_iff

private theorem exists_readText_iff :
    (∃ record, readText image place = .ok (some record)) ↔ place + 2 ≤ image.size := by
  constructor
  · rintro ⟨record, read⟩
    obtain ⟨length, present, -⟩ := clipped_of_readText read
    exact Image.le_size_of_word? present
  · intro inside
    cases present : image.word? place with
    | none => exact absurd inside (Nat.not_le.mpr (Image.word?_eq_none_iff.mp present))
    | some length =>
      obtain ⟨record, read, -⟩ :=
        (textEnd?_eq_some_iff place _).mp (Option.map_eq_some_iff.mpr ⟨length, present, rfl⟩)
      exact ⟨record, read⟩

/-- A bank that has exactly the texts of the walk, each as long as it says it is. The file may hold
less of the last one. -/
structure Walked (image : Image) (offset stop : Nat) (bank : TextBank) : Prop where
  ascending : bank.texts.Ascending
  size : ∀ index, index < bank.size ↔
    ∃ place, Record.place? (textEnd? image) offset index = some place ∧ place < stop
  each : ∀ index place, Record.place? (textEnd? image) offset index = some place →
    place < stop → ∃ length text, image.word? place = some length ∧
      bank.texts.entries[index]? = some (place - offset, text) ∧
      text = Charset.decodeText
        (image.bytes.extract (place + 2) (min (place + 2 + length.toNat) image.size)).toList ∧
      (index + 1 < bank.size → text.length = length.toNat) ∧
      (text.length < length.toNat ↔ image.size < place + 2 + length.toNat)

private theorem walked_of_read {bank : TextBank}
    (read : TextBank.read image offset stop = .ok bank) :
    Walked image offset stop bank := by
  obtain ⟨ascending, -⟩ := ascending_of_read read
  obtain ⟨records, done, read⟩ := bind_eq_ok_iff.mp read
  cases read
  obtain ⟨last, run, ended⟩ := Record.readUpTo_eq_ok_iff.mp done
  have outside := ended.resolve_right (readText_ne_none image last)
  have onward (place : Nat) (record : Record String)
      (found : Record.FoundBefore (readText image) stop place record) :
      textEnd? image place = some (place + record.width) :=
    Record.next?_of_foundBefore textEnd?_eq_some_iff place record found
  refine ⟨ascending, fun index => ?_, fun index place here before => ?_⟩
  · rw [TextBank.size, OrderedMap.size, List.length_map]
    constructor
    · intro inside
      obtain ⟨record, found, -⟩ := run.getElem_found inside
      exact ⟨_, run.place?_getElem onward inside, found.1⟩
    · rintro ⟨place, here, before⟩
      exact (run.getElem_of_place? textEnd?_eq_some_iff outside here before).1
  · obtain ⟨inside, rfl⟩ := run.getElem_of_place? textEnd?_eq_some_iff outside here before
    obtain ⟨record, found, same⟩ := run.getElem_found inside
    obtain ⟨length, present, width, text, atMost, short⟩ := clipped_of_readText found.2
    refine ⟨length, record.value, present, ?_, text, ?_, short⟩
    · rw [List.getElem?_map, List.getElem?_eq_getElem inside, same]
      rfl
    -- Behind the text is the next length word, and that is in the file.
    · rw [TextBank.size, OrderedMap.size, List.length_map]
      intro more
      obtain ⟨next, found', -⟩ := run.getElem_found more
      have behind := run.place?_getElem onward more
      rw [Record.place?, here, Option.bind_some, onward _ _ found] at behind
      have after := exists_readText_iff.mp ⟨next, found'.2⟩
      rw [← Option.some.inj behind, width] at after
      omega

/-- A bank is read if the file holds each length word that the walk comes to, and then it is as the
walk has it. Otherwise the file is said to end at the first byte that it does not hold of the length
word where the walk breaks off. -/
theorem read_walked (image : Image) (offset stop : Nat) :
    ((∃ bank, TextBank.read image offset stop = .ok bank) ↔
      ∀ index place, Record.place? (textEnd? image) offset index = some place →
        place < stop → place + 2 ≤ image.size) ∧
    (∀ bank, TextBank.read image offset stop = .ok bank → Walked image offset stop bank) ∧
    ∀ fault, TextBank.read image offset stop = .error fault ↔
      ∃ index place, Record.place? (textEnd? image) offset index = some place ∧
        place < stop ∧ image.size < place + 2 ∧
        fault = .endOfFile .textBank (max place image.size) := by
  refine ⟨?_, fun bank => walked_of_read, fun fault => ?_⟩
  · unfold TextBank.read
    rw [exists_thenReturn_iff,
      Record.exists_readUpTo_iff textEnd?_eq_some_iff (readText_ne_none image)]
    simp only [exists_readText_iff]
  · unfold TextBank.read
    rw [thenReturn_eq_error_iff, Record.readUpTo_eq_error_iff_place? textEnd?_eq_some_iff]
    simp only [readText_eq_error_iff]

/-- The file breaks off the second text. A walk that goes on behind it comes to a length word that is
not in the file. -/
theorem read_walked_cut :
    let image : Image := ⟨#[1, 0, 117, 9, 0, 118]⟩
    let bank : TextBank := ⟨⟨[(0, "a"), (3, "b")]⟩⟩
    TextBank.read image 0 10 = .ok bank ∧ Walked image 0 10 bank ∧
      TextBank.read image 0 20 = .error (.endOfFile .textBank 14) ∧
      ∃ index place, Record.place? (textEnd? image) 0 index = some place ∧
        place < 20 ∧ image.size < place + 2 := by
  intro image bank
  have read : TextBank.read image 0 10 = .ok bank := by decide +kernel
  have broken : TextBank.read image 0 20 = .error (.endOfFile .textBank 14) := by decide +kernel
  obtain ⟨index, place, here, before, short, -⟩ := ((read_walked image 0 20).2.2 _).mp broken
  exact ⟨read, (read_walked image 0 10).2.1 bank read, broken, index, place, here, before, short⟩

end TextBank

end HugoStory
