import HugoStory.Proofs.Consistent
import HugoStory.Proofs.Image.Missing
import HugoStory.Proofs.Record.Place
import HugoStory.Proofs.Variables
/-! Arrays tile the space behind the global variables. Each begins where the one before it ends, so that
its key follows from the length of that one, and even a word of padding is an array of its own. The
arrays stored one behind the other give the space back byte for byte, up to the end of the last one,
which is the only one that can reach the stop. -/
namespace HugoStory.Variables
open Outcome

variable {image : Image} {offset stop place : Nat}

def arrayEnd? (image : Image) (place : Nat) : Option Nat :=
  ((image.word? place).map fun length => place + 2 + 2 * length.toNat).filter (· ≤ image.size)

private theorem arrayEnd?_eq_some_iff {later : Nat} :
    arrayEnd? image place = some later ↔ ∃ length, image.word? place = some length ∧
      place + 2 + 2 * length.toNat = later ∧ later ≤ image.size := by
  unfold arrayEnd?
  rw [Option.filter_eq_some_iff, Option.map_eq_some_iff, decide_eq_true_iff]
  constructor
  · rintro ⟨⟨length, present, ends⟩, inside⟩
    exact ⟨length, present, ends, inside⟩
  · rintro ⟨length, present, ends, inside⟩
    exact ⟨⟨length, present, ends⟩, inside⟩

private theorem arrayEnd?_eq_none_iff :
    arrayEnd? image place = none ↔ image.size < place + 2 ∨
      ∃ length, image.word? place = some length ∧ image.size < place + 2 + 2 * length.toNat := by
  unfold arrayEnd?
  cases present : image.word? place with
  | none => exact iff_of_true rfl (.inl (Image.word?_eq_none_iff.mp present))
  | some length =>
    have counted := Image.le_size_of_word? present
    rw [Option.map_some, Option.filter_eq_none_iff]
    constructor
    · intro short
      have outside := short _ rfl
      rw [decide_eq_true_iff, Nat.not_le] at outside
      exact .inr ⟨length, rfl, outside⟩
    · rintro (short | ⟨_, ⟨⟩, short⟩) later ⟨⟩
      · omega
      · rw [decide_eq_true_iff, Nat.not_le]
        exact short

private theorem stored_of_readArray {record : Record (List UInt16)}
    (read : readArray image place = .ok (some record)) :
    image.Holds place (storeArray record.value) ∧
      record.width = (storeArray record.value).length := by
  refine ⟨?_, by rw [width_of_readArray read, width_storeArray]⟩
  obtain ⟨length, counted, read⟩ := bind_eq_ok_iff.mp read
  obtain ⟨words, taken, read⟩ := bind_eq_ok_iff.mp read
  cases read
  have inside := Image.le_size_of_word? (Image.wordAt_eq_ok_iff_word?.mp counted)
  have contents := Image.holds_of_words inside taken
  have first := Image.holds_of_wordAt counted
  have same : UInt16.ofNat words.length = length := by
    rw [Image.length_of_words taken, UInt16.ofNat_toNat]
  rw [← same] at first
  exact first.append contents

private theorem arrayEnd?_eq_some_iff_readArray (place later : Nat) :
    arrayEnd? image place = some later ↔
      ∃ record, readArray image place = .ok (some record) ∧ later = place + record.width := by
  rw [arrayEnd?_eq_some_iff]
  constructor
  · rintro ⟨length, present, rfl, inside⟩
    obtain ⟨words, taken⟩ := (Image.breaksOff_words (Image.le_size_of_word? present)).exists_ok inside
    exact ⟨_, bind_eq_ok_iff.mpr ⟨length, Image.wordAt_eq_ok_iff_word?.mpr present,
      bind_eq_ok_iff.mpr ⟨words, taken, rfl⟩⟩, Nat.add_assoc _ _ _⟩
  · rintro ⟨record, read, rfl⟩
    obtain ⟨held, width⟩ := stored_of_readArray read
    obtain ⟨length, counted, read⟩ := bind_eq_ok_iff.mp read
    obtain ⟨words, taken, read⟩ := bind_eq_ok_iff.mp read
    cases read
    exact ⟨length, Image.wordAt_eq_ok_iff_word?.mp counted, Nat.add_assoc _ _ _, width ▸ held.inside⟩

private theorem readArray_eq_error_iff {fault : Fault} :
    readArray image place = .error fault ↔
      arrayEnd? image place = none ∧ fault = .endOfFile .arrays (max place image.size) := by
  rw [arrayEnd?_eq_none_iff]
  constructor
  · intro failed
    rcases bind_eq_error_iff.mp failed with early | ⟨length, counted, late⟩
    · obtain ⟨short, rfl⟩ := Image.wordAt_eq_error_iff.mp early
      exact ⟨.inl short, rfl⟩
    · have present := Image.wordAt_eq_ok_iff_word?.mp counted
      have inside := Image.le_size_of_word? present
      obtain ⟨short, rfl⟩ := ((Image.breaksOff_words inside).thenReturn fault).mp late
      rw [Nat.max_eq_right (by omega)]
      exact ⟨.inr ⟨length, present, short⟩, rfl⟩
  · rintro ⟨short | ⟨length, present, short⟩, rfl⟩
    · exact bind_eq_error_iff.mpr (.inl (Image.wordAt_eq_error_iff.mpr ⟨short, rfl⟩))
    · have inside := Image.le_size_of_word? present
      rw [Nat.max_eq_right (by omega)]
      exact bind_eq_error_iff.mpr (.inr ⟨length, Image.wordAt_eq_ok_iff_word?.mpr present,
        (Image.breaksOff_words inside).thenReturn.eq_error short⟩)

/-- Arrays that fill the space from behind the globals to the end of the last one. -/
structure Tiled (image : Image) (offset stop : Nat) (arrays : OrderedMap Nat (List UInt16)) :
    Prop where
  ascending : arrays.Ascending
  first : arrays.keys.head? = some 240
  next : arrays.entries.IsChain fun array later => later.1 = array.1 + 1 + array.2.length
  filled : ∃ last, arrays.entries.getLast? = some last ∧
    offset + 2 * last.1 < stop ∧ stop ≤ offset + 2 * (last.1 + 1 + last.2.length) ∧
    (image.bytes.extract (offset + 480) (offset + 2 * (last.1 + 1 + last.2.length))).toList =
      arrays.values.flatMap storeArray

private theorem isChain_of_run {start last : Nat} {records : List (Nat × List UInt16)}
    (behind : offset ≤ start)
    (run : Record.Run (Record.FoundBefore (readArray image) stop) start records last) :
    (records.map (keyed offset)).IsChain fun array later => later.1 = array.1 + 1 + array.2.length := by
  rw [List.isChain_map]
  refine run.isChain.imp_of_mem_imp ?_
  rintro ⟨place, words⟩ ⟨later, words'⟩ member - ⟨record, found, rfl, rfl⟩
  have width := width_of_readArray found.2
  have after := (run.found member).1
  change (place + record.width - offset) / 2 = (place - offset) / 2 + 1 + record.value.length
  omega

private theorem extract_of_run {start last : Nat} {records : List (Nat × List UInt16)}
    (run : Record.Run (Record.FoundBefore (readArray image) stop) start records last) :
    (image.bytes.extract start last).toList =
      ((records.map (keyed offset)).map Prod.snd).flatMap storeArray := by
  have values : (records.map (keyed offset)).map Prod.snd = records.map Prod.snd := List.map_map
  rw [values]
  exact run.extract fun place record found => stored_of_readArray found.2

private theorem tiled_of_readArrays {arrays : OrderedMap Nat (List UInt16)}
    (room : offset + 480 < stop)
    (read : readArrays image offset stop = .ok arrays) : Tiled image offset stop arrays := by
  obtain ⟨ascending, least⟩ := ascending_of_readArrays read
  obtain ⟨-, beyond⟩ := reach_of_readArrays read
  obtain ⟨records, done, read⟩ := bind_eq_ok_iff.mp read
  cases read
  obtain ⟨last, run, ended⟩ := Record.readUpTo_eq_ok_iff.mp done
  have outside := ended.resolve_right (readArray_ne_none image last)
  obtain ⟨-, final⟩ := reach_of_run run rfl
  have nonempty : records ≠ [] := by
    rintro rfl
    cases run
    exact absurd room (Nat.not_lt.mpr outside)
  obtain ⟨⟨place, words⟩, listed⟩ := Option.isSome_iff_exists.mp (List.getLast?_isSome.mpr nonempty)
  have bottom : (records.map (keyed offset)).getLast? = some (keyed offset (place, words)) := by
    rw [List.getLast?_map, listed, Option.map_some]
  refine ⟨ascending, ?_, isChain_of_run (Nat.le_add_right _ _) run, _, bottom, ?_,
    beyond _ bottom, ?_⟩
  · obtain ⟨first, rest, rfl⟩ := List.exists_cons_of_ne_nil nonempty
    exact congrArg some (least (keyed offset first).1 rfl)
  · obtain ⟨after, record, found, -⟩ := run.found (List.mem_of_getLast? listed)
    have before := found.1
    change offset + 2 * ((place - offset) / 2) < stop
    omega
  · change (image.bytes.extract _ (reach offset (keyed offset (place, words)))).toList = _
    rw [final _ bottom]
    exact extract_of_run run

/-- If there is room behind the globals and the arrays are read, they tile it; if there is none, no
array is read. Otherwise an array is not in the file to its end, and the file is said to end at its
first byte that is missing. -/
theorem readArrays_tiled (image : Image) (offset stop : Nat) :
    (∀ arrays, offset + 480 < stop → readArrays image offset stop = .ok arrays →
      Tiled image offset stop arrays) ∧
    (stop ≤ offset + 480 → readArrays image offset stop = .ok ⟨[]⟩) ∧
    ∀ fault, readArrays image offset stop = .error fault ↔
      ∃ index place, Record.place? (arrayEnd? image) (offset + 480) index = some place ∧
        place < stop ∧
        (image.size < place + 2 ∨ ∃ length, image.word? place = some length ∧
          image.size < place + 2 + 2 * length.toNat) ∧
        fault = .endOfFile .arrays (max place image.size) := by
  refine ⟨fun arrays => tiled_of_readArrays, fun outside => ?_, fun fault => ?_⟩
  · exact bind_eq_ok_iff.mpr ⟨[], Record.readUpTo_of_le _ outside, rfl⟩
  · unfold readArrays
    rw [thenReturn_eq_error_iff, Record.readUpTo_eq_error_iff_place? arrayEnd?_eq_some_iff_readArray]
    simp only [readArray_eq_error_iff, arrayEnd?_eq_none_iff]
    rfl

/-- An array of two words, and behind it two words of padding. The file holds no more. -/
theorem readArrays_tiled_padded :
    let image : Image := ⟨Array.replicate 480 0 ++ #[2, 0, 1, 0, 2, 0, 0, 0, 0, 0]⟩
    let arrays : OrderedMap Nat (List UInt16) := ⟨[(240, [1, 2]), (243, []), (244, [])]⟩
    readArrays image 0 489 = .ok arrays ∧ Tiled image 0 489 arrays ∧
      readArrays image 0 480 = .ok ⟨[]⟩ ∧
      readArrays image 0 491 = .error (.endOfFile .arrays 490) ∧
      ∃ index place, Record.place? (arrayEnd? image) 480 index = some place ∧ place < 491 := by
  intro image arrays
  have read : readArrays image 0 489 = .ok arrays := by decide +kernel
  have broken : readArrays image 0 491 = .error (.endOfFile .arrays 490) := by decide +kernel
  obtain ⟨index, place, here, before, -⟩ := ((readArrays_tiled image 0 491).2.2 _).mp broken
  exact ⟨read, (readArrays_tiled image 0 489).1 arrays (by decide) read,
    (readArrays_tiled image 0 480).2.1 (Nat.le_refl _), broken, index, place, here,
    before⟩

end HugoStory.Variables
