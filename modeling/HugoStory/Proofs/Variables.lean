import HugoStory.Proofs.Parts
import HugoStory.Proofs.Patch
import HugoStory.Proofs.Record.Run
/-! How far arrays reach. An array is read if it starts in front of the next section, however long
it says it is. So of all arrays only the last can reach into that section, and it does whenever it
does not end right where the section starts. -/
namespace HugoStory
open Outcome

namespace Variables

variable {image : Image} {offset start stop : Nat}

/-- Where an array ends whose length word has this place in the data area. -/
def reach (offset : Nat) (array : Nat × List UInt16) : Nat :=
  offset + 2 * (array.1 + 1 + array.2.length)

def keyed (offset : Nat) (array : Nat × List UInt16) : Nat × List UInt16 :=
  ((array.1 - offset) / 2, array.2)

private theorem keyed_add_mul (offset key : Nat) (words : List UInt16) :
    keyed offset (offset + 2 * key, words) = (key, words) := by
  unfold keyed
  rw [Nat.add_sub_cancel_left, Nat.mul_div_cancel_left _ (Nat.zero_lt_succ 1)]

theorem width_of_readArray {place : Nat} {record : Record (List UInt16)}
    (read : readArray image place = .ok (some record)) :
    record.width = 2 * (1 + record.value.length) := by
  obtain ⟨length, _, read⟩ := bind_eq_ok_iff.mp read
  obtain ⟨words, taken, read⟩ := bind_eq_ok_iff.mp read
  cases read
  have count := Image.length_of_words taken
  change 2 + 2 * length.toNat = 2 * (1 + words.length)
  omega

theorem readArray_ne_none (image : Image) (place : Nat) : readArray image place ≠ .ok none := by
  intro read
  obtain ⟨length, -, read⟩ := bind_eq_ok_iff.mp read
  obtain ⟨words, -, read⟩ := bind_eq_ok_iff.mp read
  cases read

theorem reach_of_run {key last : Nat} {records : List (Nat × List UInt16)}
    (run : Record.Run (Record.FoundBefore (readArray image) stop) start records last)
    (first : start = offset + 2 * key) :
    (∀ array ∈ (records.map (keyed offset)).dropLast, reach offset array < stop) ∧
      ∀ array ∈ (records.map (keyed offset)).getLast?, reach offset array = last := by
  induction run generalizing key with
  | nil => simp
  | @cons place last record records found later ih =>
    have width := width_of_readArray found.2
    have ends : place + record.width = reach offset (key, record.value) := by
      change _ = offset + 2 * (key + 1 + record.value.length)
      omega
    rw [List.map_cons, first, keyed_add_mul]
    obtain ⟨inner, outer⟩ := @ih (key + 1 + record.value.length) ends
    cases later with
    | nil =>
      refine ⟨by simp, ?_⟩
      intro array member
      cases member
      exact ends.symm
    | @cons _ _ second rest found' _ =>
      rw [List.map_cons] at inner outer ⊢
      rw [List.dropLast_cons_cons, List.getLast?_cons_cons]
      exact ⟨List.forall_mem_cons.mpr ⟨ends ▸ found'.1, inner⟩, outer⟩

theorem reach_of_readArrays {arrays : OrderedMap Nat (List UInt16)}
    (read : readArrays image offset stop = .ok arrays) :
    (∀ array ∈ arrays.entries.dropLast, reach offset array < stop) ∧
      ∀ array ∈ arrays.entries.getLast?, stop ≤ reach offset array := by
  obtain ⟨records, done, read⟩ := bind_eq_ok_iff.mp read
  cases read
  obtain ⟨last, run, ended⟩ := Record.readUpTo_eq_ok_iff.mp done
  obtain ⟨inner, outer⟩ := reach_of_run run rfl
  refine ⟨inner, ?_⟩
  intro array member
  rw [outer array member]
  exact ended.resolve_right (readArray_ne_none image last)

end Variables

/-- All arrays of a story lie in their section if the last one ends where the next section starts.
The others always do. -/
theorem Story.arrays_inside_iff {image : Image} {story : Story} {header : Header}
    (accepted : Story.read image = .ok story) (known : Header.read image = .ok header) :
    (∀ array ∈ story.arrays.entries.dropLast,
        Variables.reach header.layout.arrays array < header.layout.specialWords) ∧
      ((∀ array ∈ story.arrays.entries,
          Variables.reach header.layout.arrays array ≤ header.layout.specialWords) ↔
        ∀ array ∈ story.arrays.entries.getLast?,
          Variables.reach header.layout.arrays array = header.layout.specialWords) := by
  obtain ⟨preamble, plain, read, parts⟩ := read_eq_ok_iff.mp accepted
  cases known.symm.trans (Preamble.header_of_read read)
  obtain ⟨inner, outer⟩ := Variables.reach_of_readArrays parts.arrays
  refine ⟨inner, fun inside array last => ?_, fun closing array member => ?_⟩
  · exact Nat.le_antisymm (inside array (List.mem_of_getLast? last)) (outer array last)
  · cases listed : story.arrays.entries.getLast? with
    | none =>
      rw [List.getLast?_eq_none_iff.mp listed] at member
      cases member
    | some final =>
      obtain ⟨front, same⟩ := List.getLast?_eq_some_iff.mp listed
      rw [same, List.dropLast_concat] at inner
      rw [same] at member
      rcases List.mem_append.mp member with earlier | last
      · exact Nat.le_of_lt (inner array earlier)
      · rw [List.mem_singleton.mp last]
        exact Nat.le_of_eq (closing final listed)

/-- The last array is a zero right in front of the special words, so all arrays are inside. -/
theorem Story.arrays_inside_miniature :
    Story.read Blueprint.miniature.image = .ok Blueprint.miniatureStory ∧
      Header.read Blueprint.miniature.image = .ok Blueprint.miniature.preamble.header ∧
      (∀ array ∈ Blueprint.miniatureStory.arrays.entries.dropLast, Variables.reach 208 array < 704) ∧
      Variables.reach 208 (247, []) = 704 ∧
      ∀ array ∈ Blueprint.miniatureStory.arrays.entries, Variables.reach 208 array ≤ 704 := by
  have known := Blueprint.miniature.laid.headerLaid.read Blueprint.miniature_fits
  have start : Blueprint.miniature.arraysStart = 208 := by decide +kernel
  have stop : Blueprint.miniature.specialWordsStart = 704 := by decide +kernel
  obtain ⟨inner, inside⟩ := Story.arrays_inside_iff Blueprint.read_miniature known
  simp only [Blueprint.layout, start, stop] at inner inside
  refine ⟨Blueprint.read_miniature, known, inner, by decide, inside.mpr ?_⟩
  intro array last
  obtain rfl : (247, []) = array := Option.some.inj last
  decide

namespace Blueprint

def filled : Blueprint where
  id := 0
  serial := Vector.replicate 8 48
  entryPoints := Vector.replicate 8 0
  grammar := []
  code := []
  defaults := []
  objects := []
  events := []
  globals := Vector.replicate 240 0
  arrays := [[1, 2, 3, 4, 5, 6, 7]]
  specialWords := []
  words := []
  texts := []
  debug := none

def filledStory : Story where
  version := ⟨31⟩
  id := 0
  serial := "00000000"
  ifids := []
  entryPoints := {
    code := 65, init := 0, main := 0, parse := 0, parseError := 0, findObject := 0, endGame := 0
    speakTo := 0, perform := 0 }
  counts := { objects := 0, events := 0, dictionaryWords := 0, specialWords := 0, properties := 0 }
  code := []
  objects := []
  dictionary := ⟨⟨[(-16, ""), (-15, "00000000")]⟩⟩
  textBank := ⟨⟨[]⟩⟩
  grammar := []
  events := []
  arrays := ⟨[(240, [1, 2, 3, 4, 5, 6, 7])]⟩
  globals := List.replicate 240 0
  specialWords := { synonyms := [], removals := [], compounds := [], punctuation := [] }
  file := none

def overfilled : Image := filled.image.patched (filled.arraysStart + 2 * Variables.globalCount) 8

private theorem readGlobals_overfilled :
    Variables.readGlobals overfilled filled.arraysStart = .ok filledStory.globals := by
  have zeros : filled.globals.toList.map (fun word => word.toInt16.toInt) = filledStory.globals := by
    decide +kernel
  have agree := filled.image.agree_patched (filled.arraysStart + 2 * Variables.globalCount) 8
  have read := filled.laid.readGlobals
  rw [zeros] at read
  unfold Variables.readGlobals at read ⊢
  rwa [agree.words_of_inside fun place _ before => Nat.ne_of_lt before] at read

/-- A file is read whose array takes in the first word of the next section. -/
theorem read_overfilled :
    Story.read overfilled =
        .ok { filledStory with arrays := ⟨[(240, [1, 2, 3, 4, 5, 6, 7, 0])]⟩ } ∧
      Header.read overfilled = .ok filled.preamble.header ∧
      filled.specialWordsStart <
        Variables.reach filled.arraysStart (240, [1, 2, 3, 4, 5, 6, 7, 0]) := by
  have known : Preamble.read overfilled = .ok filled.preamble := by decide +kernel
  refine ⟨Story.read_eq_ok_iff.mpr ⟨filled.preamble, ⟨⟨[]⟩⟩, known, ?_⟩,
    Preamble.header_of_read known, by decide +kernel⟩
  exact {
    arrays := by decide +kernel
    code := by decide +kernel
    dictionary := by decide +kernel
    events := by decide +kernel
    globals := readGlobals_overfilled
    grammar := by decide +kernel
    objects := by decide +kernel
    specialWords := by decide +kernel
    textBank := by decide +kernel
    assembled := by decide +kernel }

end Blueprint

end HugoStory
