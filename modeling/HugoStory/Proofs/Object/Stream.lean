import HugoStory.Proofs.Image.Missing
import HugoStory.Proofs.Object.Stored
import HugoStory.Proofs.Truthful
/-! Streams of overrides as they lie in a file. A stream goes on up to the first place that holds the
closing mark or that the file does not reach, and it can be read unless the file breaks off one of
its records. -/
namespace HugoStory.Override
open Outcome

variable {image : Image} {place start : Nat}

def widthOf (count : UInt8) : Nat :=
  if count = routineMark then routineWidth else zeroWidth + 2 * count.toNat

/-- An override that begins in the file and ends behind it. -/
def Cut (image : Image) (place : Nat) : Prop :=
  ∃ number, image.byte? place = some number ∧ number ≠ closingMark ∧
    ∀ count, image.byte? (place + 1) = some count → image.size < place + widthOf count

private theorem mark_or_holds_of_read {found : Option (Record Override)}
    (read : Override.read image place = .ok found) :
    image.byte? place = some closingMark ∧ found = none ∨
      ∃ record, found = some record ∧ image.Holds place record.value.store ∧
        record.width = record.value.store.length := by
  obtain ⟨number, present, read⟩ := bind_eq_ok_iff.mp read
  have present := Image.byteAt_eq_ok_iff.mp present
  have first := Image.holds_of_byte? present
  split at read
  · rename_i mark
    cases read
    exact .inl ⟨mark ▸ present, rfl⟩
  · right
    obtain ⟨count, counted, read⟩ := bind_eq_ok_iff.mp read
    have second := Image.holds_of_byte? (Image.byteAt_eq_ok_iff.mp counted)
    split at read
    · rename_i mark
      obtain ⟨address, taken, read⟩ := bind_eq_ok_iff.mp read
      cases read
      subst mark
      exact ⟨_, rfl, first.append (second.append (Image.holds_of_wordAt taken)), rfl⟩
    · split at read
      · rename_i zero
        cases read
        subst zero
        exact ⟨_, rfl, first.append second, rfl⟩
      · obtain ⟨held, taken, read⟩ := bind_eq_ok_iff.mp read
        cases read
        have length := Image.length_of_words taken
        have counts : UInt8.ofNat held.length = count := by rw [length, UInt8.ofNat_toNat]
        have words := Image.holds_of_words second.inside taken
        refine ⟨_, rfl, ?_, ?_⟩
        · rw [store, counts]
          exact first.append (second.append words)
        · change 2 + 2 * count.toNat = (held.flatMap Word.toBytes).length + 2
          rw [Word.length_flatMap_toBytes, length]
          omega

private theorem holds_of_read {record : Record Override}
    (read : Override.read image place = .ok (some record)) :
    image.Holds place record.value.store ∧ record.width = record.value.store.length := by
  obtain ⟨-, never⟩ | ⟨record, same, held⟩ := mark_or_holds_of_read read
  · cases never
  · cases same
    exact held

theorem read_eq_none_iff : Override.read image place = .ok none ↔
    image.byte? place = some closingMark := by
  refine ⟨fun ended => ?_, read_closingMark⟩
  obtain ⟨mark, -⟩ | ⟨record, never, -⟩ := mark_or_holds_of_read ended
  · exact mark
  · cases never

private theorem breaksOff_read {number count : UInt8} (present : image.byte? place = some number)
    (goesOn : number ≠ closingMark) (counted : image.byte? (place + 1) = some count) :
    image.BreaksOff .objects (place + widthOf count) (Override.read image place) := by
  have inside : place + 2 ≤ image.size := Image.lt_size_of_byte? counted
  unfold Override.read widthOf
  rw [Image.byteAt_eq_ok_iff.mpr present]
  change Image.BreaksOff image .objects _ (if number = closingMark then _ else _)
  rw [if_neg goesOn, Image.byteAt_eq_ok_iff.mpr counted]
  change Image.BreaksOff image .objects _ (if count = routineMark then _ else if count = 0 then _
    else _)
  split
  · exact (Image.breaksOff_wordAt inside).thenReturn
  · split
    · rename_i zero
      subst zero
      exact .return inside _
    · rw [← Nat.add_assoc]
      exact (Image.breaksOff_words inside).thenReturn

theorem read_eq_error_iff (inside : place < image.size) {fault : Fault} :
    Override.read image place = .error fault ↔
      Cut image place ∧ fault = .endOfFile .objects image.size := by
  obtain ⟨number, present⟩ : ∃ number, image.byte? place = some number :=
    ⟨_, Array.getElem?_eq_getElem inside⟩
  by_cases mark : number = closingMark
  · subst mark
    rw [read_closingMark present]
    constructor
    · rintro ⟨⟩
    · rintro ⟨⟨other, here, goesOn, -⟩, -⟩
      cases present.symm.trans here
      exact absurd rfl goesOn
  · cases counted : image.byte? (place + 1) with
    | none =>
      have ends : image.size = place + 1 :=
        Nat.le_antisymm (Image.byte?_eq_none_iff.mp counted) inside
      have cut : Cut image place := ⟨number, present, mark, by simp [counted]⟩
      unfold Override.read
      rw [Image.byteAt_eq_ok_iff.mpr present]
      change (if number = closingMark then _ else _) = _ ↔ _
      rw [if_neg mark, Image.byteAt, counted, ends]
      simp [cut, bind, Except.bind, eq_comm]
    | some count =>
      rw [breaksOff_read present mark counted]
      refine and_congr_left fun _ => ⟨fun short => ⟨number, present, mark, ?_⟩, ?_⟩
      · rintro other here
        cases counted.symm.trans here
        exact short
      · rintro ⟨-, -, -, short⟩
        exact short count counted

/-- The overrides of a stream. Behind them is the closing mark, or nothing. -/
structure Stream (image : Image) (start : Nat) (overrides : List Override) : Prop where
  storable : ∀ override ∈ overrides, override.Storable
  held : overrides ≠ [] → image.Holds start (overrides.flatMap store)
  ended : image.byte? (start + (overrides.flatMap store).length) = some closingMark ∨
    image.size ≤ start + (overrides.flatMap store).length

/-- A stream that comes to an override that the file breaks off. -/
def StreamCut (image : Image) (start : Nat) : Prop :=
  ∃ overrides : List Override, (∀ override ∈ overrides, override.Storable) ∧
    image.Holds start (overrides.flatMap store) ∧
      Cut image (start + (overrides.flatMap store).length)

private theorem held_of_run {records : List (Nat × Override)} {stop : Nat}
    (inside : start ≤ image.size)
    (run : Record.Run (Record.FoundBefore (Override.read image) image.size) start records stop) :
    image.Holds start ((records.map Prod.snd).flatMap store) ∧
      stop = start + ((records.map Prod.snd).flatMap store).length :=
  run.holds (fun _ _ found => holds_of_read found.2) inside

private theorem storable_of_run {records : List (Nat × Override)} {stop : Nat}
    (run : Record.Run (Record.FoundBefore (Override.read image) image.size) start records stop) :
    ∀ override ∈ records.map Prod.snd, override.Storable := by
  intro override member
  obtain ⟨⟨place, value⟩, among, rfl⟩ := List.mem_map.mp member
  obtain ⟨-, record, found, rfl⟩ := run.found among
  exact storable_of_read found.2

theorem readStream_eq_ok_iff {overrides : List Override} :
    readStream image start = .ok overrides ↔ Stream image start overrides := by
  constructor
  · intro read
    obtain ⟨records, done, read⟩ := bind_eq_ok_iff.mp read
    cases read
    obtain ⟨stop, run, ended⟩ := Record.readUpTo_eq_ok_iff.mp done
    by_cases inside : start ≤ image.size
    · obtain ⟨held, rfl⟩ := held_of_run inside run
      exact ⟨storable_of_run run, fun _ => held, ended.symm.imp_left read_eq_none_iff.mp⟩
    · cases run with
      | nil =>
        exact ⟨by simp, fun some => absurd rfl some, .inr (Nat.le_of_not_le inside)⟩
      | cons first later => exact absurd (Nat.le_of_lt first.1) inside
  · intro stream
    by_cases empty : overrides = []
    · subst empty
      exact bind_eq_ok_iff.mpr ⟨[], Record.readUpTo_eq_ok_iff.mpr
        ⟨start, .nil start, stream.ended.symm.imp_right read_closingMark⟩, rfl⟩
    · obtain ⟨records, run, same⟩ := run_of_store stream.storable (stream.held empty)
      exact bind_eq_ok_iff.mpr ⟨records, Record.readUpTo_eq_ok_iff.mpr
        ⟨_, run, stream.ended.symm.imp_right read_closingMark⟩, congrArg Except.ok same⟩

theorem readStream_eq_error_iff {fault : Fault} :
    readStream image start = .error fault ↔
      StreamCut image start ∧ fault = .endOfFile .objects image.size := by
  unfold readStream
  rw [thenReturn_eq_error_iff, Record.readUpTo_eq_error_iff]
  constructor
  · rintro ⟨records, place, run, before, stuck⟩
    obtain ⟨held, rfl⟩ := held_of_run (Nat.le_of_lt (Nat.lt_of_le_of_lt run.le before)) run
    obtain ⟨cut, rfl⟩ := (read_eq_error_iff before).mp stuck
    exact ⟨⟨_, storable_of_run run, held, cut⟩, rfl⟩
  · rintro ⟨⟨overrides, storable, held, cut⟩, rfl⟩
    obtain ⟨records, run, -⟩ := run_of_store storable held
    have before : _ < image.size := Image.lt_size_of_byte? cut.choose_spec.1
    exact ⟨records, _, run, before, (read_eq_error_iff before).mpr ⟨cut, rfl⟩⟩

end HugoStory.Override
