import HugoStory.Proofs.Record.Run
import Mathlib.Data.List.Chain
/-! Where a walk over records comes to. The places are told without the records, by what says how far
it is to the next one. A run of records begins each of them at such a place and ends at the next, and
a loop can be finished if a record can be read at every place that its walk comes to. -/
namespace HugoStory.Record
open Outcome

/-- The place after so many steps from the start, if the walk gets so far. -/
def place? (next? : Nat → Option Nat) (start : Nat) : Nat → Option Nat
  | 0 => some start
  | index + 1 => (place? next? start index).bind next?

variable {α : Type} {next? : Nat → Option Nat} {start stop : Nat}

private theorem place?_succ_of_next {later : Nat} (onward : next? start = some later)
    (index : Nat) :
    place? next? start (index + 1) = place? next? later index := by
  induction index with
  | zero => exact onward
  | succ index ih => rw [place?, ih, place?]

private theorem place?_le (advances : ∀ place later, next? place = some later → place < later)
    {index index' place place' : Nat} (here : place? next? start index = some place)
    (there : place? next? start index' = some place') (order : index ≤ index') : place ≤ place' := by
  induction index' generalizing place' with
  | zero =>
    rw [Nat.le_zero.mp order, there] at here
    exact Nat.le_of_eq (Option.some.inj here).symm
  | succ index' ih =>
    rcases Nat.le_or_eq_of_le_succ order with earlier | rfl
    · obtain ⟨middle, before, next⟩ := Option.bind_eq_some_iff.mp there
      exact Nat.le_trans (ih before earlier) (Nat.le_of_lt (advances middle place' next))
    · rw [there] at here
      exact Nat.le_of_eq (Option.some.inj here).symm

namespace Run

variable {finds : Nat → Record α → Prop} {records : List (Nat × α)}

/-- A record is followed by the one that begins where it ends. -/
theorem isChain (run : Run finds start records stop) :
    records.IsChain fun entry later =>
      ∃ record, finds entry.1 record ∧ record.value = entry.2 ∧ later.1 = entry.1 + record.width := by
  induction run with
  | nil => exact .nil
  | cons first later ih =>
    cases later with
    | nil => exact .singleton _
    | cons => exact .cons_cons ⟨_, first, rfl, rfl⟩ ih

theorem getElem_found (run : Run finds start records stop) {index : Nat}
    (inside : index < records.length) :
    ∃ record, finds records[index].1 record ∧ record.value = records[index].2 :=
  (run.found (List.getElem_mem inside)).2

section Onward

variable (onward : ∀ place record, finds place record → next? place = some (place + record.width))
include onward

theorem place?_getElem (run : Run finds start records stop) {index : Nat}
    (inside : index < records.length) : place? next? start index = some records[index].1 := by
  induction run generalizing index with
  | nil => cases inside
  | cons first later ih =>
    cases index with
    | zero => rfl
    | succ index =>
      rw [place?_succ_of_next (onward _ _ first)]
      exact ih (Nat.lt_of_succ_lt_succ inside)

theorem place?_length (run : Run finds start records stop) :
    place? next? start records.length = some stop := by
  induction run with
  | nil => rfl
  | cons first later ih =>
    rw [List.length_cons, place?_succ_of_next (onward _ _ first), ih]

end Onward

theorem concat {place : Nat} {record : Record α} (run : Run finds start records place)
    (next : finds place record) :
    Run finds start (records ++ [(place, record.value)]) (place + record.width) := by
  induction run with
  | nil => exact .cons next (.nil _)
  | cons first later ih => exact .cons first (ih next)

end Run

theorem exists_readCount_iff {read : Nat → Except Fault (Record α)} {count : Nat}
    (onward : ∀ place record, read place = .ok record → next? place = some (place + record.width)) :
    (∃ records, readCount read count start = .ok records) ↔
      ∀ index < count, ∃ place, place? next? start index = some place ∧
        ∃ record, read place = .ok record := by
  constructor
  · rintro ⟨records, done⟩ index inside
    obtain ⟨rfl, stop, run⟩ := readCount_eq_ok_iff.mp done
    obtain ⟨record, found, -⟩ := run.getElem_found inside
    exact ⟨_, run.place?_getElem onward inside, record, found⟩
  · intro each
    cases outcome : readCount read count start with
    | ok records => exact ⟨records, rfl⟩
    | error fault =>
      obtain ⟨records, place, fewer, run, stuck⟩ := readCount_eq_error_iff.mp outcome
      obtain ⟨place', here, record, found⟩ := each _ fewer
      cases here.symm.trans (run.place?_length onward)
      cases found.symm.trans stuck

section UpTo

variable {read : Nat → Except Fault (Option (Record α))}
  (steps : ∀ place later, next? place = some later ↔
    ∃ record, read place = .ok (some record) ∧ later = place + record.width)
include steps

theorem next?_of_foundBefore (place : Nat) (record : Record α)
    (found : FoundBefore read stop place record) : next? place = some (place + record.width) :=
  (steps place _).mpr ⟨record, found.2, rfl⟩

private theorem lt_of_next? (place later : Nat) (next : next? place = some later) :
    place < later := by
  obtain ⟨record, -, rfl⟩ := (steps place later).mp next
  exact Nat.lt_add_of_pos_right record.width_pos

/-- In front of its bound the walk comes to the records of a run and to no other place. -/
theorem Run.getElem_of_place? {records : List (Nat × α)} {last : Nat}
    (run : Run (FoundBefore read stop) start records last) (outside : stop ≤ last)
    {index place : Nat} (here : place? next? start index = some place) (before : place < stop) :
    ∃ inside : index < records.length, records[index].1 = place := by
  rcases Nat.lt_or_ge index records.length with inside | beyond
  · have own := run.place?_getElem (next?_of_foundBefore steps) inside
    rw [here] at own
    exact ⟨inside, (Option.some.inj own).symm⟩
  · have ended := run.place?_length (next?_of_foundBefore steps)
    have after := place?_le (lt_of_next? steps) ended here beyond
    omega

private theorem exists_run_of_place? {index place : Nat}
    (here : place? next? start index = some place)
    (before : place < stop) : ∃ records, Run (FoundBefore read stop) start records place := by
  induction index generalizing place with
  | zero =>
    cases here
    exact ⟨[], .nil start⟩
  | succ index ih =>
    obtain ⟨middle, reached, next⟩ := Option.bind_eq_some_iff.mp here
    have nearer := Nat.lt_trans (lt_of_next? steps middle place next) before
    obtain ⟨record, found, rfl⟩ := (steps middle place).mp next
    obtain ⟨records, run⟩ := ih reached nearer
    exact ⟨_, run.concat ⟨nearer, found⟩⟩

/-- No mark ends this walk, but only its bound. -/
theorem exists_readUpTo_iff (unmarked : ∀ place, read place ≠ .ok none) :
    (∃ records, readUpTo read stop start = .ok records) ↔
      ∀ index place, place? next? start index = some place → place < stop →
        ∃ record, read place = .ok (some record) := by
  constructor
  · rintro ⟨records, done⟩ index place here before
    obtain ⟨last, run, ended⟩ := readUpTo_eq_ok_iff.mp done
    obtain ⟨inside, rfl⟩ :=
      run.getElem_of_place? steps (ended.resolve_right (unmarked last)) here before
    obtain ⟨record, found, -⟩ := run.getElem_found inside
    exact ⟨record, found.2⟩
  · intro each
    cases outcome : readUpTo read stop start with
    | ok records => exact ⟨records, rfl⟩
    | error fault =>
      obtain ⟨records, place, run, before, stuck⟩ := readUpTo_eq_error_iff.mp outcome
      have here := run.place?_length (next?_of_foundBefore steps)
      obtain ⟨record, found⟩ := each _ place here before
      cases found.symm.trans stuck

theorem readUpTo_eq_error_iff_place? {fault : Fault} :
    readUpTo read stop start = .error fault ↔
      ∃ index place, place? next? start index = some place ∧ place < stop ∧
        read place = .error fault := by
  rw [readUpTo_eq_error_iff]
  constructor
  · rintro ⟨records, place, run, before, stuck⟩
    exact ⟨_, place, run.place?_length (next?_of_foundBefore steps), before, stuck⟩
  · rintro ⟨index, place, here, before, stuck⟩
    obtain ⟨records, run⟩ := exists_run_of_place? steps here before
    exact ⟨records, place, run, before, stuck⟩

end UpTo

end HugoStory.Record
