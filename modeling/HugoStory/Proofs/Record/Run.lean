import HugoStory.Proofs.Outcome
import HugoStory.Record
/-! Runs of records, set apart from the loops that read them. Both loops succeed with exactly
the records of a run, and both fail exactly where a run has led them to a record that cannot
be read. -/
namespace HugoStory.Record
open Outcome

variable {α : Type}

/-- The records from a start up to a stop, each beginning where the one before it ends. -/
inductive Run (finds : Nat → Record α → Prop) : Nat → List (Nat × α) → Nat → Prop
  | nil (place : Nat) : Run finds place [] place
  | cons {place stop : Nat} {record : Record α} {records : List (Nat × α)}
      (first : finds place record) (later : Run finds (place + record.width) records stop) :
      Run finds place ((place, record.value) :: records) stop

namespace Run

variable {finds : Nat → Record α → Prop} {start stop : Nat} {records : List (Nat × α)}

theorem le (run : Run finds start records stop) : start ≤ stop := by
  induction run with
  | nil => exact Nat.le_refl _
  | cons first later ih => omega

theorem found (run : Run finds start records stop) {place : Nat} {value : α}
    (member : (place, value) ∈ records) :
    start ≤ place ∧ ∃ record, finds place record ∧ record.value = value := by
  induction run with
  | nil => cases member
  | @cons here stop record records first later ih =>
    rcases List.mem_cons.mp member with same | rest
    · cases same
      exact ⟨Nat.le_refl _, record, first, rfl⟩
    · obtain ⟨after, found⟩ := ih rest
      exact ⟨by omega, found⟩

theorem places_apart {gap : Nat} (wide : ∀ place record, finds place record → gap ≤ record.width)
    (run : Run finds start records stop) :
    (records.map Prod.fst).Pairwise fun place later => place + gap ≤ later := by
  induction run with
  | nil => exact List.Pairwise.nil
  | @cons here stop record records first later ih =>
    rw [List.map_cons, List.pairwise_cons]
    refine ⟨?_, ih⟩
    intro place member
    obtain ⟨⟨other, value⟩, inside, rfl⟩ := List.mem_map.mp member
    have after := (later.found inside).1
    have enough := wide _ _ first
    change here + gap ≤ other
    omega

theorem head_place (run : Run finds start records stop) {place : Nat} {value : α}
    (head : records.head? = some (place, value)) : place = start := by
  cases run with
  | nil => cases head
  | cons first later =>
    cases head
    rfl

theorem stop_cases (run : Run finds start records stop) :
    stop = start ∨ ∃ place record, finds place record ∧ stop = place + record.width := by
  induction run with
  | nil => exact .inl rfl
  | @cons here stop record records first later ih =>
    rcases ih with same | behind
    · exact .inr ⟨here, record, first, same⟩
    · exact .inr behind

theorem stop_of_width {width : Nat} (even : ∀ place record, finds place record → record.width = width)
    (run : Run finds start records stop) : stop = start + width * records.length := by
  induction run with
  | nil => simp
  | cons first later ih =>
    rw [ih, even _ _ first, List.length_cons, Nat.mul_succ]
    omega

theorem found_at {width : Nat} (even : ∀ place record, finds place record → record.width = width)
    (run : Run finds start records stop) {index : Nat} (inside : index < records.length) :
    ∃ record, finds (start + width * index) record ∧
      records[index] = (start + width * index, record.value) := by
  induction run generalizing index with
  | nil => simp at inside
  | @cons here stop record records first later ih =>
    cases index with
    | zero => exact ⟨record, by simpa using first, rfl⟩
    | succ index =>
      obtain ⟨other, found, same⟩ := ih (by simpa using inside)
      have onward : here + width * (index + 1) = here + record.width + width * index := by
        rw [even _ _ first, Nat.mul_succ, Nat.add_comm (width * index), Nat.add_assoc]
      rw [onward]
      exact ⟨other, found, same⟩

end Run

section Counted

variable {read : Nat → Except Fault (Record α)} {count start : Nat} {records : List (Nat × α)}

theorem readCount_eq_ok_iff :
    readCount read count start = .ok records ↔
      records.length = count ∧
        ∃ stop, Run (fun place record => read place = .ok record) start records stop := by
  constructor
  · intro done
    refine ⟨length_of_readCount done, ?_⟩
    induction count generalizing start records with
    | zero =>
      cases done
      exact ⟨start, .nil start⟩
    | succ count ih =>
      rw [readCount_succ] at done
      obtain ⟨record, first, done⟩ := bind_eq_ok_iff.mp done
      obtain ⟨rest, later, done⟩ := bind_eq_ok_iff.mp done
      cases done
      obtain ⟨stop, run⟩ := ih later
      exact ⟨stop, .cons first run⟩
  · rintro ⟨rfl, stop, run⟩
    induction run with
    | nil => rfl
    | cons first later ih =>
      rw [List.length_cons, readCount_succ, first]
      exact bind_eq_ok_iff.mpr ⟨_, rfl, bind_eq_ok_iff.mpr ⟨_, ih, rfl⟩⟩

theorem readCount_eq_error_iff {fault : Fault} :
    readCount read count start = .error fault ↔
      ∃ records place, records.length < count ∧
        Run (fun place record => read place = .ok record) start records place ∧
        read place = .error fault := by
  constructor
  · intro failed
    induction count generalizing start with
    | zero => cases failed
    | succ count ih =>
      rw [readCount_succ] at failed
      rcases bind_eq_error_iff.mp failed with early | ⟨record, first, failed⟩
      · exact ⟨[], start, by simp, .nil start, early⟩
      · rcases bind_eq_error_iff.mp failed with late | ⟨_, _, never⟩
        · obtain ⟨records, place, fewer, run, stuck⟩ := ih late
          exact ⟨_, place, by simpa using fewer, .cons first run, stuck⟩
        · cases never
  · rintro ⟨records, place, fewer, run, stuck⟩
    induction run generalizing count with
    | nil here =>
      obtain ⟨count, rfl⟩ := Nat.exists_eq_succ_of_ne_zero (Nat.ne_of_gt fewer)
      rw [readCount_succ, stuck]
      rfl
    | cons first later ih =>
      obtain ⟨count, rfl⟩ := Nat.exists_eq_succ_of_ne_zero (Nat.ne_of_gt (Nat.zero_lt_of_lt fewer))
      rw [readCount_succ, first]
      refine bind_eq_error_iff.mpr (.inr ⟨_, rfl, bind_eq_error_iff.mpr (.inl ?_)⟩)
      exact ih (by simpa using fewer) stuck

/-- A loop over records of even width fails at the first record that cannot be read. -/
theorem readCount_eq_error_iff_of_even {width : Nat}
    (even : ∀ place record, read place = .ok record → record.width = width) {fault : Fault} :
    readCount read count start = .error fault ↔
      ∃ index < count, (∀ earlier < index, ∃ record, read (start + width * earlier) = .ok record) ∧
        read (start + width * index) = .error fault := by
  have stuck {fault : Fault} (failed : readCount read count start = .error fault) :
      ∃ index < count, (∀ earlier < index, ∃ record, read (start + width * earlier) = .ok record) ∧
        read (start + width * index) = .error fault := by
    obtain ⟨records, place, fewer, run, stuck⟩ := readCount_eq_error_iff.mp failed
    rw [run.stop_of_width even] at stuck
    refine ⟨records.length, fewer, fun earlier before => ?_, stuck⟩
    obtain ⟨record, found, -⟩ := run.found_at even before
    exact ⟨record, found⟩
  refine ⟨stuck, ?_⟩
  rintro ⟨index, inside, before, here⟩
  cases outcome : readCount read count start with
  | ok records =>
    obtain ⟨rfl, stop, run⟩ := readCount_eq_ok_iff.mp outcome
    obtain ⟨record, found, -⟩ := run.found_at even inside
    cases found.symm.trans here
  | error other =>
    obtain ⟨first, -, before', there⟩ := stuck outcome
    rcases Nat.lt_trichotomy first index with earlier | rfl | later
    · obtain ⟨record, found⟩ := before first earlier
      cases found.symm.trans there
    · cases there.symm.trans here
      rfl
    · obtain ⟨record, found⟩ := before' index later
      cases found.symm.trans here

theorem faultsIn_readCount {allowed : Fault → Prop}
    (each : ∀ place, FaultsIn allowed (read place)) : FaultsIn allowed (readCount read count start) := by
  intro fault failed
  obtain ⟨records, place, fewer, run, stuck⟩ := readCount_eq_error_iff.mp failed
  exact each place fault stuck

end Counted

section UpTo

variable {read : Nat → Except Fault (Option (Record α))} {stop start : Nat}
  {records : List (Nat × α)}

/-- What a loop with a bound goes on with: a record in front of the bound. -/
def FoundBefore (read : Nat → Except Fault (Option (Record α))) (stop place : Nat)
    (record : Record α) : Prop :=
  place < stop ∧ read place = .ok (some record)

private theorem readUpTo_of_run {place : Nat}
    (run : Run (FoundBefore read stop) start records place) :
    readUpTo read stop start = (do
      let rest ← readUpTo read stop place
      return records ++ rest) := by
  induction run with
  | nil here =>
    cases readUpTo read stop here <;> rfl
  | @cons here end' record records first later ih =>
    rw [readUpTo_of_lt read first.1, first.2]
    change (do
      let rest ← readUpTo read stop (here + record.width)
      return (here, record.value) :: rest) = _
    rw [ih]
    cases readUpTo read stop end' <;> rfl

theorem readUpTo_eq_ok_iff :
    readUpTo read stop start = .ok records ↔
      ∃ place, Run (FoundBefore read stop) start records place ∧
        (stop ≤ place ∨ read place = .ok none) := by
  constructor
  · intro done
    generalize remaining : stop - start = n
    induction n using Nat.strongRecOn generalizing start records with
    | ind n ih =>
      by_cases inside : start < stop
      · rw [readUpTo_of_lt read inside] at done
        obtain ⟨found, first, done⟩ := bind_eq_ok_iff.mp done
        cases found with
        | none =>
          cases done
          exact ⟨start, .nil start, .inr first⟩
        | some record =>
          obtain ⟨rest, later, done⟩ := bind_eq_ok_iff.mp done
          cases done
          have positive := record.width_pos
          obtain ⟨place, run, ended⟩ := ih _ (by omega) later rfl
          exact ⟨place, .cons ⟨inside, first⟩ run, ended⟩
      · have outside := Nat.not_lt.mp inside
        rw [readUpTo_of_le read outside] at done
        cases done
        exact ⟨start, .nil start, .inl outside⟩
  · rintro ⟨place, run, ended⟩
    have last : readUpTo read stop place = .ok [] := by
      by_cases inside : place < stop
      · rw [readUpTo_of_lt read inside, ended.resolve_left (Nat.not_le.mpr inside)]
        rfl
      · exact readUpTo_of_le read (Nat.not_lt.mp inside)
    rw [readUpTo_of_run run, last]
    simp [bind, Except.bind, pure, Except.pure]

theorem readUpTo_eq_error_iff {fault : Fault} :
    readUpTo read stop start = .error fault ↔
      ∃ records place, Run (FoundBefore read stop) start records place ∧ place < stop ∧
        read place = .error fault := by
  constructor
  · intro failed
    generalize remaining : stop - start = n
    induction n using Nat.strongRecOn generalizing start with
    | ind n ih =>
      by_cases inside : start < stop
      · rw [readUpTo_of_lt read inside] at failed
        rcases bind_eq_error_iff.mp failed with early | ⟨found, first, failed⟩
        · exact ⟨[], start, .nil start, inside, early⟩
        · cases found with
          | none => cases failed
          | some record =>
            rcases bind_eq_error_iff.mp failed with late | ⟨_, _, never⟩
            · have positive := record.width_pos
              obtain ⟨records, place, run, before, stuck⟩ := ih _ (by omega) late rfl
              exact ⟨_, place, .cons ⟨inside, first⟩ run, before, stuck⟩
            · cases never
      · rw [readUpTo_of_le read (Nat.not_lt.mp inside)] at failed
        cases failed
  · rintro ⟨records, place, run, before, stuck⟩
    rw [readUpTo_of_run run, readUpTo_of_lt read before, stuck]
    rfl

theorem faultsIn_readUpTo {allowed : Fault → Prop}
    (each : ∀ place, FaultsIn allowed (read place)) : FaultsIn allowed (readUpTo read stop start) := by
  intro fault failed
  obtain ⟨records, place, run, before, stuck⟩ := readUpTo_eq_error_iff.mp failed
  exact each place fault stuck

end UpTo

end HugoStory.Record
