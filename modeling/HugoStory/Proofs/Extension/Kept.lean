import HugoStory.Proofs.Parts
import HugoStory.Proofs.Truncation.Survival
/-! What is read stays as it was read when the file grows at its end. Bytes that were there are
there still, so every reader that asks for them one by one, or in runs with a bound that is not
the end of the file, reads the same again. -/
namespace HugoStory
open Outcome

/-- What the first reading gives the second one gives too. -/
def Outcome.Kept {α : Type} (part whole : Except Fault α) : Prop :=
  ∀ value, part = .ok value → whole = .ok value

theorem Outcome.Kept.bind {α β : Type} {part whole : Except Fault α}
    {next next' : α → Except Fault β} (head : Kept part whole)
    (tail : ∀ value, Kept (next value) (next' value)) :
    Kept (part >>= next) (whole >>= next') := by
  intro result done
  obtain ⟨value, first, later⟩ := bind_eq_ok_iff.mp done
  exact bind_eq_ok_iff.mpr ⟨value, head value first, tail value result later⟩

namespace Record.Run

variable {α : Type} {start stop : Nat} {records : List (Nat × α)}

theorem imp {finds finds' : Nat → Record α → Prop}
    (imply : ∀ place record, finds place record → finds' place record)
    (run : Run finds start records stop) : Run finds' start records stop := by
  induction run with
  | nil => exact .nil _
  | cons first later ih => exact .cons (imply _ _ first) ih

/-- Where all records are equally wide, only what lies at their places matters. -/
theorem imp_of_width {finds finds' : Nat → Record α → Prop} {width : Nat}
    (even : ∀ place record, finds place record → record.width = width)
    (run : Run finds start records stop)
    (imply : ∀ index < records.length, ∀ record,
      finds (start + width * index) record → finds' (start + width * index) record) :
    Run finds' start records stop := by
  induction run with
  | nil => exact .nil _
  | @cons place stop record records first later ih =>
    refine .cons (imply 0 (Nat.zero_lt_succ _) record first) (ih fun index inside other found => ?_)
    have next := imply (index + 1) (Nat.succ_lt_succ inside) other
    rw [even _ _ first, Nat.add_assoc, Nat.add_comm width, ← Nat.mul_succ] at found ⊢
    exact next found

/-- A run that did not end with its bound goes the same way under a wider one. -/
theorem kept {read read' : Nat → Except Fault (Option (Record α))}
    (each : ∀ place, Kept (read place) (read' place)) {stop' last : Nat} (wider : stop ≤ stop')
    (run : Run (FoundBefore read stop) start records last) :
    Run (FoundBefore read' stop') start records last :=
  run.imp fun place _ found => ⟨Nat.lt_of_lt_of_le found.1 wider, each place _ found.2⟩

end Record.Run

namespace Image

variable {image : Image} {more : Array UInt8}

theorem byte?_extended_of_some {place : Nat} {byte : UInt8} (present : image.byte? place = some byte) :
    (image.extended more).byte? place = some byte := by
  obtain ⟨inside, -⟩ := Array.getElem?_eq_some_iff.mp present
  rw [byte?_extended inside, present]

theorem kept_alike (image : Image) (more : Array UInt8) : Alike Kept image (image.extended more) where
  refl _ _ done := done
  bind := .bind
  byteAt region place byte read := by
    rw [byteAt_eq_ok_iff] at read ⊢
    exact byte?_extended_of_some read
  slice region start stop bytes sliced := by
    obtain ⟨inside, rfl⟩ := slice_eq_ok_iff.mp sliced
    exact slice_eq_ok_iff.mpr
      ⟨Nat.le_trans inside size_le_extended, congrArg Array.toList (extract_extended inside).symm⟩

end Image

open Image

variable {image : Image}

namespace Header

/-- A file without debugging data may be too short for the flag, and have it when it has grown. -/
private theorem readDebugStart_extended {start : Nat}
    (known : readDebugStart image = .ok (some start))
    (more : Array UInt8) : readDebugStart (image.extended more) = .ok (some start) := by
  have alike := kept_alike image more
  unfold readDebugStart at known ⊢
  cases flag : image.byte? debugFlagOffset with
  | none =>
    rw [flag] at known
    cases known
  | some byte =>
    rw [byte?_extended_of_some flag]
    rw [flag] at known
    split at known
    · cases known
    · cases known
    · refine alike.bind (alike.byteAt _ _) (fun low => ?_) _ known
      refine alike.bind (alike.byteAt _ _) fun middle => ?_
      exact alike.thenReturn (alike.byteAt _ _)

private theorem read_extended {header : Header} {start : Nat}
    (known : Header.read image = .ok header)
    (debug : header.debugStart = some start) (more : Array UInt8) :
    Header.read (image.extended more) = .ok header := by
  have alike := kept_alike image more
  obtain ⟨version, id, serial, layout, points, bound⟩ := read_eq_ok_iff.mp known
  rw [debug] at bound
  refine read_eq_ok_iff.mpr ⟨alike.readVersion _ version, alike.wordAt _ _ _ id,
    alike.readSerial _ serial, alike.readLayout _ layout, alike.readEntryPoints _ _ points, ?_⟩
  rw [debug]
  exact readDebugStart_extended bound more

end Header

theorem Preamble.read_extended {preamble : Preamble} {start : Nat}
    (known : Preamble.read image = .ok preamble)
    (debug : preamble.header.debugStart = some start) (more : Array UInt8) :
    Preamble.read (image.extended more) = .ok preamble := by
  have alike := kept_alike image more
  obtain ⟨header, counts, defaults⟩ := read_eq_ok_iff.mp known
  exact read_eq_ok_iff.mpr ⟨Header.read_extended header debug more, alike.readCounts _ _ counts,
    alike.readDefaults _ _ _ defaults⟩

end HugoStory
