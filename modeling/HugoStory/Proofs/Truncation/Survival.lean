import HugoStory.Proofs.Alike
import HugoStory.Proofs.Grammar.Entries
import Mathlib.Data.List.Forall2
/-! Two readings side by side: one of a file that was cut short and one of the whole file.
The reading of the cut file survives if it is not misled: unless the whole file is refused, it
either agrees with the reading of the whole file or runs out of the file. Reading step by step
keeps this, and every reader of single bytes, words and runs of them has it. -/
namespace HugoStory
open Outcome

namespace Image

def extended (image : Image) (more : Array UInt8) : Image := ⟨image.bytes ++ more⟩

variable {α β γ δ : Type} {image : Image} {more : Array UInt8} {region : Region}

/-- What the reading of the cut file comes to beside the reading of the whole one. -/
inductive Survives (image : Image) (agree : α → β → Prop) : Except Fault α → Except Fault β → Prop
  | agreed {part : α} {whole : β} (same : agree part whole) :
      Survives image agree (.ok part) (.ok whole)
  | cut {region : Region} {fault : Fault} {outcome : Except Fault β}
      (short : image.RunsOut region fault) : Survives image agree (.error fault) outcome
  | refused {outcome : Except Fault α} {fault : Fault} :
      Survives image agree outcome (.error fault)

namespace Survives

variable {agree : α → β → Prop} {further : γ → δ → Prop}
  {part : Except Fault α} {whole : Except Fault β}

theorem refl (outcome : Except Fault α) : Survives image Eq outcome outcome := by
  cases outcome with
  | error fault => exact .refused
  | ok value => exact .agreed rfl

theorem bind {next : α → Except Fault γ} {next' : β → Except Fault δ}
    (head : Survives image agree part whole)
    (tail : ∀ value value', agree value value' → Survives image further (next value) (next' value')) :
    Survives image further (part >>= next) (whole >>= next') := by
  cases head with
  | agreed same => exact tail _ _ same
  | cut short => exact .cut short
  | refused => exact .refused

theorem bindSame {whole : Except Fault α} {next : α → Except Fault γ} {next' : α → Except Fault δ}
    (head : Survives image Eq part whole)
    (tail : ∀ value, Survives image further (next value) (next' value)) :
    Survives image further (part >>= next) (whole >>= next') := by
  apply head.bind
  intro value value' same
  subst same
  exact tail value

theorem of_ok (value : α) : Survives image (fun _ _ => True) (.ok value) whole := by
  cases whole with
  | error fault => exact .refused
  | ok value' => exact .agreed trivial

theorem of_faultsIn (short : FaultsIn (image.RunsOut region) part) :
    Survives image (fun _ _ => True) part whole := by
  cases part with
  | error fault => exact .cut (short fault rfl)
  | ok value => exact .of_ok value

end Survives

theorem size_extended : (image.extended more).size = image.size + more.size := by
  simp [extended, size]

theorem byte?_extended {offset : Nat} (inside : offset < image.size) :
    (image.extended more).byte? offset = image.byte? offset :=
  Array.getElem?_append_left inside

theorem size_le_extended : image.size ≤ (image.extended more).size := by
  rw [size_extended]
  exact Nat.le_add_right _ _

theorem extract_extended {start stop : Nat} (inside : stop ≤ image.size) :
    (image.extended more).bytes.extract start stop = image.bytes.extract start stop := by
  unfold size at inside
  simp [extended, Array.extract_append, Nat.sub_eq_zero_of_le inside]

theorem survives_byteAt (offset : Nat) :
    Survives image Eq (image.byteAt region offset) ((image.extended more).byteAt region offset) := by
  by_cases inside : offset < image.size
  · unfold byteAt
    rw [byte?_extended inside]
    exact .refl _
  · have beyond := Nat.not_lt.mp inside
    rw [byteAt_eq_error_iff.mpr ⟨beyond, rfl⟩]
    exact .cut ⟨offset, beyond, rfl⟩

theorem survives_slice (start stop : Nat) :
    Survives image Eq (image.slice region start stop)
      ((image.extended more).slice region start stop) := by
  by_cases short : image.size < stop
  · rw [slice_eq_error_iff.mpr ⟨short, rfl⟩]
    exact .cut ⟨stop, Nat.le_of_lt short, rfl⟩
  · have inside := Nat.not_lt.mp short
    have reached : stop ≤ (image.extended more).size := Nat.le_trans inside size_le_extended
    rw [slice_eq_ok_iff.mpr ⟨inside, rfl⟩, slice_eq_ok_iff.mpr ⟨reached, rfl⟩,
      extract_extended inside]
    exact .agreed rfl

theorem survives_alike (image : Image) (more : Array UInt8) :
    Alike (Survives image Eq) image (image.extended more) where
  refl := .refl
  bind := .bindSame
  byteAt _ := survives_byteAt
  slice _ := survives_slice

end Image

namespace Record
open Image

variable {α : Type} {image : Image} {stop : Nat}

section Counted

variable {read read' : Nat → Except Fault (Record α)}

theorem survives_readCount (agree : α → α → Prop)
    (each : ∀ place, Survives image
      (fun record record' => record.width = record'.width ∧ agree record.value record'.value)
      (read place) (read' place)) (count start : Nat) :
    Survives image
      (List.Forall₂ fun entry entry' => entry.1 = entry'.1 ∧ agree entry.2 entry'.2)
      (readCount read count start) (readCount read' count start) := by
  induction count generalizing start with
  | zero => exact .agreed .nil
  | succ count ih =>
    rw [readCount_succ, readCount_succ]
    apply (each start).bind
    intro record record' same
    rw [same.1]
    apply (ih (start + record'.width)).bind
    intro rest rest' related
    exact .agreed (.cons ⟨rfl, same.2⟩ related)

end Counted

section UpTo

variable {read read' : Nat → Except Fault (Option (Record α))}

/-- What may be found at one place of the two files for the loops to stay in step: the same
width in both, or in the cut file a record that nothing comes behind. -/
inductive InStep (stop place : Nat) : Option (Record α) → Option (Record α) → Prop
  | closed : InStep stop place none none
  | level {record record' : Record α} (even : record.width = record'.width) :
      InStep stop place (some record) (some record')
  | last {record record' : Record α} (beyond : stop ≤ place + record.width) :
      InStep stop place (some record) (some record')

theorem survives_readUpTo {stop' : Nat} (wider : stop ≤ stop')
    (each : ∀ place, Survives image (InStep stop place) (read place) (read' place)) (start : Nat) :
    Survives image (fun _ _ => True) (readUpTo read stop start) (readUpTo read' stop' start) := by
  generalize remaining : stop - start = n
  induction n using Nat.strongRecOn generalizing start with
  | ind n ih =>
    by_cases inside : start < stop
    · rw [readUpTo_of_lt read inside, readUpTo_of_lt read' (Nat.lt_of_lt_of_le inside wider)]
      apply (each start).bind
      intro found found' related
      cases related with
      | closed => exact .agreed trivial
      | @level record record' even =>
        have positive := record.width_pos
        have later := ih _ (by omega) (start + record.width) rfl
        simp only [← even]
        exact later.bind fun _ _ _ => .agreed trivial
      | @last record record' beyond =>
        simp only [readUpTo_of_le read beyond]
        exact .of_ok _
    · rw [readUpTo_of_le read (Nat.not_lt.mp inside)]
      exact .of_ok _

end UpTo

end Record

end HugoStory
