import HugoStory.Proofs.Machine.Number
import HugoStory.Record
/-! Runs of records read with the numbers of a machine. A reader says where to go on instead of
how far the record reaches, as that place is a number to be held in range. -/
namespace HugoStory.Machine

variable {α β : Type}

/-- What was read, and the place where reading goes on. -/
structure Stretch (α : Type) (least : Nat) where
  value : α
  next : Nat
  reached : least ≤ next

namespace Stretch

theorem ext {least : Nat} {first second : Stretch α least} (values : first.value = second.value)
    (nexts : first.next = second.next) : first = second := by
  cases first
  cases second
  cases values
  cases nexts
  rfl

/-- A record of a plain reader; `form` says what is made of it and of its place. -/
def ofRecord (form : Nat → β → α) (place : Nat) (record : Record β) : Stretch α (place + 1) where
  value := form place record.value
  next := place + record.width
  reached := Nat.add_le_add_left record.width_pos place

end Stretch

def readCount (read : (place : Nat) → Checked (Stretch α (place + 1))) :
    Nat → Nat → Checked (List α)
  | 0, _ => return []
  | count + 1, place => do
    let first ← read place
    let rest ← readCount read count first.next
    return first.value :: rest

def readUpTo (read : (place : Nat) → Checked (Option (Stretch α (place + 1)))) (stop place : Nat) :
    Checked (List α) :=
  if place < stop then do
    match ← read place with
    | none => return []
    | some first =>
      let rest ← readUpTo read stop first.next
      return first.value :: rest
  else return []
termination_by stop - place
decreasing_by
  have := first.reached
  omega

def enumerate (form : Nat → β → Checked α) : Nat → List β → Checked (List α)
  | _, [] => return []
  | number, item :: rest => do
    let value ← form number item
    let later ← enumerate form (number + 1) rest
    return value :: later

/-- Both loops need the same of their reader: at each place where it may be asked to read, it
reads what the plain reader does, and goes on at such a place. -/
theorem readCount_eq_lift (inside : Nat → Prop)
    {read : (place : Nat) → Checked (Stretch α (place + 1))}
    {plain : Nat → Except Fault (Record β)} {form : Nat → β → α}
    (each : ∀ place, inside place → read place = lift (do
      let record ← plain place
      return .ofRecord form place record))
    (stays : ∀ place record, inside place → plain place = .ok record →
      inside (place + record.width))
    {count start : Nat} (here : inside start) :
    readCount read count start = lift (do
      let records ← Record.readCount plain count start
      return records.map fun (place, value) => form place value) := by
  induction count generalizing start with
  | zero => rfl
  | succ count ih =>
    rw [readCount, Record.readCount_succ, each start here]
    simp only [lift_bind, lift_pure, bind_assoc, pure_bind]
    apply lift_bind_congr
    intro record found
    simp only [Stretch.ofRecord, ih (stays start record here found), lift_bind, lift_pure,
      bind_assoc, pure_bind, List.map_cons]

theorem readUpTo_eq_lift (inside : Nat → Prop)
    {read : (place : Nat) → Checked (Option (Stretch α (place + 1)))}
    {plain : Nat → Except Fault (Option (Record β))} {form : Nat → β → α} {stop : Nat}
    (each : ∀ place, inside place → place < stop → read place = lift (do
      let record? ← plain place
      return record?.map (.ofRecord form place)))
    (stays : ∀ place record, inside place → place < stop → plain place = .ok (some record) →
      inside (place + record.width))
    {start : Nat} (here : inside start) :
    readUpTo read stop start = lift (do
      let records ← Record.readUpTo plain stop start
      return records.map fun (place, value) => form place value) := by
  generalize remaining : stop - start = n
  induction n using Nat.strongRecOn generalizing start with
  | ind n ih =>
    by_cases before : start < stop
    · rw [readUpTo, if_pos before, Record.readUpTo_of_lt plain before, each start here before]
      simp only [lift_bind, lift_pure, bind_assoc, pure_bind]
      apply lift_bind_congr
      intro record? found
      cases record? with
      | none => rfl
      | some record =>
        have positive := record.width_pos
        have later := ih _ (by omega) (stays start record here before found) rfl
        simp only [Option.map_some, Stretch.ofRecord, later, lift_bind, lift_pure, bind_assoc,
          pure_bind, List.map_cons]
    · rw [readUpTo, if_neg before, Record.readUpTo_of_le plain (Nat.not_lt.mp before)]
      rfl

theorem enumerate_eq {form : Nat → β → Checked α} {plain : Nat → β → α} {limit : Nat}
    (formed : ∀ number item, number < limit → form number item = .ok (plain number item))
    {first : Nat} {items : List β} (few : first + items.length ≤ limit) :
    enumerate form first items =
      .ok (items.mapIdx fun place item => plain (first + place) item) := by
  induction items generalizing first with
  | nil => rfl
  | cons item rest ih =>
    rw [List.length_cons] at few
    have later := @ih (first + 1) (by omega)
    rw [enumerate, formed first item (by omega), ok_bind, later, ok_bind, List.mapIdx_cons]
    simp only [Nat.add_assoc, Nat.add_comm 1]
    rfl

end HugoStory.Machine
