import HugoStory.Fault
/-! Tables as runs of records. A reader turns an offset into the record that starts there;
the next record starts where it ends. A run is bounded either by a declared count or by the
offset where its table stops, and then a reader may also meet the mark that closes it. Both
kinds of run give every value together with the offset of its record. -/
namespace HugoStory

/-- What a reader found at an offset and how many bytes it takes up. -/
structure Record (α : Type) where
  value : α
  width : Nat
  width_pos : 0 < width := by omega

namespace Record

variable {α : Type}

/-- Reads on from `offset`; `seen` holds the records already read, the last one first. -/
def collectCount (read : Nat → Except Fault (Record α)) :
    Nat → Nat → List (Nat × α) → Except Fault (List (Nat × α))
  | 0, _, seen => .ok seen.reverse
  | count + 1, offset, seen =>
    match read offset with
    | .error fault => .error fault
    | .ok record => collectCount read count (offset + record.width) ((offset, record.value) :: seen)

def readCount (read : Nat → Except Fault (Record α)) (count start : Nat) :
    Except Fault (List (Nat × α)) :=
  collectCount read count start []

def collectUpTo (read : Nat → Except Fault (Option (Record α))) (stop offset : Nat)
    (seen : List (Nat × α)) : Except Fault (List (Nat × α)) :=
  if offset < stop then
    match read offset with
    | .error fault => .error fault
    | .ok none => .ok seen.reverse
    | .ok (some record) =>
      collectUpTo read stop (offset + record.width) ((offset, record.value) :: seen)
  else .ok seen.reverse
termination_by stop - offset
decreasing_by
  have := record.width_pos
  omega

/-- The run of records that start before `stop`, or before the mark that closes them. -/
def readUpTo (read : Nat → Except Fault (Option (Record α))) (stop start : Nat) :
    Except Fault (List (Nat × α)) :=
  collectUpTo read stop start []

private theorem collectCount_eq (read : Nat → Except Fault (Record α)) (count offset : Nat)
    (seen : List (Nat × α)) :
    collectCount read count offset seen =
      (readCount read count offset).map (seen.reverse ++ ·) := by
  induction count generalizing offset seen with
  | zero => simp [collectCount, readCount, Except.map]
  | succ count ih =>
    simp only [collectCount, readCount]
    split
    · rfl
    · rename_i record _
      rw [ih, ih _ [(offset, record.value)]]
      cases readCount read count (offset + record.width) <;> simp [Except.map]

theorem readCount_succ (read : Nat → Except Fault (Record α)) (count start : Nat) :
    readCount read (count + 1) start = (do
      let record ← read start
      let rest ← readCount read count (start + record.width)
      return (start, record.value) :: rest) := by
  rw [readCount, collectCount]
  cases read start with
  | error fault => rfl
  | ok record =>
    simp only [collectCount_eq, bind, Except.bind]
    cases readCount read count (start + record.width) <;> rfl

theorem length_of_readCount {read : Nat → Except Fault (Record α)} {count start : Nat}
    {records : List (Nat × α)} (done : readCount read count start = .ok records) :
    records.length = count := by
  induction count generalizing start records with
  | zero =>
    cases done
    rfl
  | succ count ih =>
    rw [readCount_succ] at done
    cases first : read start with
    | error fault => simp [first, bind, Except.bind] at done
    | ok record =>
      cases later : readCount read count (start + record.width) with
      | error fault => simp [first, later, bind, Except.bind] at done
      | ok rest =>
        simp only [first, later, bind, Except.bind, pure, Except.pure, Except.ok.injEq] at done
        subst done
        simp [ih later]

private theorem collectUpTo_eq (read : Nat → Except Fault (Option (Record α))) (stop offset : Nat)
    (seen : List (Nat × α)) :
    collectUpTo read stop offset seen =
      (readUpTo read stop offset).map (seen.reverse ++ ·) := by
  generalize remaining : stop - offset = n
  induction n using Nat.strongRecOn generalizing offset seen with
  | ind n ih =>
    unfold readUpTo
    rw [collectUpTo, collectUpTo]
    split
    · split
      · rfl
      · simp [Except.map]
      · rename_i record _
        have shorter : stop - (offset + record.width) < n := by
          have := record.width_pos
          omega
        rw [ih _ shorter _ _ rfl, ih _ shorter _ [(offset, record.value)] rfl]
        cases readUpTo read stop (offset + record.width) <;> simp [Except.map]
    · simp [Except.map]

theorem readUpTo_of_le (read : Nat → Except Fault (Option (Record α))) {stop start : Nat}
    (outside : stop ≤ start) : readUpTo read stop start = .ok [] := by
  rw [readUpTo, collectUpTo, if_neg (Nat.not_lt.mpr outside)]
  rfl

theorem readUpTo_of_lt (read : Nat → Except Fault (Option (Record α))) {stop start : Nat}
    (inside : start < stop) :
    readUpTo read stop start = (do
      match ← read start with
      | none => return []
      | some record =>
        let rest ← readUpTo read stop (start + record.width)
        return (start, record.value) :: rest) := by
  rw [readUpTo, collectUpTo, if_pos inside]
  cases read start with
  | error fault => rfl
  | ok found =>
    cases found with
    | none => rfl
    | some record =>
      simp only [collectUpTo_eq, bind, Except.bind]
      cases readUpTo read stop (start + record.width) <;> rfl

end Record

end HugoStory
