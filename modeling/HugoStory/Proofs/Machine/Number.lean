import HugoStory.Proofs.Outcome
import HugoStory.Word
/-! Reading with the numbers of a machine. Addresses are held in words of 32 bits, values in
signed ones, and a cast to a narrower type keeps only what fits it. A number that does not fit
halts the reading, so a reading that does not halt is one with numbers of any size. -/
namespace HugoStory.Machine

/-- Why a reading breaks off: the file is at fault, or a number is out of range. -/
inductive Halt
  | fault (fault : Fault)
  | outOfRange
deriving DecidableEq, Repr

abbrev Checked := Except Halt

variable {α β : Type}

/-- A reading with numbers of any size, taken as one that no number has halted. -/
def lift : Except Fault α → Checked α
  | .ok value => .ok value
  | .error fault => .error (.fault fault)

/-- The number, if it is below the limit of its type. -/
def below (limit number : Nat) : Checked {result : Nat // result = number} :=
  if number < limit then .ok ⟨number, rfl⟩ else .error .outOfRange

def byteLimit : Nat := 0x100
def wordLimit : Nat := 0x10000
def addressLimit : Nat := 0x100000000

def add (left right : Nat) : Checked {sum : Nat // sum = left + right} :=
  below addressLimit (left + right)

section

variable {left right : Nat} (sum : {sum : Nat // sum = left + right})

theorem le_sum : left ≤ sum.1 := Nat.le.intro sum.2.symm

theorem sum_pos (positive : 0 < right) : 0 < sum.1 := by
  rw [sum.2]
  exact Nat.add_pos_right left positive

theorem lt_sum (positive : 0 < right) : left < sum.1 := by
  rw [sum.2]
  exact Nat.lt_add_of_pos_right positive

end

def mul (left right : Nat) : Checked {product : Nat // product = left * right} :=
  below addressLimit (left * right)

def shift (number places : Nat) : Checked {shifted : Nat // shifted = number <<< places} :=
  below addressLimit (number <<< places)

def sub (left right : Nat) : Checked {difference : Nat // difference = left - right} :=
  if right ≤ left then .ok ⟨left - right, rfl⟩ else .error .outOfRange

def signed (number : Int) : Checked Int :=
  if -0x80000000 ≤ number ∧ number < 0x80000000 then .ok number else .error .outOfRange

/-- A signed number cast to an unsigned type. -/
def unsigned (limit : Nat) (number : Int) : Checked Nat :=
  if 0 ≤ number ∧ number < limit then .ok number.toNat else .error .outOfRange

def wrapped (word : UInt16) : Checked Int :=
  if 32767 < word.toNat then do
    let raised ← signed (word.toNat + 32768)
    signed (raised % 65536 - 32768)
  else return word.toNat

theorem lift_ne_outOfRange (plain : Except Fault α) : lift plain ≠ .error .outOfRange := by
  cases plain with
  | ok value => simp [lift]
  | error fault => simp [lift]

@[simp]
theorem lift_ok (value : α) : lift (.ok value) = .ok value := rfl

@[simp]
theorem lift_pure (value : α) : lift (pure value) = pure value := rfl

@[simp]
theorem lift_bind (plain : Except Fault α) (next : α → Except Fault β) :
    lift (plain >>= next) = lift plain >>= fun value => lift (next value) := by
  cases plain with
  | ok value => rfl
  | error fault => rfl

/-- What two readings go on with need only be the same for a value that was read. -/
theorem lift_bind_congr {plain : Except Fault α} {f g : α → Checked β}
    (same : ∀ value, plain = .ok value → f value = g value) :
    (lift plain >>= f) = (lift plain >>= g) := by
  cases plain with
  | ok value => exact same value rfl
  | error fault => rfl

theorem lift_bind_eq_self {plain : Except Fault α} {f : α → Checked α}
    (same : ∀ value, plain = .ok value → f value = .ok value) :
    (lift plain >>= f) = lift plain := by
  cases plain with
  | ok value => exact same value rfl
  | error fault => rfl

@[simp]
theorem ok_bind (value : α) (next : α → Checked β) : (Except.ok value >>= next) = next value := rfl

section

variable {left right number limit places : Nat}

theorem below_eq (fits : number < limit) : below limit number = .ok ⟨number, rfl⟩ := if_pos fits

theorem add_eq (fits : left + right < 0x100000000) : add left right = .ok ⟨left + right, rfl⟩ :=
  if_pos fits

example : add 0xffffffff 1 = .error .outOfRange := rfl

theorem mul_eq (fits : left * right < 0x100000000) : mul left right = .ok ⟨left * right, rfl⟩ :=
  if_pos fits

theorem shift_eq (fits : number <<< places < 0x100000000) :
    shift number places = .ok ⟨number <<< places, rfl⟩ :=
  if_pos fits

theorem sub_eq (fits : right ≤ left) : sub left right = .ok ⟨left - right, rfl⟩ := if_pos fits

end

theorem signed_eq {number : Int} (least : -0x80000000 ≤ number) (fits : number < 0x80000000) :
    signed number = .ok number :=
  if_pos ⟨least, fits⟩

theorem unsigned_eq {limit : Nat} {number : Int} (least : 0 ≤ number) (fits : number < limit) :
    unsigned limit number = .ok number.toNat :=
  if_pos ⟨least, fits⟩

theorem wrapped_eq (word : UInt16) : wrapped word = .ok (Word.signed word) := by
  have bound := word.toNat_lt
  unfold wrapped Word.signed
  split
  · rw [signed_eq (by omega) (by omega), ok_bind, signed_eq (by omega) (by omega)]
    exact congrArg Except.ok (by omega)
  · rfl

end HugoStory.Machine
