import HugoStory.Attribute
import HugoStory.Proofs.Json.Token
import Mathlib.Data.List.Induction
/-! The attributes in a set of bytes are the numbers of its bits that are set, in order. No two
numbers have the same name, so the names of a set tell which bits are set. -/
namespace HugoStory.Attribute

def isSet (bytes : List UInt8) (number : Nat) : Bool :=
  (bytes[number / 8]?.getD 0).toNat.testBit (number % 8)

private theorem inBytes_append_singleton (bytes : List UInt8) (byte : UInt8) :
    inBytes (bytes ++ [byte]) = inBytes bytes ++ inByte (8 * bytes.length) byte := by
  unfold inBytes
  rw [List.mapIdx_append, List.flatten_append]
  simp

private theorem isSet_append_left {bytes : List UInt8} (more : List UInt8) {number : Nat}
    (inside : number < 8 * bytes.length) : isSet (bytes ++ more) number = isSet bytes number := by
  unfold isSet
  rw [List.getElem?_append_left (by omega)]

private theorem isSet_append_right {bytes : List UInt8} (byte : UInt8) {bit : Nat}
    (small : bit < 8) :
    isSet (bytes ++ [byte]) (8 * bytes.length + bit) = byte.toNat.testBit bit := by
  have place : (8 * bytes.length + bit) / 8 = bytes.length := by omega
  have rest : (8 * bytes.length + bit) % 8 = bit := by omega
  unfold isSet
  rw [place, rest, List.getElem?_append_right (Nat.le_refl _), Nat.sub_self]
  rfl

theorem inBytes_eq_filter (bytes : List UInt8) :
    inBytes bytes = (List.range (8 * bytes.length)).filter (isSet bytes) := by
  induction bytes using List.reverseRecOn with
  | nil => rfl
  | append_singleton bytes byte ih =>
    have earlier : (List.range (8 * bytes.length)).filter (isSet (bytes ++ [byte])) =
        (List.range (8 * bytes.length)).filter (isSet bytes) :=
      List.filter_congr fun number member => isSet_append_left _ (List.mem_range.mp member)
    have last : (List.range 8).filter (isSet (bytes ++ [byte]) ∘ (8 * bytes.length + ·)) =
        (List.range 8).filter fun bit => byte.toNat.testBit bit :=
      List.filter_congr fun bit member => isSet_append_right _ (List.mem_range.mp member)
    rw [inBytes_append_singleton, ih, List.length_append, List.length_singleton, Nat.mul_add,
      List.range_add, List.filter_append, earlier, List.filter_map, last]
    rfl

def SetAt (bytes : List UInt8) (place bit : Nat) : Prop :=
  bit < 8 ∧ ∃ byte, bytes[place]? = some byte ∧ byte.toNat.testBit bit = true

theorem mem_inBytes_iff {bytes : List UInt8} {number : Nat} :
    number ∈ inBytes bytes ↔ ∃ place bit, SetAt bytes place bit ∧ number = 8 * place + bit := by
  unfold inBytes SetAt
  simp only [List.mem_flatten, List.mem_mapIdx]
  constructor
  · rintro ⟨_, ⟨place, inside, rfl⟩, member⟩
    obtain ⟨bit, small, set, rfl⟩ := mem_inByte.mp member
    exact ⟨place, bit, ⟨small, _, List.getElem?_eq_getElem inside, set⟩, rfl⟩
  · rintro ⟨place, bit, ⟨small, byte, there, set⟩, rfl⟩
    obtain ⟨inside, rfl⟩ := List.getElem?_eq_some_iff.mp there
    exact ⟨_, ⟨place, inside, rfl⟩, mem_inByte.mpr ⟨bit, small, set, rfl⟩⟩

private theorem setAt_iff_mem {bytes : List UInt8} {place bit : Nat} (small : bit < 8) :
    SetAt bytes place bit ↔ 8 * place + bit ∈ inBytes bytes := by
  rw [mem_inBytes_iff]
  constructor
  · exact fun set => ⟨place, bit, set, rfl⟩
  · rintro ⟨place', bit', set, same⟩
    have small' := set.1
    obtain rfl : place = place' := by omega
    obtain rfl : bit = bit' := by omega
    exact set

private theorem pairwise_inBytes (bytes : List UInt8) : (inBytes bytes).Pairwise (· < ·) := by
  rw [inBytes_eq_filter]
  exact List.pairwise_lt_range.filter _

private theorem byte_eq_of_testBit {first second : UInt8}
    (same : ∀ bit < 8, first.toNat.testBit bit = second.toNat.testBit bit) : first = second := by
  apply UInt8.toNat_inj.mp
  apply Nat.eq_of_testBit_eq
  intro bit
  by_cases small : bit < 8
  · exact same bit small
  · have high (byte : UInt8) : byte.toNat.testBit bit = false := by
      have fits : 2 ^ 8 ≤ 2 ^ bit := Nat.pow_le_pow_right (by decide) (by omega)
      exact Nat.testBit_lt_two_pow (Nat.lt_of_lt_of_le byte.toNat_lt fits)
    rw [high, high]

/-- Zeros at the end have no attribute, so only bytes of one length are told apart. -/
theorem inBytes_inj {first second : List UInt8} (length : first.length = second.length)
    (same : inBytes first = inBytes second) : first = second := by
  apply List.ext_getElem length
  intro place inside inside'
  apply byte_eq_of_testBit
  intro bit small
  have held : SetAt first place bit ↔ SetAt second place bit := by
    rw [setAt_iff_mem small, setAt_iff_mem small, same]
  have stored (bytes : List UInt8) (inside : place < bytes.length) :
      SetAt bytes place bit ↔ bytes[place].toNat.testBit bit = true := by
    simp [SetAt, small, List.getElem?_eq_getElem inside]
  rw [Bool.eq_iff_iff, ← stored first inside, ← stored second inside', held]

private theorem toList_custom (number : Nat) :
    ("custom (" ++ toString number ++ ")").toList =
      "custom (".toList ++ ((toString number).toList ++ ")".toList) := by
  rw [String.toList_append, String.toList_append, List.append_assoc]

private theorem libraryNames_ne_custom {name : String} (member : name ∈ libraryNames)
    (number : Nat) :
    name ≠ "custom (" ++ toString number ++ ")" := by
  rintro rfl
  have plain : ∀ name ∈ libraryNames, ¬"custom (".toList <+: name.toList := by decide
  exact plain _ member ⟨_, (toList_custom number).symm⟩

theorem name_inj {number number' : Nat} (same : name number = name number') : number = number' := by
  unfold name at same
  cases known : libraryNames[number]? with
  | some text =>
    cases known' : libraryNames[number']? with
    | some text' =>
      simp only [known, known'] at same
      subst same
      obtain ⟨inside, -⟩ := List.getElem?_eq_some_iff.mp known
      have distinct : libraryNames.Nodup := by decide
      exact (List.getElem?_inj inside distinct).mp (known.trans known'.symm)
    | none =>
      simp only [known, known'] at same
      exact absurd same (libraryNames_ne_custom (List.mem_of_getElem? known) number')
  | none =>
    cases known' : libraryNames[number']? with
    | some text' =>
      simp only [known, known'] at same
      exact absurd same.symm (libraryNames_ne_custom (List.mem_of_getElem? known') number)
    | none =>
      simp only [known, known'] at same
      have chars := congrArg String.toList same
      rw [toList_custom, toList_custom] at chars
      have digits := List.append_cancel_right (List.append_cancel_left chars)
      exact Json.toString_nat_inj (String.toList_inj.mp digits)

/-- The names of a set of attributes are those of the bits that are set, in the order in which the
bits are stored, and they tell all bits of a given number of bytes. -/
theorem names_inBytes :
    (∀ bytes : List UInt8, (inBytes bytes).Pairwise (· < ·) ∧
      ∀ number, number ∈ inBytes bytes ↔
        ∃ place bit, SetAt bytes place bit ∧ number = 8 * place + bit) ∧
    Function.Injective name ∧
    ∀ first second : List UInt8, first.length = second.length →
      ((inBytes first).map name = (inBytes second).map name ↔ first = second) := by
  refine ⟨fun bytes => ⟨pairwise_inBytes bytes, fun _ => mem_inBytes_iff⟩, fun _ _ => name_inj, ?_⟩
  intro first second length
  constructor
  · intro same
    exact inBytes_inj length ((List.map_inj_right fun _ _ => name_inj).mp same)
  · rintro rfl
    rfl

/-- The library names end with bit 6 of the third byte. -/
theorem names_inBytes_custom :
    let first : List UInt8 := [0x09, 0, 0x80, 0x01]
    let second : List UInt8 := [0x09, 0, 0x80, 0x02]
    first.length = second.length ∧
      (inBytes first).map name = ["known", "plural", "custom (23)", "custom (24)"] ∧
      ((inBytes first).map name = (inBytes second).map name ↔ first = second) := by
  intro first second
  have length : first.length = second.length := rfl
  exact ⟨length, by decide, names_inBytes.2.2 first second length⟩

end HugoStory.Attribute
