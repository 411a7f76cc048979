import HugoStory.Proofs.Consistent
import HugoStory.Proofs.OrderedMap
import HugoStory.Proofs.Machine.Image
/-! The sections without structure of their own, read with the numbers of a machine. Each reader
first finds a byte where it stands, so that the place is in range, and takes only small steps
from there. Entries are filed by insertion, where two of the same key would be one. -/
namespace HugoStory.Machine
open Outcome

variable {image : Image}

def readCode (image : Image) (offset stop : Nat) : Checked (List UInt8) := do
  let bytes ← slice image .code offset stop
  return Code.trimmed bytes

def readGlobals (image : Image) (offset : Nat) : Checked (List Int) :=
  signedWords image .globals offset Variables.globalCount

def readArray (image : Image) (offset place : Nat) :
    Checked (Option (Stretch (Nat × List UInt16) (place + 1))) := do
  let length ← wordAt image .arrays place
  let distance ← sub place offset
  let behind ← add place 2
  let contents ← words image .arrays behind length.toNat
  let width ← mul length.toNat 2
  let next ← add behind width
  return some {
    value := (distance / 2, contents)
    next
    reached := Nat.lt_of_lt_of_le (lt_sum behind Nat.two_pos) (le_sum next) }

def arrayEntries (image : Image) (offset stop : Nat) : Checked (List (Nat × List UInt16)) := do
  let width ← mul Variables.globalCount 2
  let start ← add offset width
  readUpTo (readArray image offset) stop start

def readArrays (image : Image) (offset stop : Nat) : Checked (OrderedMap Nat (List UInt16)) := do
  let entries ← arrayEntries image offset stop
  return .ofEntries entries

def readWord (image : Image) (base place : Nat) :
    Checked (Stretch (Int × String) (place + 1)) := do
  let length ← byteAt image .dictionary place
  let start ← add place 1
  let word ← textAt image .dictionary start length.toNat
  let distance ← sub place base
  let key ← signed distance
  let width ← add length.toNat 1
  let next ← add place width
  return {
    value := (key, word)
    next
    reached := lt_sum next (sum_pos width Nat.one_pos) }

def wordEntries (image : Image) (offset count : Nat) : Checked (List (Int × String)) := do
  let base ← add offset 2
  readCount (readWord image base) count base

def readDictionary (image : Image) (offset count : Nat) : Checked Dictionary := do
  let entries ← wordEntries image offset count
  return ⟨.ofEntries entries⟩

def readEvent (image : Image) (place : Nat) : Checked (Stretch Event (place + 1)) := do
  let object ← wordAt image .events place
  let behind ← add place 2
  let address ← wordAt image .events behind
  let next ← add place 4
  return {
    value := { object, address }
    next
    reached := lt_sum next (Nat.succ_pos _) }

def readEvents (image : Image) (offset count : Nat) : Checked (List Event) := do
  let start ← add offset 2
  readCount (readEvent image) count start

def readSpecialWord (image : Image) (place : Nat) :
    Checked (Stretch (WordCategory × SpecialWord) (place + 1)) := do
  let byte ← byteAt image .specialWords place
  let firstPlace ← add place 1
  let first ← wordAt image .specialWords firstPlace
  let secondPlace ← add place 3
  let second ← wordAt image .specialWords secondPlace
  match WordCategory.ofByte? byte with
  | none => throw (.fault (.unknownWordCategory byte place))
  | some category =>
    let next ← add place 5
    return {
      value := (category, { first, second })
      next
      reached := lt_sum next (Nat.succ_pos _) }

def readSpecialWords (image : Image) (offset count : Nat) : Checked SpecialWords := do
  let start ← add offset 2
  let records ← readCount (readSpecialWord image) count start
  return .ofRecords records

/-- The reach of a text is held against the end of the bank, though nothing hangs on it. -/
def readText (image : Image) (offset place : Nat) :
    Checked (Option (Stretch (Nat × String) (place + 1))) := do
  let length ← wordAt image .textBank place
  let start ← add place 2
  let _reach ← add start length.toNat
  let key ← sub place offset
  let text ← clippedText image start length.toNat
  let width ← add length.toNat 2
  let next ← add place width
  return some {
    value := (key, text)
    next
    reached := lt_sum next (sum_pos width Nat.two_pos) }

def readTextBank (image : Image) (offset stop : Nat) : Checked TextBank := do
  let entries ← readUpTo (readText image offset) stop offset
  return ⟨.ofEntries entries⟩

theorem readCode_eq_lift (offset stop : Nat) :
    readCode image offset stop = lift (Code.read image offset stop) := by
  unfold readCode Code.read slice
  rw [lift_bind]
  rfl

variable (small : Addressable image)
include small

theorem readGlobals_eq_lift {offset : Nat} (near : offset ≤ 0xffff0) :
    readGlobals image offset = lift (Variables.readGlobals image offset) := by
  unfold readGlobals Variables.readGlobals Variables.globalCount
  rw [signedWords_eq_lift small (by omega)]

private theorem readArray_eq_lift {offset place : Nat} (after : offset ≤ place) :
    readArray image offset place = lift (do
      let record? ← Variables.readArray image place
      return record?.map (.ofRecord (fun place words => ((place - offset) / 2, words)) place)) := by
  unfold readArray Variables.readArray
  simp only [lift_bind, lift_pure, bind_assoc, pure_bind, wordAt_eq_lift small]
  apply lift_bind_congr
  intro length found
  have inside := lt_size_of_wordAt found
  have bound := length.toNat_lt
  simp (disch := omega) only [sub_eq, add_eq, ok_bind, words_eq_lift small]
  apply lift_bind_congr
  intro words _
  simp (disch := omega) only [mul_eq, ok_bind]
  refine congrArg (fun stretch => pure (some stretch)) (Stretch.ext rfl ?_)
  simp only [Stretch.ofRecord]
  omega

theorem arrayEntries_eq_lift {offset : Nat} (near : offset ≤ 0xffff0) (stop : Nat) :
    arrayEntries image offset stop = lift (do
      let arrays ← Variables.readArrays image offset stop
      return arrays.entries) := by
  unfold arrayEntries Variables.readArrays Variables.globalCount
  simp (disch := omega) only [mul_eq, add_eq, ok_bind, Nat.mul_comm 2]
  rw [readUpTo_eq_lift (offset ≤ ·) (fun place after _ => readArray_eq_lift small after)]
  · simp only [lift_bind, lift_pure, bind_assoc, pure_bind]
  · intro place record after _ _
    omega
  · omega

theorem readArrays_eq_lift {offset : Nat} (near : offset ≤ 0xffff0) (stop : Nat) :
    readArrays image offset stop = lift (Variables.readArrays image offset stop) := by
  unfold readArrays
  rw [arrayEntries_eq_lift small near]
  simp only [lift_bind, lift_pure, bind_assoc, pure_bind]
  apply lift_bind_eq_self
  intro arrays read
  have ascending := (Variables.ascending_of_readArrays read).1
  rw [OrderedMap.ofEntries_of_ascending (fun _ _ => Nat.lt_asymm) ascending]
  rfl

private theorem readWord_eq_lift {base place : Nat} (after : base ≤ place) :
    readWord image base place = lift (do
      let record ← Dictionary.readWord image place
      return .ofRecord (fun place word => ((place : Int) - base, word)) place record) := by
  unfold readWord Dictionary.readWord byteAt
  simp only [lift_bind, lift_pure, bind_assoc, pure_bind]
  apply lift_bind_congr
  intro length found
  have inside := lt_size_of_byteAt found
  have bound := length.toNat_lt
  simp (disch := omega) only [add_eq, ok_bind, textAt_eq_lift]
  apply lift_bind_congr
  intro word _
  simp (disch := omega) only [sub_eq, signed_eq, ok_bind]
  refine congrArg pure (Stretch.ext ?_ ?_)
  · simp only [Stretch.ofRecord, Prod.mk.injEq, and_true]
    omega
  · simp only [Stretch.ofRecord]
    omega

theorem wordEntries_eq_lift {offset : Nat} (near : offset < 0x80000000)
    (count : Nat) :
    wordEntries image offset count = lift (do
      let dictionary ← Dictionary.read image offset count
      return dictionary.words.entries) := by
  unfold wordEntries Dictionary.read
  simp (disch := omega) only [add_eq, ok_bind]
  rw [readCount_eq_lift (offset + 2 ≤ ·) (fun place after => readWord_eq_lift small after)]
  · simp only [lift_bind, lift_pure, bind_assoc, pure_bind]
  · intro place record after _
    omega
  · omega

theorem readDictionary_eq_lift {offset : Nat} (near : offset < 0x80000000)
    (count : Nat) :
    readDictionary image offset count = lift (Dictionary.read image offset count) := by
  unfold readDictionary
  rw [wordEntries_eq_lift small near]
  simp only [lift_bind, lift_pure, bind_assoc, pure_bind]
  apply lift_bind_eq_self
  intro dictionary read
  have ascending := (Dictionary.keys_of_read read).2.1
  rw [OrderedMap.ofEntries_of_ascending (fun _ _ => Int.lt_asymm) ascending]
  rfl

private theorem readEvent_eq_lift (place : Nat) :
    readEvent image place = lift (do
      let record ← Event.readRecord image place
      return .ofRecord (fun _ event => event) place record) := by
  unfold readEvent Event.readRecord
  simp only [lift_bind, lift_pure, bind_assoc, pure_bind, wordAt_eq_lift small]
  apply lift_bind_congr
  intro object found
  have inside := lt_size_of_wordAt found
  simp (disch := omega) only [add_eq, ok_bind]
  rfl

theorem readEvents_eq_lift {offset : Nat} (near : offset < 0x80000000) (count : Nat) :
    readEvents image offset count = lift (Event.readTable image offset count) := by
  unfold readEvents Event.readTable
  simp (disch := omega) only [add_eq, ok_bind]
  rw [readCount_eq_lift (fun _ => True) (fun place _ => readEvent_eq_lift small place)
    (fun _ _ _ _ => trivial) trivial]

private theorem readSpecialWord_eq_lift (place : Nat) :
    readSpecialWord image place = lift (do
      let record ← SpecialWords.readRecord image place
      return .ofRecord (fun _ word => word) place record) := by
  unfold readSpecialWord SpecialWords.readRecord byteAt
  simp only [lift_bind, lift_pure, bind_assoc, wordAt_eq_lift small]
  apply lift_bind_congr
  intro byte found
  have inside := lt_size_of_byteAt found
  simp (disch := omega) only [add_eq, ok_bind]
  apply lift_bind_congr
  intro first _
  apply lift_bind_congr
  intro second _
  cases WordCategory.ofByte? byte with
  | none => rfl
  | some category => rfl

theorem readSpecialWords_eq_lift {offset : Nat} (near : offset < 0x80000000) (count : Nat) :
    readSpecialWords image offset count = lift (SpecialWords.read image offset count) := by
  unfold readSpecialWords SpecialWords.read
  simp (disch := omega) only [add_eq, ok_bind]
  rw [readCount_eq_lift (fun _ => True) (fun place _ => readSpecialWord_eq_lift small place)
    (fun _ _ _ _ => trivial) trivial]
  simp only [lift_bind, lift_pure, bind_assoc, pure_bind]

private theorem readText_eq_lift {offset place : Nat} (after : offset ≤ place) :
    readText image offset place = lift (do
      let record? ← TextBank.readText image place
      return record?.map (.ofRecord (fun place text => (place - offset, text)) place)) := by
  unfold readText TextBank.readText
  simp only [lift_bind, lift_pure, bind_assoc, pure_bind, wordAt_eq_lift small]
  apply lift_bind_congr
  intro length found
  have inside := lt_size_of_wordAt found
  have bound := length.toNat_lt
  simp (disch := omega) only [add_eq, sub_eq, clippedText_eq, ok_bind]
  refine congrArg (fun stretch => pure (some stretch)) (Stretch.ext rfl ?_)
  simp only [Stretch.ofRecord]
  omega

theorem readTextBank_eq_lift (offset stop : Nat) :
    readTextBank image offset stop = lift (TextBank.read image offset stop) := by
  have entries : readUpTo (readText image offset) stop offset = lift (do
      let bank ← TextBank.read image offset stop
      return bank.texts.entries) := by
    unfold TextBank.read
    rw [readUpTo_eq_lift (offset ≤ ·) (fun place after _ => readText_eq_lift small after)]
    · simp only [lift_bind, lift_pure, bind_assoc, pure_bind]
    · intro place record after _ _
      omega
    · exact Nat.le_refl offset
  unfold readTextBank
  rw [entries]
  simp only [lift_bind, lift_pure, bind_assoc, pure_bind]
  apply lift_bind_eq_self
  intro bank read
  have ascending := (TextBank.ascending_of_read read).1
  rw [OrderedMap.ofEntries_of_ascending (fun _ _ => Nat.lt_asymm) ascending]
  rfl

end HugoStory.Machine
