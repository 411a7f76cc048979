/-! Sixteen-bit words as a story file stores them: low byte first, and read either as an
unsigned number or in two's complement. -/
namespace HugoStory.Word

/-- The word whose low byte comes first. -/
def ofBytes (low high : UInt8) : UInt16 :=
  UInt16.ofNat (low.toNat + 256 * high.toNat)

/-- Words above 32767 stand for negative numbers. -/
def signed (word : UInt16) : Int :=
  if 32767 < word.toNat then (word.toNat : Int) - 65536 else word.toNat

theorem toNat_ofBytes (low high : UInt8) :
    (ofBytes low high).toNat = low.toNat + 256 * high.toNat := by
  have lowBound := low.toNat_lt
  have highBound := high.toNat_lt
  simp only [ofBytes, UInt16.toNat_ofNat']
  omega

theorem signed_range (word : UInt16) : -32768 ≤ signed word ∧ signed word ≤ 32767 := by
  have bound := word.toNat_lt
  unfold signed
  split <;> omega

end HugoStory.Word
