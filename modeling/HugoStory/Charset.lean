/-! The character set of a story file. Each byte of a word or a text stands for the
character twenty code points below it; the first twenty bytes wrap around to the end of
the basic plane. -/
namespace HugoStory.Charset

def codePoint (byte : UInt8) : Nat := (byte.toNat + 65516) % 65536

/-- Code points 0 to 235 and U+FFEC to U+FFFF, none of which is a surrogate. -/
theorem codePoint_valid (byte : UInt8) : (codePoint byte).isValidChar := by
  have bound := byte.toNat_lt
  unfold codePoint Nat.isValidChar
  omega

def decode (byte : UInt8) : Char :=
  Char.ofNatAux (codePoint byte) (codePoint_valid byte)

def decodeText (bytes : List UInt8) : String :=
  String.ofList (bytes.map decode)

theorem toNat_decode (byte : UInt8) : (decode byte).toNat = codePoint byte := rfl

theorem decode_inj {byte byte' : UInt8} : decode byte = decode byte' ↔ byte = byte' := by
  constructor
  · intro same
    have points := congrArg Char.toNat same
    rw [toNat_decode, toNat_decode] at points
    have bound := byte.toNat_lt
    have bound' := byte'.toNat_lt
    unfold codePoint at points
    exact UInt8.toNat_inj.mp (by omega)
  · rintro rfl
    rfl

theorem length_decodeText (bytes : List UInt8) : (decodeText bytes).length = bytes.length := by
  simp [decodeText]

end HugoStory.Charset
