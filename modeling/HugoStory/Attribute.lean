/-! Attributes of objects. They are numbered from zero, and a set of them is stored as bits,
the lowest bit of the first byte standing for the first attribute. -/
namespace HugoStory.Attribute

def libraryNames : List String := [
  "known", "moved/visited", "static", "plural", "living", "female", "openable", "open",
  "lockable", "locked", "unfriendly", "light", "readable", "switchable", "switchedon/active",
  "clothing", "worn/mobile", "enterable", "container", "platform", "hidden", "quiet",
  "transparent"]

def name (number : Nat) : String :=
  match libraryNames[number]? with
  | some name => name
  | none => "custom (" ++ toString number ++ ")"

/-- The numbers of the bits that are set in a byte, counted from `first`. -/
def inByte (first : Nat) (byte : UInt8) : List Nat :=
  ((List.range 8).filter fun bit => byte.toNat.testBit bit).map (first + ·)

def inBytes (bytes : List UInt8) : List Nat :=
  (bytes.mapIdx fun place byte => inByte (8 * place) byte).flatten

theorem mem_inByte {first : Nat} {byte : UInt8} {number : Nat} :
    number ∈ inByte first byte ↔
      ∃ bit < 8, byte.toNat.testBit bit = true ∧ number = first + bit := by
  simp only [inByte, List.mem_map, List.mem_filter, List.mem_range]
  constructor
  · rintro ⟨bit, ⟨small, set⟩, rfl⟩
    exact ⟨bit, small, set, rfl⟩
  · rintro ⟨bit, small, set, rfl⟩
    exact ⟨bit, ⟨small, set⟩, rfl⟩

end HugoStory.Attribute
