/-! Compiler versions. The first byte of a story file names the version of the compiler
that wrote it, in tenths. -/
namespace HugoStory

/-- A compiler version, counted in tenths: 31 is version 3.1. -/
structure Version where
  tenths : Nat
deriving DecidableEq, Repr

namespace Version

/-- The one version whose story files are understood. -/
def supported : Version := ⟨31⟩

/-- Versions 1 and 2 were written before the byte counted tenths. -/
def ofByte (byte : UInt8) : Version :=
  if byte = 1 ∨ byte = 2 then ⟨byte.toNat * 10⟩ else ⟨byte.toNat⟩

def major (version : Version) : Nat := version.tenths / 10

def minor (version : Version) : Nat := version.tenths % 10

def toText (version : Version) : String :=
  toString version.major ++ "." ++ toString version.minor

theorem ofByte_eq_supported_iff (byte : UInt8) : ofByte byte = supported ↔ byte = 31 := by
  unfold ofByte supported
  constructor
  · intro same
    split at same
    · rename_i early
      rcases early with rfl | rfl <;> simp at same
    · simp only [mk.injEq] at same
      exact UInt8.toNat_inj.mp same
  · rintro rfl
    rfl

end Version

end HugoStory
