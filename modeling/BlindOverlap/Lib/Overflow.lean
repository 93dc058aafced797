import Mathlib

/-!
# Unchecked additions of machine integers

Compiled for release a sum that does not fit wraps around, compiled for debugging it
panics. Either way the sum is no smaller than what was added to exactly when it fits.
-/

namespace UInt64

theorem le_add_iff (a b : UInt64) : a ≤ a + b ↔ a.toNat + b.toNat < UInt64.size := by
  have ha := a.toNat_lt
  have hb := b.toNat_lt
  rw [UInt64.le_iff_toNat_le, UInt64.toNat_add]
  simp only [UInt64.size]
  omega

theorem lt_add_iff {a b : UInt64} (h : 1 ≤ b) : a < a + b ↔ a.toNat + b.toNat < UInt64.size := by
  have ha := a.toNat_lt
  have hb := b.toNat_lt
  have hpos : 1 ≤ b.toNat := UInt64.le_iff_toNat_le.mp h
  rw [UInt64.lt_iff_toNat_lt, UInt64.toNat_add]
  simp only [UInt64.size]
  omega

end UInt64

theorem UInt32.lt_add_one_iff (a : UInt32) : a < a + 1 ↔ a.toNat + 1 < UInt32.size := by
  have ha := a.toNat_lt
  have hone : (1 : UInt32).toNat = 1 := rfl
  rw [UInt32.lt_iff_toNat_lt, UInt32.toNat_add, hone]
  simp only [UInt32.size]
  omega

/-- What becomes of a sum that does not fit. -/
inductive Build where
  | release
  | debug

namespace Build

/-- The sum of two machine integers; `none` is a panic. -/
def addU64 (build : Build) (a b : UInt64) : Option UInt64 :=
  match build with
  | .release => some (a + b)
  | .debug => if a.toNat + b.toNat < UInt64.size then some (a + b) else none

def addU32 (build : Build) (a b : UInt32) : Option UInt32 :=
  match build with
  | .release => some (a + b)
  | .debug => if a.toNat + b.toNat < UInt32.size then some (a + b) else none

variable {build : Build}

theorem addU64_of_lt {a b : UInt64} (h : a.toNat + b.toNat < UInt64.size) :
    build.addU64 a b = some (a + b) := by
  cases build with
  | release => rfl
  | debug => exact if_pos h

theorem addU32_of_lt {a b : UInt32} (h : a.toNat + b.toNat < UInt32.size) :
    build.addU32 a b = some (a + b) := by
  cases build with
  | release => rfl
  | debug => exact if_pos h

end Build
