import Mathlib

/-!
# Byte strings of a fixed length

`Bytes n` is an array of exactly `n` bytes, the length being a field of the
value. Arrays are compared byte by byte from the left, as unsigned numbers.
The little-endian and UTF-8 encodings produce plain lists of bytes, to be
concatenated into messages of any length.
-/

structure Bytes (n : ℕ) where
  toList : List UInt8
  length_toList : toList.length = n
  deriving DecidableEq, Hashable

namespace Bytes

theorem toList_injective {n : ℕ} : Function.Injective (toList (n := n)) := by
  rintro ⟨a, ha⟩ ⟨b, hb⟩ h
  simpa using h

/-- Lexicographic order, the unsigned value of each byte deciding. -/
instance (n : ℕ) : LinearOrder (Bytes n) :=
  LinearOrder.lift' (fun b => b.toList.map UInt8.toNat) (by
    intro a b h
    have hinj : Function.Injective UInt8.toNat := fun _ _ he => UInt8.toNat_inj.mp he
    exact toList_injective (List.map_injective_iff.mpr hinj h))

/-- Conversion of a slice to an array, possible at exactly one length. -/
def ofList? (n : ℕ) (l : List UInt8) : Option (Bytes n) :=
  if h : l.length = n then some ⟨l, h⟩ else none

@[simp] theorem ofList?_toList {n : ℕ} (b : Bytes n) : ofList? n b.toList = some b := by
  simp [ofList?, b.length_toList]

theorem ofList?_eq_some_iff {n : ℕ} {l : List UInt8} {b : Bytes n} :
    ofList? n l = some b ↔ l = b.toList := by
  constructor
  · intro h
    unfold ofList? at h
    split_ifs at h
    exact congrArg toList (Option.some.inj h)
  · rintro rfl
    exact ofList?_toList b

def zero (n : ℕ) : Bytes n := ⟨List.replicate n 0, List.length_replicate⟩

instance (n : ℕ) : Inhabited (Bytes n) := ⟨zero n⟩

end Bytes

/-- The `width` low bytes of a number, least significant first. -/
def leBytes : ℕ → ℕ → List UInt8
  | 0, _ => []
  | width + 1, n => UInt8.ofNat n :: leBytes width (n / 256)

@[simp] theorem length_leBytes (width n : ℕ) : (leBytes width n).length = width := by
  induction width generalizing n with
  | zero => rfl
  | succ width ih => rw [leBytes, List.length_cons, ih]

/-- The UTF-8 encoding of a text. -/
def utf8 (s : String) : List UInt8 := s.toUTF8.data.toList

theorem utf8_ofList (l : List Char) : utf8 (String.ofList l) = l.flatMap String.utf8EncodeChar := by
  simp [utf8, String.toByteArray_ofList, List.utf8Encode]

/-- Different texts are encoded differently. -/
theorem utf8_injective : Function.Injective utf8 := by
  intro s t h
  exact String.toByteArray_inj.mp (ByteArray.ext (Array.toList_inj.mp h))

theorem utf8_append (s t : String) : utf8 (s ++ t) = utf8 s ++ utf8 t := by
  simp [utf8]

theorem utf8_ne_nil {s : String} (h : s ≠ "") : utf8 s ≠ [] := fun hnil => h (utf8_injective hnil)
