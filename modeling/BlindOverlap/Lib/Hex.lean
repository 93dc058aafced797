import BlindOverlap.Lib.Bytes
import BlindOverlap.Lib.Fallible

/-!
# Hexadecimal text

Encoding writes two lower-case digits a byte. Decoding works on the bytes of
the text, accepts either case and reports the first offending byte with its
position; a text with an odd number of bytes is refused before any digit is
read.
-/

/-- Why a text is not the hexadecimal form of bytes. -/
inductive FromHexError where
  | invalidHexCharacter (c : Char) (index : ℕ)
  | oddLength
  | invalidStringLength
  deriving DecidableEq

namespace Hex

/-- The high digit of a byte, then the low one. -/
def encodeByte (b : UInt8) : List Char :=
  [Nat.digitChar (b.toNat / 16), Nat.digitChar (b.toNat % 16)]

def encode (l : List UInt8) : String := String.ofList (l.flatMap encodeByte)

def value (c : UInt8) (index : ℕ) : Except FromHexError UInt8 :=
  if 65 ≤ c ∧ c ≤ 70 then .ok (c - 65 + 10)
  else if 97 ≤ c ∧ c ≤ 102 then .ok (c - 97 + 10)
  else if 48 ≤ c ∧ c ≤ 57 then .ok (c - 48)
  else .error (.invalidHexCharacter (Char.ofNat c.toNat) index)

/-- Reads digits two by two, `index` being the position of the next byte. -/
def decodeBytes : ℕ → List UInt8 → Except FromHexError (List UInt8)
  | _, [] => .ok []
  | _, [_] => .error .oddLength
  | index, high :: low :: rest => do
    let h ← value high index
    let l ← value low (index + 1)
    let bytes ← decodeBytes (index + 2) rest
    return (h <<< 4 ||| l) :: bytes

/-- The whole text, refused at once when its bytes do not pair up. -/
def decode (s : String) : Except FromHexError (List UInt8) :=
  let bytes := utf8 s
  if bytes.length % 2 ≠ 0 then .error .oddLength else decodeBytes 0 bytes

/-- Decoding to an array of known length. -/
def decodeArray (n : ℕ) (s : String) : Except FromHexError (Bytes n) := do
  let bytes ← decode s
  match Bytes.ofList? n bytes with
  | some b => return b
  | none => .error .invalidStringLength

/-- The byte that spells a digit below sixteen. -/
def digitByte (n : ℕ) : UInt8 := UInt8.ofNat (Nat.digitChar n).toNat

theorem utf8EncodeChar_digitChar {n : ℕ} (hn : n < 16) :
    String.utf8EncodeChar (Nat.digitChar n) = [digitByte n] := by
  have hall : ∀ k < 16, String.utf8EncodeChar (Nat.digitChar k) = [digitByte k] := by decide
  exact hall n hn

theorem value_digitByte {n : ℕ} (hn : n < 16) (index : ℕ) :
    value (digitByte n) index = .ok (UInt8.ofNat n) := by
  interval_cases n <;> rfl

/-- A byte is its high digit shifted over its low one. -/
theorem join_digits (b : UInt8) :
    (UInt8.ofNat (b.toNat / 16) <<< 4 ||| UInt8.ofNat (b.toNat % 16)) = b := by
  have hall : ∀ n < 256, UInt8.ofNat (n / 16) <<< 4 ||| UInt8.ofNat (n % 16) = UInt8.ofNat n := by
    decide +kernel
  simpa using hall b.toNat b.toNat_lt

/-- An encoding is made of digits below sixteen. -/
theorem exists_digitChar_of_mem_encode {l : List UInt8} {c : Char} (h : c ∈ (encode l).toList) :
    ∃ n < 16, c = Nat.digitChar n := by
  rw [encode, String.toList_ofList] at h
  obtain ⟨b, -, hc⟩ := List.mem_flatMap.mp h
  have hb := b.toNat_lt
  rcases List.mem_cons.mp hc with rfl | hc
  · exact ⟨_, by omega, rfl⟩
  · exact ⟨_, by omega, List.mem_singleton.mp hc⟩

/-- The bytes of an encoding, two digits for each byte encoded. -/
theorem utf8_encode (l : List UInt8) :
    utf8 (encode l) =
      l.flatMap (fun b => [digitByte (b.toNat / 16), digitByte (b.toNat % 16)]) := by
  have hbyte : ∀ b : UInt8, (encodeByte b).flatMap String.utf8EncodeChar =
      [digitByte (b.toNat / 16), digitByte (b.toNat % 16)] := by
    intro b
    have hb := b.toNat_lt
    simp [encodeByte, utf8EncodeChar_digitChar (by omega : b.toNat / 16 < 16),
      utf8EncodeChar_digitChar (by omega : b.toNat % 16 < 16)]
  simp only [encode, utf8_ofList, List.flatMap_assoc, hbyte]

theorem decodeBytes_digits (index : ℕ) (l : List UInt8) :
    decodeBytes index
      (l.flatMap (fun b => [digitByte (b.toNat / 16), digitByte (b.toNat % 16)])) = .ok l := by
  induction l generalizing index with
  | nil => rfl
  | cons b l ih =>
    have hb := b.toNat_lt
    simp only [List.flatMap_cons, List.cons_append, List.nil_append, decodeBytes, ih,
      value_digitByte (by omega : b.toNat / 16 < 16),
      value_digitByte (by omega : b.toNat % 16 < 16)]
    exact congrArg (fun c => Except.ok (c :: l)) (join_digits b)

@[simp] theorem decode_encode (l : List UInt8) : decode (encode l) = .ok l := by
  have hlen : (utf8 (encode l)).length = 2 * l.length := by
    simp [utf8_encode, List.length_flatMap, Nat.mul_comm]
  simp only [decode, hlen, Nat.mul_mod_right, ne_eq, not_true_eq_false, if_false]
  rw [utf8_encode, decodeBytes_digits]

@[simp] theorem decodeArray_encode {n : ℕ} (b : Bytes n) :
    decodeArray n (encode b.toList) = .ok b := by
  simp [decodeArray]

/-! ## What is not hexadecimal -/

/-- The bytes that spell a digit, in either case. -/
def IsDigit (b : UInt8) : Prop := (65 ≤ b ∧ b ≤ 70) ∨ (97 ≤ b ∧ b ≤ 102) ∨ (48 ≤ b ∧ b ≤ 57)

instance (b : UInt8) : Decidable (IsDigit b) := inferInstanceAs (Decidable (_ ∨ _))

theorem isDigit_of_value {b d : UInt8} {index : ℕ} (h : value b index = .ok d) : IsDigit b := by
  unfold value at h
  split_ifs at h with hupper hlower hdecimal
  · exact .inl hupper
  · exact .inr (.inl hlower)
  · exact .inr (.inr hdecimal)

theorem isDigit_of_decodeBytes {index : ℕ} {bytes l : List UInt8}
    (h : decodeBytes index bytes = .ok l) : ∀ b ∈ bytes, IsDigit b := by
  induction index, bytes using decodeBytes.induct generalizing l with
  | case1 index => exact nofun
  | case2 index b => cases h
  | case3 index high low rest ih =>
    obtain ⟨hi, hhigh, h⟩ := Except.bind_eq_ok_iff.mp h
    obtain ⟨lo, hlow, h⟩ := Except.bind_eq_ok_iff.mp h
    obtain ⟨more, hrest, -⟩ := Except.bind_eq_ok_iff.mp h
    exact List.forall_mem_cons.mpr ⟨isDigit_of_value hhigh,
      List.forall_mem_cons.mpr ⟨isDigit_of_value hlow, ih hrest⟩⟩

/-- A text with a character that is no digit is refused. -/
theorem decode_ne_ok {s : String} {c : Char} (hc : c ∈ s.toList)
    (hdigit : ∃ b ∈ String.utf8EncodeChar c, ¬ IsDigit b) (l : List UInt8) : decode s ≠ .ok l := by
  intro h
  obtain ⟨b, hb, hnot⟩ := hdigit
  have hmem : b ∈ utf8 s := by
    rw [← String.ofList_toList (s := s), utf8_ofList]
    exact List.mem_flatMap.mpr ⟨c, hc, hb⟩
  have hbytes : decodeBytes 0 (utf8 s) = .ok l := by
    simp only [decode] at h
    split_ifs at h
    exact h
  exact hnot (isDigit_of_decodeBytes hbytes b hmem)

end Hex
