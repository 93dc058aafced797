import Mathlib

/-!
# Base64 text

Three bytes are written as four characters of the standard alphabet. The last group is
filled up with padding characters.
-/
namespace Base64

/-- Upper case, lower case, decimal digits and two signs. -/
def digit (n : ℕ) : Char :=
  if n < 26 then Char.ofNat (n + 65)
  else if n < 52 then Char.ofNat (n + 71)
  else if n < 62 then Char.ofNat (n - 4)
  else if n = 62 then '+'
  else '/'

def encodeChars : List UInt8 → List Char
  | [] => []
  | [a] => [digit (a.toNat / 4), digit (a.toNat % 4 * 16), '=', '=']
  | [a, b] =>
    [digit (a.toNat / 4), digit (a.toNat % 4 * 16 + b.toNat / 16), digit (b.toNat % 16 * 4), '=']
  | a :: b :: c :: rest =>
    digit (a.toNat / 4) :: digit (a.toNat % 4 * 16 + b.toNat / 16) ::
      digit (b.toNat % 16 * 4 + c.toNat / 64) :: digit (c.toNat % 64) :: encodeChars rest

def encode (l : List UInt8) : String := String.ofList (encodeChars l)

/-- A digit or padding. -/
def IsBase64 (c : Char) : Prop := (∃ n < 64, c = digit n) ∨ c = '='

theorem isBase64_digit (n : ℕ) : IsBase64 (digit n) := by
  by_cases hn : n < 64
  · exact .inl ⟨n, hn, rfl⟩
  · have hslash : digit n = '/' := by
      simp only [digit]
      rw [if_neg (by omega), if_neg (by omega), if_neg (by omega), if_neg (by omega)]
    exact .inl ⟨63, by decide, hslash⟩

theorem isBase64_of_mem {l : List UInt8} : ∀ c ∈ (encode l).toList, IsBase64 c := by
  rw [encode, String.toList_ofList]
  induction l using encodeChars.induct with
  | case1 => simp [encodeChars]
  | case2 a =>
    simp only [encodeChars, List.forall_mem_cons]
    exact ⟨isBase64_digit _, isBase64_digit _, .inr rfl, .inr rfl, nofun⟩
  | case3 a b =>
    simp only [encodeChars, List.forall_mem_cons]
    exact ⟨isBase64_digit _, isBase64_digit _, isBase64_digit _, .inr rfl, nofun⟩
  | case4 a b c rest ih =>
    simp only [encodeChars, List.forall_mem_cons]
    exact ⟨isBase64_digit _, isBase64_digit _, isBase64_digit _, isBase64_digit _, ih⟩

/-- Padding is written unless the bytes come in threes. -/
theorem padding_mem {l : List UInt8} (h : l.length % 3 ≠ 0) : '=' ∈ (encode l).toList := by
  rw [encode, String.toList_ofList]
  induction l using encodeChars.induct with
  | case1 => exact absurd rfl h
  | case2 a => simp [encodeChars]
  | case3 a b => simp [encodeChars]
  | case4 a b c rest ih =>
    have hrest : rest.length % 3 ≠ 0 := by
      simp only [List.length_cons] at h
      omega
    simp [encodeChars, ih hrest]

end Base64
