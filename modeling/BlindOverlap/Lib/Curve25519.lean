import BlindOverlap.Lib.Bytes

/-!
# Scalar multiplication on Curve25519

The Montgomery ladder on u-coordinates, over natural numbers reduced modulo the
prime. Scalars and coordinates are little-endian byte strings.
-/
namespace Curve25519

def prime : ℕ := 2 ^ 255 - 19

def add (a b : ℕ) : ℕ := (a + b) % prime

def sub (a b : ℕ) : ℕ := (a + (prime - b)) % prime

def mul (a b : ℕ) : ℕ := a * b % prime

/-- The bits of a number below `2 ^ width`, most significant first. -/
def bits : ℕ → ℕ → List Bool
  | 0, _ => []
  | width + 1, n => n.testBit width :: bits width n

def pow (a e : ℕ) : ℕ :=
  (bits 255 e).foldl (fun acc bit => if bit then mul (mul acc acc) a else mul acc acc) 1

/-- Two neighbouring multiples of a point, in projective coordinates. -/
structure Rungs where
  x2 : ℕ
  z2 : ℕ
  x3 : ℕ
  z3 : ℕ

/-- Doubles the first multiple and adds both, whose difference is `u`. -/
def Rungs.advance (u : ℕ) (r : Rungs) : Rungs :=
  let a := add r.x2 r.z2
  let aa := mul a a
  let b := sub r.x2 r.z2
  let bb := mul b b
  let e := sub aa bb
  let da := mul (sub r.x3 r.z3) a
  let cb := mul (add r.x3 r.z3) b
  let sum := add da cb
  let difference := sub da cb
  ⟨mul aa bb, mul e (add aa (mul 121665 e)), mul sum sum, mul u (mul difference difference)⟩

def Rungs.swap (r : Rungs) : Rungs := ⟨r.x3, r.z3, r.x2, r.z2⟩

def Rungs.step (u : ℕ) (r : Rungs) (bit : Bool) : Rungs :=
  if bit then (r.swap.advance u).swap else r.advance u

def ladder (scalar u : ℕ) : ℕ :=
  let r := (bits 255 scalar).foldl (Rungs.step u) ⟨1, 0, u, 1⟩
  mul r.x2 (pow r.z2 (prime - 2))

theorem length_leBytes (width n : ℕ) : (leBytes width n).length = width := by
  induction width generalizing n with
  | zero => rfl
  | succ width ih => simp [leBytes, ih]

def ofLeBytes (l : List UInt8) : ℕ := l.foldr (fun b n => b.toNat + 256 * n) 0

/-- The coordinate's top bit is ignored. -/
def scalarMul (scalar point : Bytes 32) : Bytes 32 :=
  ⟨leBytes 32 (ladder (ofLeBytes scalar.toList) (ofLeBytes point.toList % 2 ^ 255 % prime)),
    length_leBytes 32 _⟩

def basePoint : Bytes 32 := ⟨9 :: List.replicate 31 0, rfl⟩

def scalarMulBase (scalar : Bytes 32) : Bytes 32 := scalarMul scalar basePoint

end Curve25519
