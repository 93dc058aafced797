import BlindOverlap.Lib.Framing
import BlindOverlap.Lib.JsonText

/-!
# The third-party crates

The code relies on hashing, curve arithmetic, signatures and JSON text that it
does not contain. Each operation is a field, and nothing is assumed of it here:
what a result needs is a named hypothesis of that result.
-/
namespace BlindOverlap

/-- The operations taken from other crates. Scalars handed to the curve are
already clamped, and points are u-coordinates. -/
structure Crates where
  sha256 : List UInt8 → Bytes 32
  hmacSha256 : List UInt8 → List UInt8 → Bytes 32
  montgomeryMul : Bytes 32 → Bytes 32 → Bytes 32
  montgomeryMulBase : Bytes 32 → Bytes 32
  /-- Decoding a verifying key, with the text of the error. -/
  verifyingKeyFromBytes : Bytes 32 → Except String Unit
  verifyingKey : Bytes 32 → Bytes 32
  ed25519Sign : Bytes 32 → List UInt8 → Bytes 64
  ed25519Verify : Bytes 32 → List UInt8 → Bytes 64 → Bool
  jsonToString : Json → String
  jsonToStringPretty : Json → String
  /-- Parsing a text into the value it prints, if it is JSON at all. -/
  jsonFromStr : String → Option Json

/-- `clamp_integer`: clears the low three bits of the first byte and the top bit
of the last, and sets the bit below. -/
def clampInteger (b : Bytes 32) : Bytes 32 where
  toList := (b.toList.modify 0 (· &&& 248)).modify 31 (fun last => last &&& 127 ||| 64)
  length_toList := by simp [b.length_toList]

/-- An x25519 secret keeps the bytes it was made from. -/
abbrev StaticSecret := Bytes 32

abbrev PublicKey := Bytes 32

namespace Crates

/-- `PublicKey::from(&secret)`: the clamped secret times the base point. -/
def publicKey (K : Crates) (secret : StaticSecret) : PublicKey :=
  K.montgomeryMulBase (clampInteger secret)

/-- `secret.diffie_hellman(&point).to_bytes()`, clamping the secret again. -/
def diffieHellman (K : Crates) (secret : StaticSecret) (point : PublicKey) : Bytes 32 :=
  K.montgomeryMul (clampInteger secret) point

/-- Parses a text and reads a value from it, errors of both kinds being JSON errors. -/
def fromStr {α : Type} (K : Crates) (read : Json → Except DecodeError α) (text : String) :
    Except JsonError α :=
  match K.jsonFromStr text with
  | none => .error .malformed
  | some j =>
    match read j with
    | .error e => .error (.data e)
    | .ok a => .ok a

/-- How deep a value may be nested to be parsed: `serde_json` gives up at 128. -/
def nestingLimit : ℕ := 127

/-- Indented texts parse to the value they were printed from, doubles apart. -/
def ParsesPretty (K : Crates) : Prop :=
  ∀ j, JsonText.Storable nestingLimit j → K.jsonFromStr (K.jsonToStringPretty j) = some j

/-- Compact texts parse to the value they were printed from, doubles apart. -/
def ParsesCompact (K : Crates) : Prop :=
  ∀ j, JsonText.Storable nestingLimit j → K.jsonFromStr (K.jsonToString j) = some j

/-- No text parses to a value that is nested deeper. -/
def ReadsShallow (K : Crates) : Prop :=
  ∀ text j, K.jsonFromStr text = some j → JsonText.nesting j ≤ nestingLimit

/-- Compact texts have one line and no spaces between their tokens, doubles apart. -/
def PrintsCompact (K : Crates) : Prop :=
  ∀ j, JsonText.plain j = true → K.jsonToString j = JsonText.toText JsonText.compact j

/-- Indented texts have a line for each item, by two spaces a level, doubles apart. -/
def PrintsPretty (K : Crates) : Prop :=
  ∀ j, JsonText.plain j = true → K.jsonToStringPretty j = JsonText.toText JsonText.pretty j

/-- Indented texts of objects open with a brace. -/
def OpensObjects (K : Crates) : Prop :=
  ∀ members, ∃ rest, (K.jsonToStringPretty (.object members)).toList = '\x7b' :: rest

/-- Ideal signatures, at one pair of messages: what was signed for one of them verifies
for the other only if they are the same. -/
def SignsOnly (K : Crates) (seed : Bytes 32) (signed message : List UInt8) : Prop :=
  K.ed25519Verify (K.verifyingKey seed) message (K.ed25519Sign seed signed) = true →
    message = signed

/-- The hash does not collide among the given inputs. -/
def CollisionFree (K : Crates) (inputs : Set (List UInt8)) : Prop := Set.InjOn K.sha256 inputs

theorem collisionFree_pair {K : Crates} {a b : List UInt8} (h : K.sha256 a ≠ K.sha256 b) :
    K.CollisionFree {a, b} := by
  rintro x (rfl | rfl) y (rfl | rfl) hxy
  · rfl
  · exact absurd hxy h
  · exact absurd hxy.symm h
  · rfl

theorem fromStr_pretty {α : Type} {K : Crates} (hK : K.ParsesPretty)
    (read : Json → Except DecodeError α) {j : Json} (hj : JsonText.Storable nestingLimit j) :
    K.fromStr read (K.jsonToStringPretty j) =
      match read j with
      | .error e => .error (.data e)
      | .ok a => .ok a := by
  rw [fromStr, hK j hj]

end Crates

end BlindOverlap
