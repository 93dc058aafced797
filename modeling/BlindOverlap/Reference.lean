import BlindOverlap.FactId
import BlindOverlap.Identity
import BlindOverlap.Lib.Curve25519
import BlindOverlap.Lib.Sha256

/-!
# Crates for concrete runs

Hashing, the curve and JSON texts are computed as the real crates do. Signatures
are a stand-in: a keyed hash that anyone can make, with the interface of Ed25519.
-/
namespace BlindOverlap

/-- The stand-in for a signature: a hash of the key and the message. -/
def standInSignature (key : Bytes 32) (message : List UInt8) : Bytes 64 where
  toList := (Sha256.sha256 (key.toList ++ message)).toList ++ List.replicate 32 0
  length_toList := by simp [Bytes.length_toList]

def Crates.reference : Crates where
  sha256 := Sha256.sha256
  hmacSha256 := Sha256.hmac
  montgomeryMul := Curve25519.scalarMul
  montgomeryMulBase := Curve25519.scalarMulBase
  verifyingKeyFromBytes _ := .ok ()
  verifyingKey seed := Sha256.sha256 seed.toList
  ed25519Sign seed message := standInSignature (Sha256.sha256 seed.toList) message
  ed25519Verify key message signature := decide (signature = standInSignature key message)
  jsonToString := JsonText.toText JsonText.compact
  jsonToStringPretty := JsonText.toText JsonText.pretty
  jsonFromStr text :=
    (JsonText.ofText text).filter (fun j => JsonText.nesting j ≤ Crates.nestingLimit)

namespace Crates

theorem reference_pretty (j : Json) :
    reference.jsonToStringPretty j = JsonText.toText JsonText.pretty j := rfl

theorem reference_fromStr_toText (l : JsonText.Layout) {j : Json}
    (hj : JsonText.Storable nestingLimit j) :
    reference.jsonFromStr (JsonText.toText l j) = some j := by
  change (JsonText.ofText (JsonText.toText l j)).filter _ = some j
  rw [JsonText.ofText_toText l hj.plain, Option.filter_some, if_pos (decide_eq_true hj.nesting_le)]

theorem reference_parsesPretty : reference.ParsesPretty :=
  fun _ hj => reference_fromStr_toText JsonText.pretty hj

theorem reference_parsesCompact : reference.ParsesCompact :=
  fun _ hj => reference_fromStr_toText JsonText.compact hj

theorem reference_readsShallow : reference.ReadsShallow := by
  intro text j h
  exact of_decide_eq_true (Option.filter_eq_some_iff.mp h).2

theorem reference_printsCompact : reference.PrintsCompact := fun _ _ => rfl

theorem reference_printsPretty : reference.PrintsPretty := fun _ _ => rfl

theorem reference_opensObjects : reference.OpensObjects := by
  intro members
  rw [reference_pretty, JsonText.toText, String.toList_ofList]
  cases members with
  | nil => exact ⟨_, rfl⟩
  | cons m members =>
    rw [JsonText.print]
    exact ⟨_, rfl⟩

theorem reference_proper (p : PartyIdentity) : p.Proper reference where
  decodes := rfl
  verifies _ := decide_eq_true rfl

end Crates

/-- An array of one repeated byte. -/
def filled (b : UInt8) : Bytes 32 := ⟨List.replicate 32 b, List.length_replicate⟩

/-- An array that a text of 32 bytes spells out. -/
def spelled (s : String) : Bytes 32 := (Bytes.ofList? 32 (utf8 s)).getD (Bytes.zero 32)

/-! ## Points of concrete runs

Two secrets and the points of three identifiers, under each secret and both. The
ladder is evaluated once for each of them, on points already in normal form. -/

/-- A point spelled in hexadecimal. -/
def point (s : String) : Bytes 32 :=
  (Bytes.ofList? 32 ((Hex.decode s).toOption.getD [])).getD (Bytes.zero 32)

/-- What becomes of one identifier: its point, under either secret, under both. -/
structure SamplePoints where
  plain : Bytes 32
  underA : Bytes 32
  underB : Bytes 32
  underBoth : Bytes 32

def sampleSecretA : StaticSecret := filled 17

def sampleSecretB : StaticSecret := filled 33

def pointsOfFive : SamplePoints where
  plain := point "50a61409b1ddd0325e9b16b700e719e9772c07000b1bd7786e907c653d20495d"
  underA := point "5cf04591101f9ef60a7b4d368e9985ac7f649e1d8ea09054e273ffdd80d1814d"
  underB := point "c01a3aca18ed9feffc546638f9592d59e1be17474de385dcc2bb62c307168e48"
  underBoth := point "3845af836dd34fb3f26504a421df7b0ac27b5cf3d517c3163d8aa7354b16ae05"

def pointsOfThree : SamplePoints where
  plain := point "5dfedd3b6bd47f6fa28ee15d969d5bb0ea53774d488bdaf9df1c6e0124b3ef22"
  underA := point "9c52d240b45283880916698fe092a465ba785966bb750709ec883ea5c6623c2e"
  underB := point "d2b021563cde7b6d6f1ce58c427a2a3caacb02f0eb1fbf5b82d3dca2fce1ad76"
  underBoth := point "c1694668cf1a3d2f7cbbeef72600a573c6071955456d6bb3bee2349078c68035"

def pointsOfZero : SamplePoints where
  plain := point "2fe57da347cd62431528daac5fbb290730fff684afc4cfc2ed90995f58cb3b74"
  underA := point "6ffd4d51f874c5da9126d9c8badf01970aa000741b9fc68025eba5cd557b1a07"
  underB := point "54a57ae26cce680916295e4efce5bdeb22fdc79d63872964623ee08016a12734"
  underBoth := point "6ec76bf78931747ebcf375be696ac0e9a7b21fd494c6b37358931c796014d575"

/-- The points of an identifier are what the curve makes of it. -/
structure SamplePoints.Of (p : SamplePoints) (id : FactId) : Prop where
  plain : Crates.reference.publicKey id = p.plain
  underA : Crates.reference.diffieHellman sampleSecretA p.plain = p.underA
  underB : Crates.reference.diffieHellman sampleSecretB p.plain = p.underB
  ofA : Crates.reference.diffieHellman sampleSecretB p.underA = p.underBoth
  ofB : Crates.reference.diffieHellman sampleSecretA p.underB = p.underBoth

theorem pointsOfFive_of : pointsOfFive.Of (filled 5) :=
  ⟨by decide +kernel, by decide +kernel, by decide +kernel, by decide +kernel, by decide +kernel⟩

theorem pointsOfThree_of : pointsOfThree.Of (filled 3) :=
  ⟨by decide +kernel, by decide +kernel, by decide +kernel, by decide +kernel, by decide +kernel⟩

theorem pointsOfZero_of : pointsOfZero.Of (Bytes.zero 32) :=
  ⟨by decide +kernel, by decide +kernel, by decide +kernel, by decide +kernel, by decide +kernel⟩

end BlindOverlap
