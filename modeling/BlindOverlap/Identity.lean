import BlindOverlap.Crates

/-!
# Party identities

Ed25519 keys that sign and verify messages under one domain prefix.
-/
namespace BlindOverlap

/-- The domain that precedes every signed message. -/
def identityDomain : List UInt8 := utf8 "BlindOverlap:PartyIdentity:v1"

/-- Why a key is refused or a signature fails; errors of hexadecimal and JSON are wrapped. -/
inductive IdentityError where
  | invalidKeypair (reason : String)
  | invalidPublicKey (reason : String)
  | verificationFailed
  | hexDecode (e : FromHexError)
  | json (e : JsonError)
  deriving DecidableEq

/-- A verifying key by its bytes. The type is free, and whether the bytes decode to a point
is a question for the signature crate. -/
structure PublicIdentity where
  bytes : Bytes 32
  deriving DecidableEq

namespace PublicIdentity

theorem bytes_selfDelimiting :
    Framing.SelfDelimiting (fun p : PublicIdentity => p.bytes.toList) :=
  (Framing.SelfDelimiting.bytes 32).comp (fun _ _ => congrArg PublicIdentity.mk)

/-- Only bytes that decode to a point are taken. -/
def fromBytes (K : Crates) (bytes : Bytes 32) : Except IdentityError PublicIdentity :=
  match K.verifyingKeyFromBytes bytes with
  | .error e => .error (.invalidPublicKey e)
  | .ok () => .ok ⟨bytes⟩

def toHex (p : PublicIdentity) : String := Hex.encode p.bytes.toList

/-- The text is decoded, its length is checked, and then the point; each of the three has an
error of its own. -/
def fromHex (K : Crates) (s : String) : Except IdentityError PublicIdentity :=
  match Hex.decode s with
  | .error e => .error (.hexDecode e)
  | .ok bytes =>
    match Bytes.ofList? 32 bytes with
    | none => .error (.invalidPublicKey "expected 32 bytes")
    | some bytes => fromBytes K bytes

/-- Verification decodes the key again and prefixes the message with the domain. -/
def verify (K : Crates) (p : PublicIdentity) (message : List UInt8) (signature : Bytes 64) :
    Except IdentityError Unit :=
  match K.verifyingKeyFromBytes p.bytes with
  | .error e => .error (.invalidPublicKey e)
  | .ok () =>
    if K.ed25519Verify p.bytes (identityDomain ++ message) signature then .ok ()
    else .error .verificationFailed

/-- A message is verified when the key decodes and the crate accepts the prefixed message. -/
theorem verify_eq_ok_iff {K : Crates} {p : PublicIdentity} {message : List UInt8}
    {signature : Bytes 64} :
    p.verify K message signature = .ok () ↔ K.verifyingKeyFromBytes p.bytes = .ok () ∧
      K.ed25519Verify p.bytes (identityDomain ++ message) signature = true := by
  unfold verify
  cases hkey : K.verifyingKeyFromBytes p.bytes with
  | error e => simp
  | ok u => by_cases hv : K.ed25519Verify p.bytes (identityDomain ++ message) signature = true <;>
      simp [hv]

theorem fromHex_toHex (K : Crates) (p : PublicIdentity) :
    fromHex K p.toHex = fromBytes K p.bytes := by
  simp [fromHex, toHex]

end PublicIdentity

/-- A signing key by its seed; the public half is computed from it. -/
structure PartyIdentity where
  seed : Bytes 32

namespace PartyIdentity

def fromSeed (seed : Bytes 32) : PartyIdentity := ⟨seed⟩

/-- A seed of another length is an invalid key pair. -/
def fromSeedHex (s : String) : Except IdentityError PartyIdentity :=
  match Hex.decode s with
  | .error e => .error (.hexDecode e)
  | .ok bytes =>
    match Bytes.ofList? 32 bytes with
    | none => .error (.invalidKeypair "expected 32 bytes")
    | some seed => .ok (fromSeed seed)

/-- The public half of the key. -/
def publicIdentity (K : Crates) (p : PartyIdentity) : PublicIdentity := ⟨K.verifyingKey p.seed⟩

/-- The message is prefixed with the domain, as it is when it is verified. -/
def sign (K : Crates) (p : PartyIdentity) (message : List UInt8) : Bytes 64 :=
  K.ed25519Sign p.seed (identityDomain ++ message)

def seedHex (p : PartyIdentity) : String := Hex.encode p.seed.toList

/-- A key pair as Ed25519 makes it: the public half decodes and verifies what the
secret half signs. -/
structure Proper (K : Crates) (p : PartyIdentity) : Prop where
  decodes : K.verifyingKeyFromBytes (K.verifyingKey p.seed) = .ok ()
  verifies : ∀ message,
    K.ed25519Verify (K.verifyingKey p.seed) message (K.ed25519Sign p.seed message) = true

/-- What a proper key pair signs is verified under its public half. -/
theorem Proper.verify_sign {K : Crates} {p : PartyIdentity} (h : p.Proper K)
    (message : List UInt8) :
    (p.publicIdentity K).verify K message (p.sign K message) = .ok () := by
  simp [PublicIdentity.verify, publicIdentity, sign, h.decodes, h.verifies]

end PartyIdentity

/-! ## Identity files -/

/-- The file of an identity. Both halves are texts, and nothing ties one to the other. -/
structure StoredIdentity where
  version : UInt8
  publicKeyHex : String
  seedHex : String

namespace StoredIdentity

def fieldNames : List String := ["version", "public_key_hex", "seed_hex"]

def fields (s : StoredIdentity) : List (String × Option Json) :=
  [("version", some (Json.ofUInt8 s.version)), ("public_key_hex", some (.string s.publicKeyHex)),
    ("seed_hex", some (.string s.seedHex))]

def toJson (s : StoredIdentity) : Json := Json.record s.fields

/-- Members that the record does not know are skipped, and one that is missing or of another
type is an error. -/
def fromJson (j : Json) : Except DecodeError StoredIdentity := do
  match ← Json.slots fieldNames j with
  | [version, publicKeyHex, seedHex] =>
    return {
      version := ← version.required "version" Json.asUInt8
      publicKeyHex := ← publicKeyHex.required "public_key_hex" Json.asString
      seedHex := ← seedHex.required "seed_hex" Json.asString }
  | _ => throw .invalidLength

theorem fromJson_toJson (s : StoredIdentity) : fromJson s.toJson = .ok s := by
  have hslots : Json.slots (s.fields.map Prod.fst) (Json.record s.fields) = .ok _ :=
    Json.slots_record (show fieldNames.Nodup by decide)
  rw [fromJson, toJson, show fieldNames = s.fields.map Prod.fst from rfl, hslots]
  simp [fields]

theorem storable_toJson (n : ℕ) (s : StoredIdentity) : JsonText.Storable (n + 1) s.toJson := by
  refine JsonText.storable_record ?_
  simp [fields]

end StoredIdentity

namespace PartyIdentity

/-- What the file holds; writing it is taken to succeed. -/
def saveToFile (K : Crates) (p : PartyIdentity) : String :=
  K.jsonToStringPretty
    (StoredIdentity.toJson ⟨1, (p.publicIdentity K).toHex, p.seedHex⟩)

/-- Only the seed is used; the public key beside it is not compared. -/
def loadFromFile (K : Crates) (contents : String) : Except IdentityError PartyIdentity :=
  match K.fromStr StoredIdentity.fromJson contents with
  | .error e => .error (.json e)
  | .ok stored => fromSeedHex stored.seedHex

theorem loadFromFile_saveToFile {K : Crates} (hK : K.ParsesPretty) (p : PartyIdentity) :
    loadFromFile K (p.saveToFile K) = .ok p := by
  rw [loadFromFile, saveToFile, Crates.fromStr_pretty hK _ (StoredIdentity.storable_toJson _ _),
    StoredIdentity.fromJson_toJson]
  simp [fromSeedHex, seedHex, fromSeed]

end PartyIdentity

end BlindOverlap
