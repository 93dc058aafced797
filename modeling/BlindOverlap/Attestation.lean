import BlindOverlap.Freshness
import BlindOverlap.Identity
import BlindOverlap.Lib.Fallible
import BlindOverlap.Protocol

/-!
# Attestations

A signed claim about an outcome, which a third party can verify and a second party can
sign as well. Both signatures are over a hash of the claim.
-/
namespace BlindOverlap

/-- The domain of attestations, which stands in front of what is hashed and again in front of
what is signed. -/
def attestationDomain : List UInt8 := utf8 "blindoverlap-attest-v1"

/-- What an attestation is about: the common identifiers by their root, or only their number. -/
inductive AttestationMode where
  | intersection
  | cardinality
  deriving DecidableEq

namespace AttestationMode

def ofMode : IntersectionMode → AttestationMode
  | .intersection => .intersection
  | .cardinality => .cardinality

/-- The text that stands for a mode in the signed body. -/
def modeText : AttestationMode → String
  | .intersection => "intersection"
  | .cardinality => "cardinality"

end AttestationMode

inductive AttestationError where
  | expired (issuedAt expiresAt now : UInt64)
  | invalidSignature
  | issuerMismatch (expected got : String)
  | sessionMismatch (expected got : String)
  | missingField (field : String)
  deriving DecidableEq

/-- A signed claim about an outcome. The type does not tie the mode to the root or the number,
which only the two constructors do. -/
structure OverlapAttestation where
  version : UInt8
  sessionId : Option String
  mode : AttestationMode
  setRootA : Bytes 32
  setRootB : Bytes 32
  intersectionRoot : Option (Bytes 32)
  cardinality : Option UInt64
  transcriptDigest : Option TranscriptDigest
  issuedAt : UInt64
  expiresAt : UInt64
  issuerPubkey : PublicIdentity
  signature : Bytes 64
  coSignerPubkey : Option PublicIdentity
  coSignature : Option (Bytes 64)
  deriving DecidableEq

namespace OverlapAttestation

/-- An attestation is good for an hour when nothing else is asked. -/
def defaultTtlSecs : UInt64 := 3600

/-- The bytes that are hashed: labelled parts, some of them optional. -/
def signingInput (a : OverlapAttestation) : List UInt8 :=
  attestationDomain ++ utf8 ":version:" ++ [a.version] ++
    a.sessionId.elim [] (fun session => utf8 ":session:" ++ utf8 session) ++
    utf8 ":mode:" ++ utf8 a.mode.modeText ++
    utf8 ":set_root_a:" ++ a.setRootA.toList ++
    utf8 ":set_root_b:" ++ a.setRootB.toList ++
    a.intersectionRoot.elim [] (fun root => utf8 ":intersection_root:" ++ root.toList) ++
    a.cardinality.elim [] (fun card => utf8 ":cardinality:" ++ leBytes 8 card.toNat) ++
    a.transcriptDigest.elim [] (fun d => utf8 ":transcript:" ++ d.bytes.toList) ++
    utf8 ":issued_at:" ++ leBytes 8 a.issuedAt.toNat ++
    utf8 ":expires_at:" ++ leBytes 8 a.expiresAt.toNat ++
    utf8 ":issuer:" ++ a.issuerPubkey.bytes.toList

/-- Both signatures are over this hash, so a second one can be added without the first party. -/
def signingBody (K : Crates) (a : OverlapAttestation) : Bytes 32 := K.sha256 a.signingInput

/-- The identity puts its own domain in front of the one of attestations. -/
def signWithDomain (K : Crates) (identity : PartyIdentity) (body : Bytes 32) : Bytes 64 :=
  identity.sign K (attestationDomain ++ body.toList)

/-- Every error of the key or the signature is one answer. -/
def verifyWithDomain (K : Crates) (pubkey : PublicIdentity) (body : Bytes 32)
    (signature : Bytes 64) : Bool :=
  match pubkey.verify K (attestationDomain ++ body.toList) signature with
  | .ok () => true
  | .error _ => false

theorem verifyWithDomain_eq_true_iff {K : Crates} {pubkey : PublicIdentity} {body : Bytes 32}
    {signature : Bytes 64} :
    verifyWithDomain K pubkey body signature = true ↔
      pubkey.verify K (attestationDomain ++ body.toList) signature = .ok () := by
  unfold verifyWithDomain
  cases pubkey.verify K (attestationDomain ++ body.toList) signature <;> simp

/-- Fills in the signature, which the signed body does not cover. -/
def signed (K : Crates) (identity : PartyIdentity) (a : OverlapAttestation) :
    OverlapAttestation :=
  { a with signature := signWithDomain K identity (a.signingBody K) }

/-- The claim of an intersection, by the root of what is common. A lifetime beyond the last
second ends at the last second. -/
def signIntersection (K : Crates) (now : UInt64) (identity : PartyIdentity)
    (setRootA setRootB intersectionRoot : Bytes 32) (sessionId : Option String)
    (transcriptDigest : Option TranscriptDigest) (ttlSecs : UInt64) : OverlapAttestation :=
  signed K identity
    { version := 1
      sessionId := sessionId
      mode := .intersection
      setRootA := setRootA
      setRootB := setRootB
      intersectionRoot := some intersectionRoot
      cardinality := none
      transcriptDigest := transcriptDigest
      issuedAt := now
      expiresAt := saturatingAdd now ttlSecs
      issuerPubkey := identity.publicIdentity K
      signature := Bytes.zero 64
      coSignerPubkey := none
      coSignature := none }

def signCardinality (K : Crates) (now : UInt64) (identity : PartyIdentity)
    (setRootA setRootB : Bytes 32) (cardinality : UInt64) (sessionId : Option String)
    (transcriptDigest : Option TranscriptDigest) (ttlSecs : UInt64) : OverlapAttestation :=
  signed K identity
    { version := 1
      sessionId := sessionId
      mode := .cardinality
      setRootA := setRootA
      setRootB := setRootB
      intersectionRoot := none
      cardinality := some cardinality
      transcriptDigest := transcriptDigest
      issuedAt := now
      expiresAt := saturatingAdd now ttlSecs
      issuerPubkey := identity.publicIdentity K
      signature := Bytes.zero 64
      coSignerPubkey := none
      coSignature := none }

/-- The expiry is looked at before the signature, and the last second is too late. -/
def verify (K : Crates) (now : UInt64) (a : OverlapAttestation) : Except AttestationError Unit :=
  if a.expiresAt ≤ now then .error (.expired a.issuedAt a.expiresAt now)
  else if verifyWithDomain K a.issuerPubkey (a.signingBody K) a.signature then .ok ()
  else .error .invalidSignature

/-- An accepted attestation has not expired and its first signature is verified. -/
theorem verify_eq_ok_iff {K : Crates} {now : UInt64} {a : OverlapAttestation} :
    a.verify K now = .ok () ↔ now < a.expiresAt ∧
      verifyWithDomain K a.issuerPubkey (a.signingBody K) a.signature = true := by
  unfold verify
  split_ifs with hexpired hverified
  · simp [UInt64.not_lt.mpr hexpired]
  · simp [UInt64.not_le.mp hexpired, hverified]
  · simp [hverified]

/-- The verdict depends on the signed bytes, not on the parts that they are made of. -/
theorem verify_ok_of_signingInput_eq {K : Crates} {now : UInt64} {a b : OverlapAttestation}
    (hinput : a.signingInput = b.signingInput) (hissuer : a.issuerPubkey = b.issuerPubkey)
    (hexpires : a.expiresAt = b.expiresAt) (hsignature : a.signature = b.signature)
    (h : a.verify K now = .ok ()) : b.verify K now = .ok () := by
  obtain ⟨hnow, hverified⟩ := verify_eq_ok_iff.mp h
  rw [signingBody, hinput, hissuer, hsignature] at hverified
  exact verify_eq_ok_iff.mpr ⟨hexpires ▸ hnow, hverified⟩

theorem verify_signIntersection {K : Crates} {identity : PartyIdentity} (h : identity.Proper K)
    {issued now ttlSecs : UInt64} (hnow : now < saturatingAdd issued ttlSecs)
    (rootA rootB root : Bytes 32) (sessionId : Option String) (digest : Option TranscriptDigest) :
    (signIntersection K issued identity rootA rootB root sessionId digest ttlSecs).verify K now =
      .ok () :=
  verify_eq_ok_iff.mpr ⟨hnow, verifyWithDomain_eq_true_iff.mpr (h.verify_sign _)⟩

/-- The key alone is compared here; no signature is. -/
def verifyIssuer (a : OverlapAttestation) (expected : PublicIdentity) :
    Except AttestationError Unit :=
  if a.issuerPubkey ≠ expected then
    .error (.issuerMismatch expected.toHex a.issuerPubkey.toHex)
  else .ok ()

def verifySession (a : OverlapAttestation) (expected : String) : Except AttestationError Unit :=
  match a.sessionId with
  | some id => if id = expected then .ok () else .error (.sessionMismatch expected id)
  | none => .error (.missingField "session_id")

theorem verifySession_eq_ok_iff {a : OverlapAttestation} {expected : String} :
    a.verifySession expected = .ok () ↔ a.sessionId = some expected := by
  unfold verifySession
  cases a.sessionId with
  | none => simp
  | some id => by_cases hid : id = expected <;> simp [hid]

/-- Signature and issuer. The session and the second signature have checks of their own. -/
def verifyFull (K : Crates) (now : UInt64) (a : OverlapAttestation)
    (expectedIssuer : PublicIdentity) : Except AttestationError Unit := do
  a.verify K now
  a.verifyIssuer expectedIssuer

/-- The second party signs the body that the first one signed. -/
def coSign (K : Crates) (a : OverlapAttestation) (coSigner : PartyIdentity) : OverlapAttestation :=
  { a with
    coSignerPubkey := some (coSigner.publicIdentity K)
    coSignature := some (signWithDomain K coSigner (a.signingBody K)) }

/-- The second signature needs its key and itself; the expiry is not looked at. -/
def verifyCoSignature (K : Crates) (a : OverlapAttestation) : Except AttestationError Unit :=
  match a.coSignerPubkey, a.coSignature with
  | none, _ => .error (.missingField "co_signer_pubkey")
  | some _, none => .error (.missingField "co_signature")
  | some coSigner, some signature =>
    if verifyWithDomain K coSigner (a.signingBody K) signature then .ok ()
    else .error .invalidSignature

theorem verifyCoSignature_eq_ok_iff {K : Crates} {a : OverlapAttestation} :
    a.verifyCoSignature K = .ok () ↔ ∃ coSigner signature, a.coSignerPubkey = some coSigner ∧
      a.coSignature = some signature ∧
      verifyWithDomain K coSigner (a.signingBody K) signature = true := by
  unfold verifyCoSignature
  cases a.coSignerPubkey with
  | none => simp
  | some coSigner =>
    cases a.coSignature with
    | none => simp
    | some signature => simp

def isDualSigned (a : OverlapAttestation) : Bool :=
  a.coSignerPubkey.isSome && a.coSignature.isSome

/-- The identifier depends on the first signature and not on the second. -/
def attestationId (K : Crates) (a : OverlapAttestation) : Bytes 32 :=
  K.sha256 (attestationDomain ++ a.issuerPubkey.bytes.toList ++ leBytes 8 a.issuedAt.toNat ++
    a.signature.toList)

/-- A co-signature is verified, and leaves the first signature as it was. -/
theorem verify_coSign {K : Crates} {coSigner : PartyIdentity} (h : coSigner.Proper K)
    (now : UInt64) (a : OverlapAttestation) :
    (a.coSign K coSigner).verifyCoSignature K = .ok () ∧
      (a.coSign K coSigner).verify K now = a.verify K now := by
  constructor
  · refine verifyCoSignature_eq_ok_iff.mpr ⟨_, _, rfl, rfl, ?_⟩
    exact verifyWithDomain_eq_true_iff.mpr (h.verify_sign _)
  · rfl

end OverlapAttestation

end BlindOverlap
