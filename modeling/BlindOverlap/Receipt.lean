import BlindOverlap.Freshness
import BlindOverlap.Identity
import BlindOverlap.Lib.Fallible
import BlindOverlap.Protocol

/-!
# Receipts

Signed statements about the outcome of an intersection. They are signed raw, without
the domain of identities in front; the wire-bound form carries a domain of its own and
the session and transcript it belongs to.
-/
namespace BlindOverlap

/-- Why a receipt is refused. Roots that differ are both named, in hexadecimal. -/
inductive ReceiptError where
  /-- The text of the signature library is left out. -/
  | verificationFailed
  | invalidPublicKey (reason : String)
  | commitmentMismatch (expected actual : String)
  | sessionMismatch (expected got : String)
  | transcriptMismatch
  deriving DecidableEq

/-- What was computed, as receipts name it. -/
inductive ReceiptMode where
  | intersection
  | cardinality
  deriving DecidableEq

namespace ReceiptMode

def ofMode : IntersectionMode → ReceiptMode
  | .intersection => .intersection
  | .cardinality => .cardinality

/-- The last of the signed bytes. -/
def modeByte : ReceiptMode → UInt8
  | .intersection => 0
  | .cardinality => 1

end ReceiptMode

/-- The check that both forms make of their signature, under a key that must decode. -/
def verifyReceipt (K : Crates) (signerPublicKey : Bytes 32) (message : List UInt8)
    (signature : Bytes 64) : Except ReceiptError Unit :=
  match K.verifyingKeyFromBytes signerPublicKey with
  | .error e => .error (.invalidPublicKey e)
  | .ok () =>
    if K.ed25519Verify signerPublicKey message signature then .ok ()
    else .error .verificationFailed

theorem verifyReceipt_eq_ok_iff {K : Crates} {key : Bytes 32} {message : List UInt8}
    {signature : Bytes 64} :
    verifyReceipt K key message signature = .ok () ↔
      K.verifyingKeyFromBytes key = .ok () ∧ K.ed25519Verify key message signature = true := by
  unfold verifyReceipt
  cases hkey : K.verifyingKeyFromBytes key with
  | error e => simp
  | ok u => by_cases hv : K.ed25519Verify key message signature = true <;> simp [hv]

/-- The check that both forms make of their set roots. -/
def checkRoots (rootA rootB expectedRootA expectedRootB : Bytes 32) : Except ReceiptError Unit :=
  if rootA ≠ expectedRootA then
    .error (.commitmentMismatch (Hex.encode expectedRootA.toList) (Hex.encode rootA.toList))
  else if rootB ≠ expectedRootB then
    .error (.commitmentMismatch (Hex.encode expectedRootB.toList) (Hex.encode rootB.toList))
  else .ok ()

theorem checkRoots_eq_ok_iff {rootA rootB expectedRootA expectedRootB : Bytes 32} :
    checkRoots rootA rootB expectedRootA expectedRootB = .ok () ↔
      rootA = expectedRootA ∧ rootB = expectedRootB := by
  unfold checkRoots
  split_ifs with ha hb <;> simp_all

/-- A receipt that belongs to no session. The outcome is there as a commitment. -/
structure IntersectionReceipt where
  version : UInt8
  setRootA : Bytes 32
  setRootB : Bytes 32
  resultCommitment : Bytes 32
  mode : ReceiptMode
  signature : Bytes 64
  signerPublicKey : Bytes 32
  deriving DecidableEq

namespace IntersectionReceipt

/-- The signed bytes, without labels or a domain. The signer's key is not among them. -/
def messageBytes (r : IntersectionReceipt) : List UInt8 :=
  [r.version] ++ r.setRootA.toList ++ r.setRootB.toList ++ r.resultCommitment.toList ++
    [r.mode.modeByte]

/-- A receipt without a session has no part of variable length. -/
theorem length_messageBytes (r : IntersectionReceipt) : r.messageBytes.length = 98 := by
  simp [messageBytes, Bytes.length_toList]

/-- The signature is checked under the key that the receipt names. -/
def verify (K : Crates) (r : IntersectionReceipt) : Except ReceiptError Unit :=
  verifyReceipt K r.signerPublicKey r.messageBytes r.signature

/-- The roots are compared in the order in which they are stored. -/
def verifyWithRoots (K : Crates) (r : IntersectionReceipt)
    (expectedRootA expectedRootB : Bytes 32) : Except ReceiptError Unit := do
  r.verify K
  checkRoots r.setRootA r.setRootB expectedRootA expectedRootB

theorem verifyWithRoots_eq_ok_iff {K : Crates} {r : IntersectionReceipt} {rootA rootB : Bytes 32} :
    r.verifyWithRoots K rootA rootB = .ok () ↔
      r.verify K = .ok () ∧ r.setRootA = rootA ∧ r.setRootB = rootB := by
  rw [verifyWithRoots, Except.bind_unit_eq_ok_iff, checkRoots_eq_ok_iff]

def receiptId (K : Crates) (r : IntersectionReceipt) : Bytes 32 :=
  K.sha256 (utf8 "BlindOverlap:ReceiptId:v1" ++ r.messageBytes ++ r.signature.toList)

end IntersectionReceipt

def wireBoundReceiptDomain : List UInt8 := utf8 "BlindOverlap:WireBoundReceipt:v1"

/-- A receipt that names its session, its transcript and both nonces. -/
structure WireBoundReceipt where
  version : UInt8
  sessionId : String
  transcriptDigest : TranscriptDigest
  initiatorNonce : SessionNonce
  responderNonce : SessionNonce
  setRootA : Bytes 32
  setRootB : Bytes 32
  resultCommitment : Bytes 32
  mode : ReceiptMode
  signature : Bytes 64
  signerPublicKey : Bytes 32
  deriving DecidableEq

namespace WireBoundReceipt

/-- The signed bytes start with a domain, and the session ends with a zero byte. -/
def messageBytes (r : WireBoundReceipt) : List UInt8 :=
  wireBoundReceiptDomain ++ [r.version] ++ utf8 r.sessionId ++ [0] ++
    r.transcriptDigest.bytes.toList ++ r.initiatorNonce.bytes.toList ++
    r.responderNonce.bytes.toList ++ r.setRootA.toList ++ r.setRootB.toList ++
    r.resultCommitment.toList ++ [r.mode.modeByte]

def verify (K : Crates) (r : WireBoundReceipt) : Except ReceiptError Unit :=
  verifyReceipt K r.signerPublicKey r.messageBytes r.signature

/-- The signature first, then session, transcript and roots. The nonces are not asked for. -/
def verifyWithBindings (K : Crates) (r : WireBoundReceipt) (expectedSessionId : String)
    (expectedTranscript : TranscriptDigest) (expectedRootA expectedRootB : Bytes 32) :
    Except ReceiptError Unit := do
  r.verify K
  if r.sessionId ≠ expectedSessionId then
    throw (.sessionMismatch expectedSessionId r.sessionId)
  if r.transcriptDigest ≠ expectedTranscript then throw .transcriptMismatch
  checkRoots r.setRootA r.setRootB expectedRootA expectedRootB

theorem verifyWithBindings_eq_ok_iff {K : Crates} {r : WireBoundReceipt} {session : String}
    {transcript : TranscriptDigest} {rootA rootB : Bytes 32} :
    r.verifyWithBindings K session transcript rootA rootB = .ok () ↔ r.verify K = .ok () ∧
      r.sessionId = session ∧ r.transcriptDigest = transcript ∧ r.setRootA = rootA ∧
      r.setRootB = rootB := by
  simp only [verifyWithBindings, Except.bind_unit_eq_ok_iff, Except.throw_eq_error,
    Except.error_bind, Except.ite_error_eq_ok_iff, not_not, checkRoots_eq_ok_iff]

def receiptId (K : Crates) (r : WireBoundReceipt) : Bytes 32 :=
  K.sha256 (utf8 "BlindOverlap:WireBoundReceiptId:v1" ++ r.messageBytes ++ r.signature.toList)

end WireBoundReceipt

/-- A key that signs receipts, apart from the identities. -/
structure ReceiptSigner where
  seed : Bytes 32

namespace ReceiptSigner

def publicKey (K : Crates) (s : ReceiptSigner) : Bytes 32 := K.verifyingKey s.seed

/-- The receipt is built with an empty signature, which its signed bytes do not cover. -/
def sign (K : Crates) (s : ReceiptSigner) (setRootA setRootB : Bytes 32) (result : PsiResult)
    (mode : IntersectionMode) : IntersectionReceipt :=
  let receipt : IntersectionReceipt :=
    { version := 1
      setRootA := setRootA
      setRootB := setRootB
      resultCommitment := result.commitment K
      mode := .ofMode mode
      signature := Bytes.zero 64
      signerPublicKey := s.publicKey K }
  { receipt with signature := K.ed25519Sign s.seed receipt.messageBytes }

/-- The same for a receipt that is bound to a session. -/
def signWireBound (K : Crates) (s : ReceiptSigner) (sessionId : String)
    (transcriptDigest : TranscriptDigest) (initiatorNonce responderNonce : SessionNonce)
    (setRootA setRootB : Bytes 32) (result : PsiResult) (mode : IntersectionMode) :
    WireBoundReceipt :=
  let receipt : WireBoundReceipt :=
    { version := 1
      sessionId := sessionId
      transcriptDigest := transcriptDigest
      initiatorNonce := initiatorNonce
      responderNonce := responderNonce
      setRootA := setRootA
      setRootB := setRootB
      resultCommitment := result.commitment K
      mode := .ofMode mode
      signature := Bytes.zero 64
      signerPublicKey := s.publicKey K }
  { receipt with signature := K.ed25519Sign s.seed receipt.messageBytes }

/-- What a signer signs is verified. -/
theorem verify_sign {K : Crates} {s : ReceiptSigner} (h : (PartyIdentity.fromSeed s.seed).Proper K)
    (rootA rootB : Bytes 32) (result : PsiResult) (mode : IntersectionMode) :
    (s.sign K rootA rootB result mode).verify K = .ok () :=
  verifyReceipt_eq_ok_iff.mpr ⟨h.decodes, h.verifies _⟩

/-- It is verified against the bindings it was made with, too. -/
theorem verify_signWireBound {K : Crates} {s : ReceiptSigner}
    (h : (PartyIdentity.fromSeed s.seed).Proper K) (sessionId : String)
    (digest : TranscriptDigest) (initiatorNonce responderNonce : SessionNonce)
    (rootA rootB : Bytes 32) (result : PsiResult) (mode : IntersectionMode) :
    (s.signWireBound K sessionId digest initiatorNonce responderNonce rootA rootB result
      mode).verifyWithBindings K sessionId digest rootA rootB = .ok () := by
  have hverify : (s.signWireBound K sessionId digest initiatorNonce responderNonce rootA rootB
      result mode).verify K = .ok () :=
    verifyReceipt_eq_ok_iff.mpr ⟨h.decodes, h.verifies _⟩
  rw [WireBoundReceipt.verifyWithBindings, hverify]
  simp [signWireBound, checkRoots]

end ReceiptSigner

end BlindOverlap
