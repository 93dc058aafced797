import BlindOverlap.Freshness
import BlindOverlap.Identity
import BlindOverlap.Lib.Fallible

/-!
# Abort receipts

A signed record of who cancelled a session, and why.
-/
namespace BlindOverlap

def abortReceiptDomain : List UInt8 := utf8 "BlindOverlap:AbortReceipt:v1"

/-- Why a session was cancelled. The text beside it is free, whatever the reason is. -/
inductive AbortReason where
  | userCancelled
  | timeout
  | protocolError
  | networkError
  | resourceExhaustion
  | policyViolation
  | unknown
  | custom
  deriving DecidableEq

/-- The short text that stands for a reason in the signed payload. -/
def AbortReason.code : AbortReason → String
  | .userCancelled => "user_cancelled"
  | .timeout => "timeout"
  | .protocolError => "protocol_error"
  | .networkError => "network_error"
  | .resourceExhaustion => "resource_exhaustion"
  | .policyViolation => "policy_violation"
  | .unknown => "unknown"
  | .custom => "custom"

inductive AbortError where
  | invalidSignature
  | issuerMismatch (expected got : String)
  | sessionMismatch (expected got : String)
  | transcriptMismatch
  deriving DecidableEq

/-- A statement of one party that it cancelled a session; it has no lifetime. -/
structure AbortReceipt where
  version : UInt8
  sessionId : String
  issuerPubkey : PublicIdentity
  reason : AbortReason
  reasonText : Option String
  issuedAt : UInt64
  transcriptDigest : Option TranscriptDigest
  signature : Bytes 64
  deriving DecidableEq

namespace AbortReceipt

/-- The signed bytes. Session and reason end with a zero byte, while the text of the reason has
a mark in front and no end. -/
def computePayload (sessionId : String) (issuer : PublicIdentity) (reason : AbortReason)
    (reasonText : Option String) (issuedAt : UInt64)
    (transcriptDigest : Option TranscriptDigest) : List UInt8 :=
  abortReceiptDomain ++ [0] ++ utf8 sessionId ++ [0] ++ issuer.bytes.toList ++
    utf8 reason.code ++ [0] ++ reasonText.elim [0] (fun text => 1 :: utf8 text) ++
    leBytes 8 issuedAt.toNat ++ transcriptDigest.elim [0] (fun d => 1 :: d.bytes.toList)

/-- The payload a receipt's own fields give. -/
def payload (r : AbortReceipt) : List UInt8 :=
  computePayload r.sessionId r.issuerPubkey r.reason r.reasonText r.issuedAt r.transcriptDigest

/-- A receipt with all its parts, dated and signed. -/
def new (K : Crates) (now : UInt64) (issuer : PartyIdentity) (sessionId : String)
    (reason : AbortReason) (reasonText : Option String)
    (transcriptDigest : Option TranscriptDigest) : AbortReceipt where
  version := 1
  sessionId := sessionId
  issuerPubkey := issuer.publicIdentity K
  reason := reason
  reasonText := reasonText
  issuedAt := now
  transcriptDigest := transcriptDigest
  signature := issuer.sign K
    (computePayload sessionId (issuer.publicIdentity K) reason reasonText now transcriptDigest)

def simple (K : Crates) (now : UInt64) (issuer : PartyIdentity) (sessionId : String)
    (reason : AbortReason) : AbortReceipt :=
  new K now issuer sessionId reason none none

def withReason (K : Crates) (now : UInt64) (issuer : PartyIdentity)
    (sessionId reasonText : String) : AbortReceipt :=
  new K now issuer sessionId .custom (some reasonText) none

def withTranscript (K : Crates) (now : UInt64) (issuer : PartyIdentity) (sessionId : String)
    (reason : AbortReason) (transcriptDigest : TranscriptDigest) : AbortReceipt :=
  new K now issuer sessionId reason none (some transcriptDigest)

/-- Any failure of the key or the signature is an invalid signature. -/
def verify (K : Crates) (r : AbortReceipt) : Except AbortError Unit :=
  match r.issuerPubkey.verify K r.payload r.signature with
  | .error _ => .error .invalidSignature
  | .ok () => .ok ()

theorem verify_eq_ok_iff {K : Crates} {r : AbortReceipt} :
    r.verify K = .ok () ↔ r.issuerPubkey.verify K r.payload r.signature = .ok () := by
  unfold verify
  cases r.issuerPubkey.verify K r.payload r.signature with
  | error e => simp
  | ok u => simp

/-- The verdict depends on the signed bytes, not on the parts that they are made of. -/
theorem verify_ok_of_payload_eq {K : Crates} {r u : AbortReceipt} (hpayload : r.payload = u.payload)
    (hissuer : r.issuerPubkey = u.issuerPubkey) (hsignature : r.signature = u.signature)
    (h : r.verify K = .ok ()) : u.verify K = .ok () := by
  rw [verify_eq_ok_iff] at h ⊢
  rw [← hpayload, ← hissuer, ← hsignature]
  exact h

/-- The issuer is compared after the receipt has been verified. -/
def verifyIssuer (K : Crates) (r : AbortReceipt) (expectedIssuer : PublicIdentity) :
    Except AbortError Unit := do
  r.verify K
  if r.issuerPubkey ≠ expectedIssuer then
    throw (.issuerMismatch expectedIssuer.toHex r.issuerPubkey.toHex)

def verifyForSession (K : Crates) (r : AbortReceipt) (sessionId : String) :
    Except AbortError Unit := do
  r.verify K
  if r.sessionId ≠ sessionId then throw (.sessionMismatch r.sessionId sessionId)

/-- A receipt without a digest matches every transcript. -/
def verifyTranscript (K : Crates) (r : AbortReceipt) (expected : TranscriptDigest) :
    Except AbortError Unit := do
  r.verify K
  match r.transcriptDigest with
  | some digest => if digest ≠ expected then throw .transcriptMismatch
  | none => pure ()

theorem verifyIssuer_eq_ok_iff {K : Crates} {r : AbortReceipt} {issuer : PublicIdentity} :
    r.verifyIssuer K issuer = .ok () ↔ r.verify K = .ok () ∧ r.issuerPubkey = issuer := by
  rw [verifyIssuer, Except.bind_check_eq_ok_iff, not_not]

theorem verifyForSession_eq_ok_iff {K : Crates} {r : AbortReceipt} {sessionId : String} :
    r.verifyForSession K sessionId = .ok () ↔ r.verify K = .ok () ∧ r.sessionId = sessionId := by
  rw [verifyForSession, Except.bind_check_eq_ok_iff, not_not]

theorem verifyTranscript_eq_ok_iff {K : Crates} {r : AbortReceipt} {expected : TranscriptDigest} :
    r.verifyTranscript K expected = .ok () ↔
      r.verify K = .ok () ∧ ∀ digest ∈ r.transcriptDigest, digest = expected := by
  unfold verifyTranscript
  cases r.verify K with
  | error e => simp
  | ok u =>
    cases r.transcriptDigest with
    | none => simp
    | some digest => by_cases hd : digest = expected <;> simp [hd]

/-- A receipt is named by its signature. -/
def receiptId (K : Crates) (r : AbortReceipt) : Bytes 32 := K.sha256 r.signature.toList

/-- A receipt as it was made is verified. -/
theorem verify_new {K : Crates} {issuer : PartyIdentity} (h : issuer.Proper K) (now : UInt64)
    (sessionId : String) (reason : AbortReason) (reasonText : Option String)
    (digest : Option TranscriptDigest) :
    (new K now issuer sessionId reason reasonText digest).verify K = .ok () :=
  verify_eq_ok_iff.mpr (h.verify_sign _)

end AbortReceipt

end BlindOverlap
