import BlindOverlap.Identity
import BlindOverlap.Lib.Fallible

/-!
# Session leases

A signed permission to continue a session, bound to one peer, and renewable
into a chain in which each lease names its parent.
-/
namespace BlindOverlap

def sessionLeaseDomain : List UInt8 := utf8 "BlindOverlap:SessionLease:v1"

def defaultLeaseTtlSecs : UInt64 := 1800

/-- Why a lease is refused. Keys that differ are both named, in hexadecimal. -/
inductive LeaseError where
  | expired (expiresAt currentTime : UInt64)
  | notYetValid (issuedAt currentTime : UInt64)
  | invalidSignature
  | issuerMismatch (expected got : String)
  | peerMismatch (expected got : String)
  | sessionMismatch (expected got : String)
  deriving DecidableEq

/-- A permission for one peer. The first lease of a chain has no parent and a count of zero. -/
structure SessionLease where
  version : UInt8
  sessionId : String
  issuerPubkey : PublicIdentity
  peerPubkey : PublicIdentity
  issuedAt : UInt64
  expiresAt : UInt64
  renewCount : UInt32
  parentLeaseId : Option (Bytes 32)
  signature : Bytes 64
  deriving DecidableEq

namespace SessionLease

/-- The signed bytes. The identifier of the session ends with a zero byte, which it may itself
contain; all that follows has a fixed width but for the parent, which a byte announces. -/
def computePayload (sessionId : String) (issuer peer : PublicIdentity)
    (issuedAt expiresAt : UInt64) (renewCount : UInt32) (parentLeaseId : Option (Bytes 32)) :
    List UInt8 :=
  sessionLeaseDomain ++ [0] ++ utf8 sessionId ++ [0] ++ issuer.bytes.toList ++ peer.bytes.toList ++
    leBytes 8 issuedAt.toNat ++ leBytes 8 expiresAt.toNat ++ leBytes 4 renewCount.toNat ++
    parentLeaseId.elim [0] (fun parent => 1 :: parent.toList)

/-- The payload a lease's own fields give. -/
def payload (l : SessionLease) : List UInt8 :=
  computePayload l.sessionId l.issuerPubkey l.peerPubkey l.issuedAt l.expiresAt l.renewCount
    l.parentLeaseId

/-- The first lease of a chain. The sum of the expiry is unchecked. -/
def issue (K : Crates) (now : UInt64) (issuer : PartyIdentity) (sessionId : String)
    (peerPubkey : PublicIdentity) (ttlSecs : UInt64) : SessionLease where
  version := 1
  sessionId := sessionId
  issuerPubkey := issuer.publicIdentity K
  peerPubkey := peerPubkey
  issuedAt := now
  expiresAt := now + ttlSecs
  renewCount := 0
  parentLeaseId := none
  signature := issuer.sign K
    (computePayload sessionId (issuer.publicIdentity K) peerPubkey now (now + ttlSecs) 0 none)

/-- A lease is named by its signature. -/
def leaseId (K : Crates) (l : SessionLease) : Bytes 32 := K.sha256 l.signature.toList

/-- Renewal compares the issuer's key only; sums and the count are unchecked. -/
def renew (K : Crates) (now : UInt64) (l : SessionLease) (issuer : PartyIdentity)
    (ttlSecs : UInt64) : Except LeaseError SessionLease :=
  if l.issuerPubkey ≠ issuer.publicIdentity K then
    .error (.issuerMismatch l.issuerPubkey.toHex (issuer.publicIdentity K).toHex)
  else
    .ok {
      version := 1
      sessionId := l.sessionId
      issuerPubkey := l.issuerPubkey
      peerPubkey := l.peerPubkey
      issuedAt := now
      expiresAt := now + ttlSecs
      renewCount := l.renewCount + 1
      parentLeaseId := some (l.leaseId K)
      signature := issuer.sign K
        (computePayload l.sessionId l.issuerPubkey l.peerPubkey now (now + ttlSecs)
          (l.renewCount + 1) (some (l.leaseId K))) }

def checkValidityWindow (now : UInt64) (l : SessionLease) : Except LeaseError Unit :=
  if now < l.issuedAt then .error (.notYetValid l.issuedAt now)
  else if now > l.expiresAt then .error (.expired l.expiresAt now)
  else .ok ()

/-- The signature comes before the lifetime. Nothing is said about a parent. -/
def verify (K : Crates) (now : UInt64) (l : SessionLease) : Except LeaseError Unit :=
  match l.issuerPubkey.verify K l.payload l.signature with
  | .error _ => .error .invalidSignature
  | .ok () => l.checkValidityWindow now

/-- The issuer is compared with the expected one, after the lease has been verified. -/
def verifyIssuer (K : Crates) (now : UInt64) (l : SessionLease) (expectedIssuer : PublicIdentity) :
    Except LeaseError Unit := do
  l.verify K now
  if l.issuerPubkey ≠ expectedIssuer then
    throw (.issuerMismatch expectedIssuer.toHex l.issuerPubkey.toHex)

/-- The error names the peer of the lease as the expected one. -/
def verifyForPeer (K : Crates) (now : UInt64) (l : SessionLease) (peer : PublicIdentity) :
    Except LeaseError Unit := do
  l.verify K now
  if l.peerPubkey ≠ peer then throw (.peerMismatch l.peerPubkey.toHex peer.toHex)

def verifyForSession (K : Crates) (now : UInt64) (l : SessionLease) (sessionId : String) :
    Except LeaseError Unit := do
  l.verify K now
  if l.sessionId ≠ sessionId then throw (.sessionMismatch l.sessionId sessionId)

/-- All checks, each with a clock reading of its own. -/
def verifyFull (K : Crates) (issuerAt peerAt sessionAt : UInt64) (l : SessionLease)
    (expectedIssuer peer : PublicIdentity) (sessionId : String) : Except LeaseError Unit := do
  l.verifyIssuer K issuerAt expectedIssuer
  l.verifyForPeer K peerAt peer
  l.verifyForSession K sessionAt sessionId

/-! ## What the checks accept -/

section Accepted
variable {K : Crates} {now : UInt64} {l : SessionLease}

/-- A lease is valid from its issue to its expiry, both included. -/
theorem verify_eq_ok_iff :
    l.verify K now = .ok () ↔ l.issuerPubkey.verify K l.payload l.signature = .ok () ∧
      l.issuedAt ≤ now ∧ now ≤ l.expiresAt := by
  unfold verify
  cases l.issuerPubkey.verify K l.payload l.signature with
  | error e => simp
  | ok u =>
    simp only [true_and, checkValidityWindow]
    split_ifs with hbefore hafter
    · simp [UInt64.not_le.mpr hbefore]
    · simp [UInt64.not_le.mpr hafter]
    · simp [UInt64.not_lt.mp hbefore, UInt64.not_lt.mp hafter]

theorem verifyIssuer_eq_ok_iff {issuer : PublicIdentity} :
    l.verifyIssuer K now issuer = .ok () ↔ l.verify K now = .ok () ∧ l.issuerPubkey = issuer := by
  rw [verifyIssuer, Except.bind_check_eq_ok_iff, not_not]

theorem verifyForPeer_eq_ok_iff {peer : PublicIdentity} :
    l.verifyForPeer K now peer = .ok () ↔ l.verify K now = .ok () ∧ l.peerPubkey = peer := by
  rw [verifyForPeer, Except.bind_check_eq_ok_iff, not_not]

theorem verifyForSession_eq_ok_iff {sessionId : String} :
    l.verifyForSession K now sessionId = .ok () ↔
      l.verify K now = .ok () ∧ l.sessionId = sessionId := by
  rw [verifyForSession, Except.bind_check_eq_ok_iff, not_not]

end Accepted

end SessionLease

end BlindOverlap
