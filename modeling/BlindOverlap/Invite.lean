import BlindOverlap.Identity
import BlindOverlap.Protocol

/-!
# Invite tickets

A signed, short-lived permission to take part in one session. Every check reads
the clock on its own, so each reading is an argument.
-/
namespace BlindOverlap

def inviteTicketDomain : List UInt8 := utf8 "BlindOverlap:InviteTicket:v1"

/-- A ticket is good for five minutes when nothing else is asked. -/
def defaultTicketTtlSecs : UInt64 := 300

inductive AllowedMode where
  | intersection
  | cardinality
  | any
  deriving DecidableEq

namespace AllowedMode

/-- A ticket for any mode permits both. -/
def permits : AllowedMode → IntersectionMode → Bool
  | .intersection, mode => decide (mode = .intersection)
  | .cardinality, mode => decide (mode = .cardinality)
  | .any, _ => true

/-- The byte that stands for a mode in the signed payload. -/
def modeByte : AllowedMode → UInt8
  | .intersection => 1
  | .cardinality => 2
  | .any => 3

end AllowedMode

inductive InviteError where
  | expired (expiresAt currentTime : UInt64)
  | notYetValid (issuedAt currentTime : UInt64)
  | invalidSignature
  | issuerMismatch (expected got : String)
  | peerMismatch (expected got : String)
  | sessionMismatch (expected got : String)
  | modeMismatch (allowed : AllowedMode) (requested : IntersectionMode)
  deriving DecidableEq

/-- An invitation to a session, for one peer or for whoever holds it. -/
structure InviteTicket where
  version : UInt8
  sessionId : String
  issuerPubkey : PublicIdentity
  peerPubkey : Option PublicIdentity
  allowedMode : AllowedMode
  issuedAt : UInt64
  expiresAt : UInt64
  signature : Bytes 64
  deriving DecidableEq

namespace InviteTicket

/-- The signed bytes. The identifier of the session ends with a zero byte, which it may itself
contain. -/
def computePayload (sessionId : String) (issuer : PublicIdentity) (peer : Option PublicIdentity)
    (allowedMode : AllowedMode) (issuedAt expiresAt : UInt64) : List UInt8 :=
  inviteTicketDomain ++ [0] ++ utf8 sessionId ++ [0] ++ issuer.bytes.toList ++
    peer.elim [0] (fun p => 1 :: p.bytes.toList) ++ [allowedMode.modeByte] ++
    leBytes 8 issuedAt.toNat ++ leBytes 8 expiresAt.toNat

/-- The payload a ticket's own fields give. -/
def payload (t : InviteTicket) : List UInt8 :=
  computePayload t.sessionId t.issuerPubkey t.peerPubkey t.allowedMode t.issuedAt t.expiresAt

/-- The expiry is an unchecked sum of two machine integers. -/
def issue (K : Crates) (now : UInt64) (issuer : PartyIdentity) (sessionId : String)
    (peerPubkey : Option PublicIdentity) (allowedMode : AllowedMode) (ttlSecs : UInt64) :
    InviteTicket where
  version := 1
  sessionId := sessionId
  issuerPubkey := issuer.publicIdentity K
  peerPubkey := peerPubkey
  allowedMode := allowedMode
  issuedAt := now
  expiresAt := now + ttlSecs
  signature := issuer.sign K
    (computePayload sessionId (issuer.publicIdentity K) peerPubkey allowedMode now (now + ttlSecs))

/-- Both ends of the lifetime belong to it. -/
def checkValidityWindow (now : UInt64) (t : InviteTicket) : Except InviteError Unit :=
  if now < t.issuedAt then .error (.notYetValid t.issuedAt now)
  else if now > t.expiresAt then .error (.expired t.expiresAt now)
  else .ok ()

/-- The signature comes before the lifetime. -/
def verify (K : Crates) (now : UInt64) (t : InviteTicket) : Except InviteError Unit :=
  match t.issuerPubkey.verify K t.payload t.signature with
  | .error _ => .error .invalidSignature
  | .ok () => t.checkValidityWindow now

def verifyIssuer (K : Crates) (now : UInt64) (t : InviteTicket) (expectedIssuer : PublicIdentity) :
    Except InviteError Unit := do
  t.verify K now
  if t.issuerPubkey ≠ expectedIssuer then
    throw (.issuerMismatch expectedIssuer.toHex t.issuerPubkey.toHex)

/-- A ticket without a peer is good for anyone. -/
def verifyForPeer (K : Crates) (now : UInt64) (t : InviteTicket) (peer : PublicIdentity) :
    Except InviteError Unit := do
  t.verify K now
  match t.peerPubkey with
  | some expectedPeer =>
    if expectedPeer ≠ peer then throw (.peerMismatch expectedPeer.toHex peer.toHex)
  | none => pure ()

/-- The session is compared before the mode. -/
def verifyForSession (K : Crates) (now : UInt64) (t : InviteTicket) (sessionId : String)
    (mode : IntersectionMode) : Except InviteError Unit := do
  t.verify K now
  if t.sessionId ≠ sessionId then throw (.sessionMismatch t.sessionId sessionId)
  if ¬ t.allowedMode.permits mode then throw (.modeMismatch t.allowedMode mode)

/-- All checks, each with a clock reading of its own. -/
def verifyFull (K : Crates) (issuerAt peerAt sessionAt : UInt64) (t : InviteTicket)
    (expectedIssuer peer : PublicIdentity) (sessionId : String) (mode : IntersectionMode) :
    Except InviteError Unit := do
  t.verifyIssuer K issuerAt expectedIssuer
  t.verifyForPeer K peerAt peer
  t.verifyForSession K sessionAt sessionId mode

/-! ## What the checks accept -/

section Accepted
variable {K : Crates} {now : UInt64} {t : InviteTicket}

/-- A ticket is valid from its issue to its expiry, both included. -/
theorem verify_eq_ok_iff :
    t.verify K now = .ok () ↔ t.issuerPubkey.verify K t.payload t.signature = .ok () ∧
      t.issuedAt ≤ now ∧ now ≤ t.expiresAt := by
  unfold verify
  cases t.issuerPubkey.verify K t.payload t.signature with
  | error e => simp
  | ok u =>
    simp only [true_and, checkValidityWindow]
    split_ifs with hbefore hafter
    · simp [UInt64.not_le.mpr hbefore]
    · simp [UInt64.not_le.mpr hafter]
    · simp [UInt64.not_lt.mp hbefore, UInt64.not_lt.mp hafter]

theorem verifyIssuer_eq_ok_iff {issuer : PublicIdentity} :
    t.verifyIssuer K now issuer = .ok () ↔
      t.verify K now = .ok () ∧ t.issuerPubkey = issuer := by
  rw [verifyIssuer, Except.bind_check_eq_ok_iff, not_not]

theorem verifyForPeer_eq_ok_iff {peer : PublicIdentity} :
    t.verifyForPeer K now peer = .ok () ↔
      t.verify K now = .ok () ∧ ∀ p ∈ t.peerPubkey, p = peer := by
  unfold verifyForPeer
  cases t.verify K now with
  | error e => simp
  | ok u =>
    cases t.peerPubkey with
    | none => simp
    | some p => by_cases hp : p = peer <;> simp [hp]

theorem verifyForSession_eq_ok_iff {sessionId : String} {mode : IntersectionMode} :
    t.verifyForSession K now sessionId mode = .ok () ↔
      t.verify K now = .ok () ∧ t.sessionId = sessionId ∧ t.allowedMode.permits mode = true := by
  simp only [verifyForSession, Except.bind_unit_eq_ok_iff, Except.throw_eq_error,
    Except.error_bind, Except.ite_error_eq_ok_iff, not_not, Except.pure_eq_ok, and_true]

end Accepted

/-- A ticket as it was issued is valid as long as its lifetime does not wrap around. -/
theorem verify_issue {issuer : PartyIdentity} {K : Crates} (h : issuer.Proper K)
    {now ttlSecs : UInt64} (hwrap : now ≤ now + ttlSecs) (sessionId : String)
    (peer : Option PublicIdentity) (mode : AllowedMode) :
    (issue K now issuer sessionId peer mode ttlSecs).verify K now = .ok () :=
  verify_eq_ok_iff.mpr ⟨h.verify_sign _, UInt64.le_refl _, hwrap⟩

end InviteTicket

end BlindOverlap
