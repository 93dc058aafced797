import BlindOverlap.Identity
import BlindOverlap.Receipt

/-!
# Sealed session records

An export of a session for audit. A record lists its messages by hash, some with their
content; a digest of its body ties the parts together, and a seal signs that digest.
-/
namespace BlindOverlap

/-- The domain of records, for the body digest and for the seal. -/
def sealedRecordDomain : List UInt8 := utf8 "BlindOverlap:SealedRecord:v1"

/-- Why a record is refused, or cannot be built. -/
inductive SealError where
  | integrityFailed (computed expected : String)
  | sealVerificationFailed
  | signerMismatch (expected got : String)
  | notSealed
  | missingData (what : String)
  deriving DecidableEq

inductive MessageDirection where
  | sent
  | received
  deriving DecidableEq

def MessageDirection.directionByte : MessageDirection → UInt8
  | .sent => 0
  | .received => 1

inductive SessionStatus where
  | inProgress
  | completed
  | failed
  | aborted
  deriving DecidableEq

def SessionStatus.statusByte : SessionStatus → UInt8
  | .inProgress => 0
  | .completed => 1
  | .failed => 2
  | .aborted => 3

/-- One message of a session, by the hash of its text. -/
structure WireMessageEntry where
  sequence : UInt32
  direction : MessageDirection
  messageType : String
  timestamp : UInt64
  sizeBytes : UInt64
  messageHash : Bytes 32
  content : Option String
  deriving DecidableEq

/-- Who sealed a record, and when. The time is not part of what is signed. -/
structure RecordSeal where
  sealerPubkey : PublicIdentity
  sealedAt : UInt64
  signature : Bytes 64
  deriving DecidableEq

/-- An export of a session. The digest and the seal are fields like the others, so that a
record can be written that does not agree with itself. -/
structure SealedSessionRecord where
  version : UInt8
  sessionId : String
  protocolVersion : UInt8
  status : SessionStatus
  startedAt : UInt64
  exportedAt : UInt64
  localPubkey : Option PublicIdentity
  peerPubkey : Option PublicIdentity
  messages : List WireMessageEntry
  transcriptDigest : Option TranscriptDigest
  initiatorNonce : Option SessionNonce
  responderNonce : Option SessionNonce
  receipt : Option WireBoundReceipt
  bodyDigest : Bytes 32
  recordSeal : Option RecordSeal
  deriving DecidableEq

/-- An entry holds the hash and the length of a message's text, and the text itself if
it is asked for. -/
def createMessageEntry (K : Crates) (now : UInt64) (sequence : UInt32)
    (direction : MessageDirection) (messageType json : String) (includeContent : Bool) :
    WireMessageEntry where
  sequence := sequence
  direction := direction
  messageType := messageType
  timestamp := now
  sizeBytes := UInt64.ofNat (utf8 json).length
  messageHash := K.sha256 (utf8 json)
  content := if includeContent then some json else none

/-- The hashes of the messages stand for the elements of the transcript. -/
def computeTranscriptDigest (K : Crates) (sessionId : String)
    (initiatorNonce responderNonce : Option SessionNonce) (messages : List WireMessageEntry) :
    Option TranscriptDigest :=
  initiatorNonce.map (fun nonce =>
    .compute K sessionId nonce responderNonce (messages.map WireMessageEntry.messageHash) none none)

/-- An optional part, its presence marked by a byte. -/
def markedBytes {α : Type} (bytes : α → List UInt8) : Option α → List UInt8
  | none => [0]
  | some a => 1 :: bytes a

/-- What the body digest covers of one message. -/
def entryBytes (e : WireMessageEntry) : List UInt8 :=
  leBytes 4 e.sequence.toNat ++ [e.direction.directionByte] ++ e.messageHash.toList

/-- The bytes that are hashed: nothing stands between the session and the version, optional
parts are marked, and the messages are counted. -/
def bodyDigestInput (sessionId : String) (protocolVersion : UInt8) (status : SessionStatus)
    (startedAt : UInt64) (localPubkey peerPubkey : Option PublicIdentity)
    (messages : List WireMessageEntry) (transcriptDigest : Option TranscriptDigest) :
    List UInt8 :=
  sealedRecordDomain ++ utf8 sessionId ++ [protocolVersion] ++ [status.statusByte] ++
    leBytes 8 startedAt.toNat ++ markedBytes (fun p => p.bytes.toList) localPubkey ++
    markedBytes (fun p => p.bytes.toList) peerPubkey ++ leBytes 4 messages.length ++
    messages.flatMap entryBytes ++ markedBytes (fun d => d.bytes.toList) transcriptDigest

/-- Nonces, receipt and time of export are not covered, nor what entryBytes leaves out. -/
def computeBodyDigest (K : Crates) (sessionId : String) (protocolVersion : UInt8)
    (status : SessionStatus) (startedAt : UInt64) (localPubkey peerPubkey : Option PublicIdentity)
    (messages : List WireMessageEntry) (transcriptDigest : Option TranscriptDigest) : Bytes 32 :=
  K.sha256 (bodyDigestInput sessionId protocolVersion status startedAt localPubkey peerPubkey
    messages transcriptDigest)

/-! ## Building records -/

/-- What is collected before a record is built. -/
structure SealedSessionBuilder where
  sessionId : Option String
  protocolVersion : UInt8
  status : SessionStatus
  startedAt : Option UInt64
  localPubkey : Option PublicIdentity
  peerPubkey : Option PublicIdentity
  messages : List WireMessageEntry
  initiatorNonce : Option SessionNonce
  responderNonce : Option SessionNonce
  receipt : Option WireBoundReceipt

namespace SealedSessionBuilder

/-- A new builder; its other fields are set by updating them. -/
def new : SealedSessionBuilder where
  sessionId := none
  protocolVersion := 2
  status := .inProgress
  startedAt := none
  localPubkey := none
  peerPubkey := none
  messages := []
  initiatorNonce := none
  responderNonce := none
  receipt := none

/-- Entries are numbered by the order in which they are added. -/
def addEntry (K : Crates) (now : UInt64) (b : SealedSessionBuilder)
    (direction : MessageDirection) (messageType json : String) (includeContent : Bool) :
    SealedSessionBuilder :=
  { b with
    messages := b.messages ++ [createMessageEntry K now (UInt32.ofNat b.messages.length) direction
      messageType json includeContent] }

/-- Sent and received messages are added with their content. -/
def addSentMessage (K : Crates) (now : UInt64) (b : SealedSessionBuilder)
    (messageType json : String) : SealedSessionBuilder :=
  b.addEntry K now .sent messageType json true

def addReceivedMessage (K : Crates) (now : UInt64) (b : SealedSessionBuilder)
    (messageType json : String) : SealedSessionBuilder :=
  b.addEntry K now .received messageType json true

/-- This one leaves the content out. -/
def addMessageHash (K : Crates) (now : UInt64) (b : SealedSessionBuilder)
    (direction : MessageDirection) (messageType json : String) : SealedSessionBuilder :=
  b.addEntry K now direction messageType json false

/-- The record of a builder with a session, both its digests computed. -/
def recordOf (K : Crates) (startedAt exportedAt : UInt64) (b : SealedSessionBuilder)
    (sessionId : String) : SealedSessionRecord :=
  let transcriptDigest :=
    computeTranscriptDigest K sessionId b.initiatorNonce b.responderNonce b.messages
  { version := 1
    sessionId := sessionId
    protocolVersion := b.protocolVersion
    status := b.status
    startedAt := startedAt
    exportedAt := exportedAt
    localPubkey := b.localPubkey
    peerPubkey := b.peerPubkey
    messages := b.messages
    transcriptDigest := transcriptDigest
    initiatorNonce := b.initiatorNonce
    responderNonce := b.responderNonce
    receipt := b.receipt
    bodyDigest := computeBodyDigest K sessionId b.protocolVersion b.status startedAt b.localPubkey
      b.peerPubkey b.messages transcriptDigest
    recordSeal := none }

/-- Without a start of its own the record starts at the present time. -/
def build (K : Crates) (now exportedAt : UInt64) (b : SealedSessionBuilder) :
    Except SealError SealedSessionRecord :=
  match b.sessionId with
  | none => .error (.missingData "session_id")
  | some sessionId => .ok (b.recordOf K (b.startedAt.getD now) exportedAt sessionId)

end SealedSessionBuilder

/-! ## Sealing and verifying -/

namespace SealedSessionRecord

/-- The signed bytes are the domain and the stored digest, not a new one. -/
def sealPayload (r : SealedSessionRecord) : List UInt8 :=
  sealedRecordDomain ++ r.bodyDigest.toList

/-- Sealing does not check the digest first, and replaces an earlier seal. -/
def sealWith (K : Crates) (sealedAt : UInt64) (r : SealedSessionRecord) (identity : PartyIdentity) :
    SealedSessionRecord :=
  { r with
    recordSeal := some ⟨identity.publicIdentity K, sealedAt, identity.sign K r.sealPayload⟩ }

/-- The digest of the body as the record's own fields give it. -/
def computedBodyDigest (K : Crates) (r : SealedSessionRecord) : Bytes 32 :=
  computeBodyDigest K r.sessionId r.protocolVersion r.status r.startedAt r.localPubkey r.peerPubkey
    r.messages r.transcriptDigest

/-- The digest is computed again and compared with the stored one. -/
def verifyIntegrity (K : Crates) (r : SealedSessionRecord) : Except SealError Unit :=
  if r.computedBodyDigest K ≠ r.bodyDigest then
    .error (.integrityFailed (Hex.encode (r.computedBodyDigest K).toList)
      (Hex.encode r.bodyDigest.toList))
  else .ok ()

/-- A record without a seal is refused before its digest is computed. -/
def verifySeal (K : Crates) (r : SealedSessionRecord) : Except SealError Unit :=
  match r.recordSeal with
  | none => .error .notSealed
  | some recordSeal => do
    r.verifyIntegrity K
    match recordSeal.sealerPubkey.verify K r.sealPayload recordSeal.signature with
    | .error _ => .error .sealVerificationFailed
    | .ok () => .ok ()

/-- The signer is compared before anything is verified. -/
def verifySealFrom (K : Crates) (r : SealedSessionRecord) (expectedSigner : PublicIdentity) :
    Except SealError Unit :=
  match r.recordSeal with
  | none => .error .notSealed
  | some recordSeal =>
    if recordSeal.sealerPubkey ≠ expectedSigner then
      .error (.signerMismatch expectedSigner.toHex recordSeal.sealerPubkey.toHex)
    else r.verifySeal K

def isSealed (r : SealedSessionRecord) : Bool := r.recordSeal.isSome

def sealer (r : SealedSessionRecord) : Option PublicIdentity :=
  r.recordSeal.map RecordSeal.sealerPubkey

def recordId (K : Crates) (r : SealedSessionRecord) : Bytes 32 := K.sha256 r.bodyDigest.toList

theorem verifyIntegrity_eq_ok_iff {K : Crates} {r : SealedSessionRecord} :
    r.verifyIntegrity K = .ok () ↔ r.computedBodyDigest K = r.bodyDigest := by
  unfold verifyIntegrity
  split_ifs with h <;> simp_all

/-- A seal is accepted over a body that has the stored digest. -/
theorem verifySeal_eq_ok_iff {K : Crates} {r : SealedSessionRecord} :
    r.verifySeal K = .ok () ↔ ∃ s, r.recordSeal = some s ∧
      r.computedBodyDigest K = r.bodyDigest ∧
      s.sealerPubkey.verify K r.sealPayload s.signature = .ok () := by
  unfold verifySeal
  cases r.recordSeal with
  | none => simp
  | some s =>
    by_cases hbody : r.computedBodyDigest K = r.bodyDigest
    · rw [verifyIntegrity_eq_ok_iff.mpr hbody]
      cases hv : s.sealerPubkey.verify K r.sealPayload s.signature with
      | error e => simp [hv]
      | ok u => simp [hbody, hv]
    · simp [verifyIntegrity, hbody]

theorem verifySealFrom_eq_ok_iff {K : Crates} {r : SealedSessionRecord}
    {expected : PublicIdentity} :
    r.verifySealFrom K expected = .ok () ↔ r.sealer = some expected ∧ r.verifySeal K = .ok () := by
  unfold verifySealFrom sealer
  cases hs : r.recordSeal with
  | none => simp
  | some s =>
    by_cases hsigner : s.sealerPubkey = expected
    · simp [hsigner]
    · simp [hsigner]

end SealedSessionRecord

namespace SealedSessionBuilder

def buildSealed (K : Crates) (now exportedAt sealedAt : UInt64) (b : SealedSessionBuilder)
    (identity : PartyIdentity) : Except SealError SealedSessionRecord := do
  let record ← b.build K now exportedAt
  return record.sealWith K sealedAt identity

/-- A record that was built and sealed verifies. -/
theorem verifySeal_sealWith_recordOf {K : Crates} {identity : PartyIdentity}
    (h : identity.Proper K) (b : SealedSessionBuilder) (startedAt exportedAt sealedAt : UInt64)
    (sessionId : String) :
    ((b.recordOf K startedAt exportedAt sessionId).sealWith K sealedAt identity).verifySeal K =
      .ok () :=
  SealedSessionRecord.verifySeal_eq_ok_iff.mpr ⟨_, rfl, rfl, h.verify_sign _⟩

end SealedSessionBuilder

end BlindOverlap
