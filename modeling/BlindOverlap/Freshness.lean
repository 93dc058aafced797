import BlindOverlap.Crates

/-!
# Nonces and deadlines

A reading of the system clock is an argument of whatever reads it.
-/
namespace BlindOverlap

/-- How long a session is good for when nothing else is asked: five minutes. -/
def defaultTtlSecs : UInt64 := 300

/-- The domain that every transcript digest starts with. -/
def transcriptDomain : List UInt8 := utf8 "BlindOverlap:TranscriptDigest:v1"

/-- Why a message is not fresh. Times are seconds of the clock, nonces are given in
hexadecimal. -/
inductive FreshnessError where
  | sessionExpired (issuedAt expiresAt now : UInt64)
  | nonceMismatch (expected got : String)
  | replayDetected (what : String)
  | invalidTimestamp (reason : String)
  | missingFields (fields : String)
  deriving DecidableEq

/-- The random bytes by which a party tells its sessions apart. Drawing them is left to the
caller, so a nonce is an argument wherever the code generates one. -/
structure SessionNonce where
  bytes : Bytes 32
  deriving DecidableEq, Hashable

namespace SessionNonce

/-- Nonces have a fixed width, so that where one ends is known. -/
theorem bytes_selfDelimiting : Framing.SelfDelimiting (fun n : SessionNonce => n.bytes.toList) :=
  (Framing.SelfDelimiting.bytes 32).comp (fun _ _ => congrArg SessionNonce.mk)

def toHex (n : SessionNonce) : String := Hex.encode n.bytes.toList

/-- Digits of either case are read; a text of another length is an error of its length. -/
def fromHex (s : String) : Except FromHexError SessionNonce :=
  SessionNonce.mk <$> Hex.decodeArray 32 s

@[simp] theorem fromHex_toHex (n : SessionNonce) : fromHex n.toHex = .ok n := by
  simp [fromHex, toHex]

end SessionNonce

/-- A hash over what two parties sent each other. -/
structure TranscriptDigest where
  bytes : Bytes 32
  deriving DecidableEq, Hashable

namespace TranscriptDigest

theorem bytes_selfDelimiting :
    Framing.SelfDelimiting (fun d : TranscriptDigest => d.bytes.toList) :=
  (Framing.SelfDelimiting.bytes 32).comp (fun _ _ => congrArg TranscriptDigest.mk)

def toHex (d : TranscriptDigest) : String := Hex.encode d.bytes.toList

def fromHex (s : String) : Except FromHexError TranscriptDigest :=
  TranscriptDigest.mk <$> Hex.decodeArray 32 s

@[simp] theorem fromHex_toHex (d : TranscriptDigest) : fromHex d.toHex = .ok d := by
  simp [fromHex, toHex]

/-- A labelled list of elements, their number first. -/
def elementBytes (label : String) (elements : List (Bytes 32)) : List UInt8 :=
  utf8 label ++ leBytes 8 elements.length ++ elements.flatMap Bytes.toList

/-- The bytes that are hashed; the parts that are absent leave no trace. -/
def computeInput (sessionId : String) (initiatorNonce : SessionNonce)
    (responderNonce : Option SessionNonce) (offerElements : List (Bytes 32))
    (replyResponderMasked replyInitiatorDoublyMasked : Option (List (Bytes 32))) : List UInt8 :=
  transcriptDomain ++ utf8 ":session:" ++ utf8 sessionId ++
    utf8 ":initiator_nonce:" ++ initiatorNonce.bytes.toList ++
    responderNonce.elim [] (fun n => utf8 ":responder_nonce:" ++ n.bytes.toList) ++
    elementBytes ":offer_elements:" offerElements ++
    replyResponderMasked.elim [] (elementBytes ":reply_responder_masked:") ++
    replyInitiatorDoublyMasked.elim [] (elementBytes ":reply_initiator_doubly_masked:")

/-- For one session and one list of elements the bytes determine the nonces. -/
theorem nonces_eq_of_computeInput_eq {sessionId : String} {n n' : SessionNonce}
    {responder responder' : Option SessionNonce} {elements : List (Bytes 32)}
    (h : computeInput sessionId n responder elements none none =
      computeInput sessionId n' responder' elements none none) :
    n = n' ∧ responder = responder' := by
  have hnonce : ∀ a b : SessionNonce, a.bytes.toList = b.bytes.toList → a = b :=
    fun a b hab => congrArg SessionNonce.mk (Bytes.toList_injective hab)
  simp only [computeInput, Option.elim_none, List.append_nil] at h
  have h := List.append_cancel_right h
  cases responder with
  | none =>
    cases responder' with
    | none => exact ⟨hnonce _ _ (List.append_cancel_left (List.append_cancel_right h)), rfl⟩
    | some r' =>
      have hlength := congrArg List.length h
      simp [Bytes.length_toList] at hlength
  | some r =>
    cases responder' with
    | none =>
      have hlength := congrArg List.length h
      simp [Bytes.length_toList] at hlength
    | some r' =>
      simp only [Option.elim_some] at h
      obtain ⟨hinitiator, hresponder⟩ := List.append_inj' h (by simp [Bytes.length_toList])
      have hr := hnonce _ _ (List.append_cancel_left hresponder)
      exact ⟨hnonce _ _ (List.append_cancel_left hinitiator), congrArg some hr⟩

/-- One session's digest. The responder's part is optional, since a digest can be computed
before the reply has come. -/
def compute (K : Crates) (sessionId : String) (initiatorNonce : SessionNonce)
    (responderNonce : Option SessionNonce) (offerElements : List (Bytes 32))
    (replyResponderMasked replyInitiatorDoublyMasked : Option (List (Bytes 32))) :
    TranscriptDigest :=
  ⟨K.sha256 (computeInput sessionId initiatorNonce responderNonce offerElements
    replyResponderMasked replyInitiatorDoublyMasked)⟩

end TranscriptDigest

/-- Addition of times, stopping at the largest one. -/
def saturatingAdd (a b : UInt64) : UInt64 :=
  if a.toNat + b.toNat < UInt64.size then a + b else UInt64.ofNat (UInt64.size - 1)

/-- When a message was made and until when it is good, in seconds of the clock. -/
structure SessionDeadline where
  issuedAt : UInt64
  expiresAt : UInt64
  deriving DecidableEq

namespace SessionDeadline

/-- A deadline from now on. A lifetime beyond the last second ends at the last second. -/
def new (now ttlSecs : UInt64) : SessionDeadline := ⟨now, saturatingAdd now ttlSecs⟩

/-- The last second itself is too late. -/
def isExpired (now : UInt64) (d : SessionDeadline) : Bool := decide (d.expiresAt ≤ now)

/-- A deadline that ends before it starts is an error whatever the time is, and is found
before the clock is looked at. -/
def validate (now : UInt64) (d : SessionDeadline) : Except FreshnessError Unit :=
  if d.expiresAt ≤ d.issuedAt then
    .error (.invalidTimestamp "expires_at must be after issued_at")
  else if d.expiresAt ≤ now then .error (.sessionExpired d.issuedAt d.expiresAt now)
  else .ok ()

theorem validate_eq_ok_iff {now : UInt64} {d : SessionDeadline} :
    d.validate now = .ok () ↔ d.issuedAt < d.expiresAt ∧ now < d.expiresAt := by
  unfold validate
  split_ifs with h1 h2
  · simp [UInt64.not_lt.mpr h1]
  · simp [UInt64.not_lt.mpr h2]
  · simp [UInt64.not_le.mp h1, UInt64.not_le.mp h2]

end SessionDeadline

end BlindOverlap
