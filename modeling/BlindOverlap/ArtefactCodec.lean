import BlindOverlap.Abort
import BlindOverlap.Attestation
import BlindOverlap.Invite
import BlindOverlap.Lease
import BlindOverlap.Lib.JsonCoding
import BlindOverlap.Reference
import BlindOverlap.Seal
import BlindOverlap.WireCodec

/-!
# Stored artefacts

The derived codings of the signed artefacts, field by field, and the texts made with
them. A field that is optional is left out when it is empty; only some of these have a
default when they are read.
-/
namespace BlindOverlap

open Json (Slot Keeps)

variable {n : ℕ}

/-! ## Parts -/

namespace PublicIdentity

/-- A key that can be a public identity at all. -/
def Decodes (K : Crates) (p : PublicIdentity) : Prop := K.verifyingKeyFromBytes p.bytes = .ok ()

/-- A key is written as hexadecimal. Reading it checks that it decodes. -/
def serialize (p : PublicIdentity) : Json := .string p.toHex

/-- Only keys that decode come back, so the results below ask it of every key. -/
theorem keeps {K : Crates} {p : PublicIdentity} (h : p.Decodes K) :
    Keeps n serialize (fromJson K) p where
  read_write := by
    have hbytes : fromBytes K p.bytes = .ok p := by
      simp only [fromBytes, show K.verifyingKeyFromBytes p.bytes = .ok () from h]
    simp [fromJson, serialize, fromHex_toHex, hbytes]
  storable := JsonText.storable_string _
  ne_null := fun h => Json.noConfusion h

end PublicIdentity

def TranscriptDigest.serialize (d : TranscriptDigest) : Json := Json.ofHex d.bytes

/-- Any 32 bytes are read as a digest. -/
def TranscriptDigest.deserialize (j : Json) : Except DecodeError TranscriptDigest :=
  TranscriptDigest.mk <$> Json.asHex 32 j

theorem TranscriptDigest.keeps (d : TranscriptDigest) : Keeps n serialize deserialize d :=
  ⟨by simp [serialize, deserialize], JsonText.storable_string _, fun h => Json.noConfusion h⟩

theorem SessionNonce.keeps (s : SessionNonce) : Keeps n toJson fromJson s :=
  ⟨fromJson_toJson s, JsonText.storable_string _, fun h => Json.noConfusion h⟩

/-! ## Invite tickets -/

def AllowedMode.variants : List (String × AllowedMode) :=
  [("intersection", .intersection), ("cardinality", .cardinality), ("any", .any)]

def AllowedMode.serialize : AllowedMode → Json := Json.ofVariant variants

def AllowedMode.deserialize : Json → Except DecodeError AllowedMode := Json.asVariant variants

theorem AllowedMode.keeps (m : AllowedMode) : Keeps n serialize deserialize m :=
  Json.keeps_variant (by decide) (by cases m <;> decide)

namespace InviteTicket

/-- The members of a ticket in the order of the type. -/
def fieldNames : List String :=
  ["version", "session_id", "issuer_pubkey", "peer_pubkey", "allowed_mode", "issued_at",
    "expires_at", "signature"]

/-- A ticket for anybody leaves the peer out. -/
def fields (t : InviteTicket) : List (String × Option Json) :=
  [("version", some (Json.ofUInt8 t.version)), ("session_id", some (.string t.sessionId)),
    ("issuer_pubkey", some t.issuerPubkey.serialize),
    ("peer_pubkey", t.peerPubkey.map PublicIdentity.serialize),
    ("allowed_mode", some t.allowedMode.serialize), ("issued_at", some (Json.ofUInt64 t.issuedAt)),
    ("expires_at", some (Json.ofUInt64 t.expiresAt)), ("signature", some (Json.ofHex t.signature))]

/-- A peer that is missing or null is nobody in particular; every other member is demanded. -/
def ofSlots (K : Crates) : List Slot → Except DecodeError InviteTicket
  | [version, sessionId, issuerPubkey, peerPubkey, allowedMode, issuedAt, expiresAt,
      signature] => do
    return {
      version := ← version.required "version" Json.asUInt8
      sessionId := ← sessionId.required "session_id" Json.asString
      issuerPubkey := ← issuerPubkey.required "issuer_pubkey" (PublicIdentity.fromJson K)
      peerPubkey := ← peerPubkey.optional (PublicIdentity.fromJson K)
      allowedMode := ← allowedMode.required "allowed_mode" AllowedMode.deserialize
      issuedAt := ← issuedAt.required "issued_at" Json.asUInt64
      expiresAt := ← expiresAt.required "expires_at" Json.asUInt64
      signature := ← signature.required "signature" (Json.asHex 64) }
  | _ => throw .invalidLength

def serialize (t : InviteTicket) : Json := Json.record t.fields

/-- Reading verifies nothing: the signature is a member like the others. This holds of every
artefact. -/
def deserialize (K : Crates) : Json → Except DecodeError InviteTicket :=
  Json.readRecord fieldNames (ofSlots K)

/-- The keys that a ticket holds. -/
def identities (t : InviteTicket) : List PublicIdentity := t.issuerPubkey :: t.peerPubkey.toList

/-- Every ticket is kept whose keys decode, whatever its signature is worth. -/
theorem keeps {K : Crates} {t : InviteTicket} (h : ∀ p ∈ t.identities, p.Decodes K) :
    Keeps (n + 1) serialize (deserialize K) t := by
  have hissuer : Keeps n _ _ _ := PublicIdentity.keeps (h t.issuerPubkey (by simp [identities]))
  have hpeer : ∀ p ∈ t.peerPubkey,
      Keeps n PublicIdentity.serialize (PublicIdentity.fromJson K) p :=
    fun p hp => PublicIdentity.keeps (h p (by simp_all [identities]))
  have hmode : Keeps n _ _ _ := t.allowedMode.keeps
  have hnames : fieldNames = t.fields.map Prod.fst := rfl
  refine Json.keeps_record hnames (show fieldNames.Nodup by decide) ?_ ?_
  · simp [fields, ofSlots, hissuer.read_write, Keeps.optional hpeer, hmode.read_write]
  · simp [fields, hissuer.storable, Keeps.storableField hpeer, hmode.storable]

end InviteTicket

/-! ## Session leases -/

namespace SessionLease

def fieldNames : List String :=
  ["version", "session_id", "issuer_pubkey", "peer_pubkey", "issued_at", "expires_at",
    "renew_count", "parent_lease_id", "signature"]

/-- The identifier of the parent is listed as numbers, unlike the other byte arrays. -/
def fields (l : SessionLease) : List (String × Option Json) :=
  [("version", some (Json.ofUInt8 l.version)), ("session_id", some (.string l.sessionId)),
    ("issuer_pubkey", some l.issuerPubkey.serialize),
    ("peer_pubkey", some l.peerPubkey.serialize), ("issued_at", some (Json.ofUInt64 l.issuedAt)),
    ("expires_at", some (Json.ofUInt64 l.expiresAt)),
    ("renew_count", some (Json.ofUInt32 l.renewCount)),
    ("parent_lease_id", l.parentLeaseId.map Json.ofBytes),
    ("signature", some (Json.ofHex l.signature))]

/-- A number of renewals that is missing is zero, while one that is null is an error. -/
def ofSlots (K : Crates) : List Slot → Except DecodeError SessionLease
  | [version, sessionId, issuerPubkey, peerPubkey, issuedAt, expiresAt, renewCount,
      parentLeaseId, signature] => do
    return {
      version := ← version.required "version" Json.asUInt8
      sessionId := ← sessionId.required "session_id" Json.asString
      issuerPubkey := ← issuerPubkey.required "issuer_pubkey" (PublicIdentity.fromJson K)
      peerPubkey := ← peerPubkey.required "peer_pubkey" (PublicIdentity.fromJson K)
      issuedAt := ← issuedAt.required "issued_at" Json.asUInt64
      expiresAt := ← expiresAt.required "expires_at" Json.asUInt64
      renewCount := ← renewCount.defaulted 0 Json.asUInt32
      parentLeaseId := ← parentLeaseId.optional (Json.asBytes 32)
      signature := ← signature.required "signature" (Json.asHex 64) }
  | _ => throw .invalidLength

def serialize (l : SessionLease) : Json := Json.record l.fields

/-- Nothing that is read ties a lease to its parent. -/
def deserialize (K : Crates) : Json → Except DecodeError SessionLease :=
  Json.readRecord fieldNames (ofSlots K)

/-- The keys that a lease holds. -/
def identities (l : SessionLease) : List PublicIdentity := [l.issuerPubkey, l.peerPubkey]

/-- The parent's list of numbers makes a lease one deeper than a ticket. -/
theorem keeps {K : Crates} {l : SessionLease} (h : ∀ p ∈ l.identities, p.Decodes K) :
    Keeps (n + 2) serialize (deserialize K) l := by
  have hissuer : Keeps (n + 1) _ _ _ :=
    PublicIdentity.keeps (h l.issuerPubkey (by simp [identities]))
  have hpeer : Keeps (n + 1) _ _ _ := PublicIdentity.keeps (h l.peerPubkey (by simp [identities]))
  have hparent : ∀ b ∈ l.parentLeaseId, Keeps (n + 1) Json.ofBytes (Json.asBytes 32) b :=
    fun b _ => Json.keeps_bytes b
  have hnames : fieldNames = l.fields.map Prod.fst := rfl
  refine Json.keeps_record hnames (show fieldNames.Nodup by decide) ?_ ?_
  · simp [fields, ofSlots, hissuer.read_write, hpeer.read_write, Keeps.optional hparent]
  · simp [fields, hissuer.storable, hpeer.storable, Keeps.storableField hparent]

end SessionLease

/-! ## Abort receipts -/

/-- The names of the reasons, words separated by underscores. -/
def AbortReason.variants : List (String × AbortReason) :=
  [("user_cancelled", .userCancelled), ("timeout", .timeout), ("protocol_error", .protocolError),
    ("network_error", .networkError), ("resource_exhaustion", .resourceExhaustion),
    ("policy_violation", .policyViolation), ("unknown", .unknown), ("custom", .custom)]

def AbortReason.serialize : AbortReason → Json := Json.ofVariant variants

def AbortReason.deserialize : Json → Except DecodeError AbortReason := Json.asVariant variants

theorem AbortReason.keeps (r : AbortReason) : Keeps n serialize deserialize r :=
  Json.keeps_variant (by decide) (by cases r <;> decide)

namespace AbortReceipt

def fieldNames : List String :=
  ["version", "session_id", "issuer_pubkey", "reason", "reason_text", "issued_at",
    "transcript_digest", "signature"]

/-- The text and the digest are left out when they are empty. -/
def fields (r : AbortReceipt) : List (String × Option Json) :=
  [("version", some (Json.ofUInt8 r.version)), ("session_id", some (.string r.sessionId)),
    ("issuer_pubkey", some r.issuerPubkey.serialize), ("reason", some r.reason.serialize),
    ("reason_text", r.reasonText.map .string), ("issued_at", some (Json.ofUInt64 r.issuedAt)),
    ("transcript_digest", r.transcriptDigest.map TranscriptDigest.serialize),
    ("signature", some (Json.ofHex r.signature))]

/-- A text of an empty string is a text, unlike one that is missing. -/
def ofSlots (K : Crates) : List Slot → Except DecodeError AbortReceipt
  | [version, sessionId, issuerPubkey, reason, reasonText, issuedAt, transcriptDigest,
      signature] => do
    return {
      version := ← version.required "version" Json.asUInt8
      sessionId := ← sessionId.required "session_id" Json.asString
      issuerPubkey := ← issuerPubkey.required "issuer_pubkey" (PublicIdentity.fromJson K)
      reason := ← reason.required "reason" AbortReason.deserialize
      reasonText := ← reasonText.optional Json.asString
      issuedAt := ← issuedAt.required "issued_at" Json.asUInt64
      transcriptDigest := ← transcriptDigest.optional TranscriptDigest.deserialize
      signature := ← signature.required "signature" (Json.asHex 64) }
  | _ => throw .invalidLength

def serialize (r : AbortReceipt) : Json := Json.record r.fields

def deserialize (K : Crates) : Json → Except DecodeError AbortReceipt :=
  Json.readRecord fieldNames (ofSlots K)

/-- The key that a receipt holds. -/
def identities (r : AbortReceipt) : List PublicIdentity := [r.issuerPubkey]

theorem keeps {K : Crates} {r : AbortReceipt} (h : ∀ p ∈ r.identities, p.Decodes K) :
    Keeps (n + 1) serialize (deserialize K) r := by
  have hissuer : Keeps n _ _ _ := PublicIdentity.keeps (h r.issuerPubkey (by simp [identities]))
  have htext : ∀ s ∈ r.reasonText, Keeps n .string Json.asString s :=
    fun s _ => Json.keeps_string s
  have hdigest : ∀ d ∈ r.transcriptDigest,
      Keeps n TranscriptDigest.serialize TranscriptDigest.deserialize d := fun d _ => d.keeps
  have hreason : Keeps n _ _ _ := r.reason.keeps
  have hnames : fieldNames = r.fields.map Prod.fst := rfl
  refine Json.keeps_record hnames (show fieldNames.Nodup by decide) ?_ ?_
  · simp [fields, ofSlots, hissuer.read_write, hreason.read_write, Keeps.optional htext,
      Keeps.optional hdigest]
  · simp [fields, hissuer.storable, hreason.storable, Keeps.storableField htext,
      Keeps.storableField hdigest]

end AbortReceipt

/-! ## Attestations -/

def AttestationMode.variants : List (String × AttestationMode) :=
  [("intersection", .intersection), ("cardinality", .cardinality)]

def AttestationMode.serialize : AttestationMode → Json := Json.ofVariant variants

def AttestationMode.deserialize : Json → Except DecodeError AttestationMode :=
  Json.asVariant variants

theorem AttestationMode.keeps (m : AttestationMode) : Keeps n serialize deserialize m :=
  Json.keeps_variant (by decide) (by cases m <;> decide)

namespace OverlapAttestation

/-- The members of an attestation, the second signature at the end. -/
def fieldNames : List String :=
  ["version", "session_id", "mode", "set_root_a", "set_root_b", "intersection_root",
    "cardinality", "transcript_digest", "issued_at", "expires_at", "issuer_pubkey", "signature",
    "co_signer_pubkey", "co_signature"]

/-- An attestation has a root or a number by its kind, and all that it lacks is left out. -/
def fields (a : OverlapAttestation) : List (String × Option Json) :=
  [("version", some (Json.ofUInt8 a.version)), ("session_id", a.sessionId.map .string),
    ("mode", some a.mode.serialize), ("set_root_a", some (Json.ofHex a.setRootA)),
    ("set_root_b", some (Json.ofHex a.setRootB)),
    ("intersection_root", a.intersectionRoot.map Json.ofHex),
    ("cardinality", a.cardinality.map Json.ofUInt64),
    ("transcript_digest", a.transcriptDigest.map TranscriptDigest.serialize),
    ("issued_at", some (Json.ofUInt64 a.issuedAt)),
    ("expires_at", some (Json.ofUInt64 a.expiresAt)),
    ("issuer_pubkey", some a.issuerPubkey.serialize), ("signature", some (Json.ofHex a.signature)),
    ("co_signer_pubkey", a.coSignerPubkey.map PublicIdentity.serialize),
    ("co_signature", a.coSignature.map Json.ofHex)]

/-- Every optional field but the session's identifier has a default. -/
def ofSlots (K : Crates) : List Slot → Except DecodeError OverlapAttestation
  | [version, sessionId, mode, setRootA, setRootB, intersectionRoot, cardinality,
      transcriptDigest, issuedAt, expiresAt, issuerPubkey, signature, coSignerPubkey,
      coSignature] => do
    return {
      version := ← version.required "version" Json.asUInt8
      sessionId := ← sessionId.optional Json.asString
      mode := ← mode.required "mode" AttestationMode.deserialize
      setRootA := ← setRootA.required "set_root_a" (Json.asHex 32)
      setRootB := ← setRootB.required "set_root_b" (Json.asHex 32)
      intersectionRoot := ← intersectionRoot.defaulted none (Json.asOption (Json.asHex 32))
      cardinality := ← cardinality.defaulted none (Json.asOption Json.asUInt64)
      transcriptDigest :=
        ← transcriptDigest.defaulted none (Json.asOption TranscriptDigest.deserialize)
      issuedAt := ← issuedAt.required "issued_at" Json.asUInt64
      expiresAt := ← expiresAt.required "expires_at" Json.asUInt64
      issuerPubkey := ← issuerPubkey.required "issuer_pubkey" (PublicIdentity.fromJson K)
      signature := ← signature.required "signature" (Json.asHex 64)
      coSignerPubkey := ← coSignerPubkey.defaulted none (Json.asOption (PublicIdentity.fromJson K))
      coSignature := ← coSignature.defaulted none (Json.asOption (Json.asHex 64)) }
  | _ => throw .invalidLength

def serialize (a : OverlapAttestation) : Json := Json.record a.fields

/-- An attestation is read without the root or the number that its kind would have. -/
def deserialize (K : Crates) : Json → Except DecodeError OverlapAttestation :=
  Json.readRecord fieldNames (ofSlots K)

/-- The keys that an attestation holds. -/
def identities (a : OverlapAttestation) : List PublicIdentity :=
  a.issuerPubkey :: a.coSignerPubkey.toList

theorem keeps {K : Crates} {a : OverlapAttestation} (h : ∀ p ∈ a.identities, p.Decodes K) :
    Keeps (n + 1) serialize (deserialize K) a := by
  have hissuer : Keeps n _ _ _ := PublicIdentity.keeps (h a.issuerPubkey (by simp [identities]))
  have hcoSigner : ∀ p ∈ a.coSignerPubkey,
      Keeps n PublicIdentity.serialize (PublicIdentity.fromJson K) p :=
    fun p hp => PublicIdentity.keeps (h p (by simp_all [identities]))
  have hsession : ∀ s ∈ a.sessionId, Keeps n .string Json.asString s :=
    fun s _ => Json.keeps_string s
  have hroot : ∀ b ∈ a.intersectionRoot, Keeps n Json.ofHex (Json.asHex 32) b :=
    fun b _ => Json.keeps_hex b
  have hcount : ∀ c ∈ a.cardinality, Keeps n Json.ofUInt64 Json.asUInt64 c :=
    fun c _ => Json.keeps_uint64 c
  have hdigest : ∀ d ∈ a.transcriptDigest,
      Keeps n TranscriptDigest.serialize TranscriptDigest.deserialize d := fun d _ => d.keeps
  have hcoSignature : ∀ b ∈ a.coSignature, Keeps n Json.ofHex (Json.asHex 64) b :=
    fun b _ => Json.keeps_hex b
  have hmode : Keeps n _ _ _ := a.mode.keeps
  have hnames : fieldNames = a.fields.map Prod.fst := rfl
  refine Json.keeps_record hnames (show fieldNames.Nodup by decide) ?_ ?_
  · simp [fields, ofSlots, hissuer.read_write, hmode.read_write, Keeps.optional hsession,
      Keeps.defaulted hroot, Keeps.defaulted hcount, Keeps.defaulted hdigest,
      Keeps.defaulted hcoSigner, Keeps.defaulted hcoSignature]
  · simp [fields, hissuer.storable, hmode.storable, Keeps.storableField hsession,
      Keeps.storableField hroot, Keeps.storableField hcount, Keeps.storableField hdigest,
      Keeps.storableField hcoSigner, Keeps.storableField hcoSignature]

end OverlapAttestation

/-! ## Receipts -/

/-- These names are those of the type, with capitals, unlike the other enumerations. -/
def ReceiptMode.variants : List (String × ReceiptMode) :=
  [("Intersection", .intersection), ("Cardinality", .cardinality)]

def ReceiptMode.serialize : ReceiptMode → Json := Json.ofVariant variants

def ReceiptMode.deserialize : Json → Except DecodeError ReceiptMode := Json.asVariant variants

theorem ReceiptMode.keeps (m : ReceiptMode) : Keeps n serialize deserialize m :=
  Json.keeps_variant (by decide) (by cases m <;> decide)

namespace IntersectionReceipt

def fieldNames : List String :=
  ["version", "set_root_a", "set_root_b", "result_commitment", "mode", "signature",
    "signer_public_key"]

/-- All members are always written, byte arrays in hexadecimal. -/
def fields (r : IntersectionReceipt) : List (String × Option Json) :=
  [("version", some (Json.ofUInt8 r.version)), ("set_root_a", some (Json.ofHex r.setRootA)),
    ("set_root_b", some (Json.ofHex r.setRootB)),
    ("result_commitment", some (Json.ofHex r.resultCommitment)), ("mode", some r.mode.serialize),
    ("signature", some (Json.ofHex r.signature)),
    ("signer_public_key", some (Json.ofHex r.signerPublicKey))]

def ofSlots : List Slot → Except DecodeError IntersectionReceipt
  | [version, setRootA, setRootB, resultCommitment, mode, signature, signerPublicKey] => do
    return {
      version := ← version.required "version" Json.asUInt8
      setRootA := ← setRootA.required "set_root_a" (Json.asHex 32)
      setRootB := ← setRootB.required "set_root_b" (Json.asHex 32)
      resultCommitment := ← resultCommitment.required "result_commitment" (Json.asHex 32)
      mode := ← mode.required "mode" ReceiptMode.deserialize
      signature := ← signature.required "signature" (Json.asHex 64)
      signerPublicKey := ← signerPublicKey.required "signer_public_key" (Json.asHex 32) }
  | _ => throw .invalidLength

def serialize (r : IntersectionReceipt) : Json := Json.record r.fields

/-- The version is read as any number of a byte. -/
def deserialize : Json → Except DecodeError IntersectionReceipt :=
  Json.readRecord fieldNames ofSlots

/-- The signer's key is stored as bytes and need not decode. -/
theorem keeps (r : IntersectionReceipt) : Keeps (n + 1) serialize deserialize r := by
  have hmode : Keeps n _ _ _ := r.mode.keeps
  have hnames : fieldNames = r.fields.map Prod.fst := rfl
  refine Json.keeps_record hnames (show fieldNames.Nodup by decide) ?_ ?_
  · simp [fields, ofSlots, hmode.read_write]
  · simp [fields, hmode.storable]

end IntersectionReceipt

namespace WireBoundReceipt

/-- The members of a receipt, with the session and what it was bound to. -/
def fieldNames : List String :=
  ["version", "session_id", "transcript_digest", "initiator_nonce", "responder_nonce",
    "set_root_a", "set_root_b", "result_commitment", "mode", "signature", "signer_public_key"]

/-- The digest and both nonces are always written, so a bound receipt cannot lose them. -/
def fields (r : WireBoundReceipt) : List (String × Option Json) :=
  [("version", some (Json.ofUInt8 r.version)), ("session_id", some (.string r.sessionId)),
    ("transcript_digest", some r.transcriptDigest.serialize),
    ("initiator_nonce", some r.initiatorNonce.toJson),
    ("responder_nonce", some r.responderNonce.toJson),
    ("set_root_a", some (Json.ofHex r.setRootA)), ("set_root_b", some (Json.ofHex r.setRootB)),
    ("result_commitment", some (Json.ofHex r.resultCommitment)), ("mode", some r.mode.serialize),
    ("signature", some (Json.ofHex r.signature)),
    ("signer_public_key", some (Json.ofHex r.signerPublicKey))]

/-- All members are demanded, as in a receipt that is not bound to a session. -/
def ofSlots : List Slot → Except DecodeError WireBoundReceipt
  | [version, sessionId, transcriptDigest, initiatorNonce, responderNonce, setRootA, setRootB,
      resultCommitment, mode, signature, signerPublicKey] => do
    return {
      version := ← version.required "version" Json.asUInt8
      sessionId := ← sessionId.required "session_id" Json.asString
      transcriptDigest :=
        ← transcriptDigest.required "transcript_digest" TranscriptDigest.deserialize
      initiatorNonce := ← initiatorNonce.required "initiator_nonce" SessionNonce.fromJson
      responderNonce := ← responderNonce.required "responder_nonce" SessionNonce.fromJson
      setRootA := ← setRootA.required "set_root_a" (Json.asHex 32)
      setRootB := ← setRootB.required "set_root_b" (Json.asHex 32)
      resultCommitment := ← resultCommitment.required "result_commitment" (Json.asHex 32)
      mode := ← mode.required "mode" ReceiptMode.deserialize
      signature := ← signature.required "signature" (Json.asHex 64)
      signerPublicKey := ← signerPublicKey.required "signer_public_key" (Json.asHex 32) }
  | _ => throw .invalidLength

def serialize (r : WireBoundReceipt) : Json := Json.record r.fields

def deserialize : Json → Except DecodeError WireBoundReceipt := Json.readRecord fieldNames ofSlots

/-- As for receipts, the signer's key need not decode. -/
theorem keeps (r : WireBoundReceipt) : Keeps (n + 1) serialize deserialize r := by
  have hmode : Keeps n _ _ _ := r.mode.keeps
  have hdigest : Keeps n _ _ _ := r.transcriptDigest.keeps
  have hinitiator : Keeps n _ _ _ := r.initiatorNonce.keeps
  have hresponder : Keeps n _ _ _ := r.responderNonce.keeps
  have hnames : fieldNames = r.fields.map Prod.fst := rfl
  refine Json.keeps_record hnames (show fieldNames.Nodup by decide) ?_ ?_
  · simp [fields, ofSlots, hdigest.read_write, hmode.read_write]
  · simp [fields, hdigest.storable, hinitiator.storable, hresponder.storable,
      hmode.storable]

end WireBoundReceipt

/-! ## Sealed records -/

def MessageDirection.variants : List (String × MessageDirection) :=
  [("sent", .sent), ("received", .received)]

def MessageDirection.serialize : MessageDirection → Json := Json.ofVariant variants

def MessageDirection.deserialize : Json → Except DecodeError MessageDirection :=
  Json.asVariant variants

theorem MessageDirection.keeps (d : MessageDirection) : Keeps n serialize deserialize d :=
  Json.keeps_variant (by decide) (by cases d <;> decide)

/-- The names of the states that a record can be in. -/
def SessionStatus.variants : List (String × SessionStatus) :=
  [("in_progress", .inProgress), ("completed", .completed), ("failed", .failed),
    ("aborted", .aborted)]

def SessionStatus.serialize : SessionStatus → Json := Json.ofVariant variants

def SessionStatus.deserialize : Json → Except DecodeError SessionStatus := Json.asVariant variants

theorem SessionStatus.keeps (s : SessionStatus) : Keeps n serialize deserialize s :=
  Json.keeps_variant (by decide) (by cases s <;> decide)

namespace WireMessageEntry

def fieldNames : List String :=
  ["sequence", "direction", "message_type", "timestamp", "size_bytes", "message_hash", "content"]

/-- An entry can stand for its message by the hash alone; the content is then left out. -/
def fields (e : WireMessageEntry) : List (String × Option Json) :=
  [("sequence", some (Json.ofUInt32 e.sequence)), ("direction", some e.direction.serialize),
    ("message_type", some (.string e.messageType)),
    ("timestamp", some (Json.ofUInt64 e.timestamp)),
    ("size_bytes", some (Json.ofUInt64 e.sizeBytes)),
    ("message_hash", some (Json.ofHex e.messageHash)), ("content", e.content.map .string)]

/-- Nothing compares the content with the hash or the size. -/
def ofSlots : List Slot → Except DecodeError WireMessageEntry
  | [sequence, direction, messageType, timestamp, sizeBytes, messageHash, content] => do
    return {
      sequence := ← sequence.required "sequence" Json.asUInt32
      direction := ← direction.required "direction" MessageDirection.deserialize
      messageType := ← messageType.required "message_type" Json.asString
      timestamp := ← timestamp.required "timestamp" Json.asUInt64
      sizeBytes := ← sizeBytes.required "size_bytes" Json.asUInt64
      messageHash := ← messageHash.required "message_hash" (Json.asHex 32)
      content := ← content.optional Json.asString }
  | _ => throw .invalidLength

def serialize (e : WireMessageEntry) : Json := Json.record e.fields

def deserialize : Json → Except DecodeError WireMessageEntry := Json.readRecord fieldNames ofSlots

theorem keeps (e : WireMessageEntry) : Keeps (n + 1) serialize deserialize e := by
  have hcontent : ∀ s ∈ e.content, Keeps n .string Json.asString s :=
    fun s _ => Json.keeps_string s
  have hdirection : Keeps n _ _ _ := e.direction.keeps
  have hnames : fieldNames = e.fields.map Prod.fst := rfl
  refine Json.keeps_record hnames (show fieldNames.Nodup by decide) ?_ ?_
  · simp [fields, ofSlots, hdirection.read_write, Keeps.optional hcontent]
  · simp [fields, hdirection.storable, Keeps.storableField hcontent]

end WireMessageEntry

namespace RecordSeal

def fieldNames : List String := ["sealer_pubkey", "sealed_at", "signature"]

def fields (s : RecordSeal) : List (String × Option Json) :=
  [("sealer_pubkey", some s.sealerPubkey.serialize), ("sealed_at", some (Json.ofUInt64 s.sealedAt)),
    ("signature", some (Json.ofHex s.signature))]

/-- The sealer's key has to decode. -/
def ofSlots (K : Crates) : List Slot → Except DecodeError RecordSeal
  | [sealerPubkey, sealedAt, signature] => do
    return {
      sealerPubkey := ← sealerPubkey.required "sealer_pubkey" (PublicIdentity.fromJson K)
      sealedAt := ← sealedAt.required "sealed_at" Json.asUInt64
      signature := ← signature.required "signature" (Json.asHex 64) }
  | _ => throw .invalidLength

def serialize (s : RecordSeal) : Json := Json.record s.fields

def deserialize (K : Crates) : Json → Except DecodeError RecordSeal :=
  Json.readRecord fieldNames (ofSlots K)

theorem keeps {K : Crates} {s : RecordSeal} (h : s.sealerPubkey.Decodes K) :
    Keeps (n + 1) serialize (deserialize K) s := by
  have hsealer : Keeps n _ _ _ := PublicIdentity.keeps h
  have hnames : fieldNames = s.fields.map Prod.fst := rfl
  refine Json.keeps_record hnames (show fieldNames.Nodup by decide) ?_ ?_
  · simp [fields, ofSlots, hsealer.read_write]
  · simp [fields, hsealer.storable]

end RecordSeal

namespace SealedSessionRecord

def messagesToJson (l : List WireMessageEntry) : Json := .array (l.map WireMessageEntry.serialize)

/-- The members of a record, the digest and the seal at the end. -/
def fieldNames : List String :=
  ["version", "session_id", "protocol_version", "status", "started_at", "exported_at",
    "local_pubkey", "peer_pubkey", "messages", "transcript_digest", "initiator_nonce",
    "responder_nonce", "receipt", "body_digest", "seal"]

/-- What a record does not have is left out, the seal included. -/
def fields (r : SealedSessionRecord) : List (String × Option Json) :=
  [("version", some (Json.ofUInt8 r.version)), ("session_id", some (.string r.sessionId)),
    ("protocol_version", some (Json.ofUInt8 r.protocolVersion)),
    ("status", some r.status.serialize), ("started_at", some (Json.ofUInt64 r.startedAt)),
    ("exported_at", some (Json.ofUInt64 r.exportedAt)),
    ("local_pubkey", r.localPubkey.map PublicIdentity.serialize),
    ("peer_pubkey", r.peerPubkey.map PublicIdentity.serialize),
    ("messages", some (messagesToJson r.messages)),
    ("transcript_digest", r.transcriptDigest.map TranscriptDigest.serialize),
    ("initiator_nonce", r.initiatorNonce.map SessionNonce.toJson),
    ("responder_nonce", r.responderNonce.map SessionNonce.toJson),
    ("receipt", r.receipt.map WireBoundReceipt.serialize),
    ("body_digest", some (Json.ofHex r.bodyDigest)),
    ("seal", r.recordSeal.map RecordSeal.serialize)]

/-- The digest is read and not computed, so that a record can hold any. -/
def ofSlots (K : Crates) : List Slot → Except DecodeError SealedSessionRecord
  | [version, sessionId, protocolVersion, status, startedAt, exportedAt, localPubkey, peerPubkey,
      messages, transcriptDigest, initiatorNonce, responderNonce, receipt, bodyDigest,
      recordSeal] => do
    return {
      version := ← version.required "version" Json.asUInt8
      sessionId := ← sessionId.required "session_id" Json.asString
      protocolVersion := ← protocolVersion.required "protocol_version" Json.asUInt8
      status := ← status.required "status" SessionStatus.deserialize
      startedAt := ← startedAt.required "started_at" Json.asUInt64
      exportedAt := ← exportedAt.required "exported_at" Json.asUInt64
      localPubkey := ← localPubkey.optional (PublicIdentity.fromJson K)
      peerPubkey := ← peerPubkey.optional (PublicIdentity.fromJson K)
      messages := ← messages.required "messages" (Json.asList WireMessageEntry.deserialize)
      transcriptDigest := ← transcriptDigest.optional TranscriptDigest.deserialize
      initiatorNonce := ← initiatorNonce.optional SessionNonce.fromJson
      responderNonce := ← responderNonce.optional SessionNonce.fromJson
      receipt := ← receipt.optional WireBoundReceipt.deserialize
      bodyDigest := ← bodyDigest.required "body_digest" (Json.asHex 32)
      recordSeal := ← recordSeal.optional (RecordSeal.deserialize K) }
  | _ => throw .invalidLength

def serialize (r : SealedSessionRecord) : Json := Json.record r.fields

/-- The seal is one member of the record and does not wrap it. -/
def deserialize (K : Crates) : Json → Except DecodeError SealedSessionRecord :=
  Json.readRecord fieldNames (ofSlots K)

/-- The keys that a record holds, its receipt's apart. -/
def identities (r : SealedSessionRecord) : List PublicIdentity :=
  r.localPubkey.toList ++ r.peerPubkey.toList ++ (r.recordSeal.map RecordSeal.sealerPubkey).toList

/-- The list of entries makes a record the deepest of the artefacts. -/
theorem keeps {K : Crates} {r : SealedSessionRecord} (h : ∀ p ∈ r.identities, p.Decodes K) :
    Keeps (n + 3) serialize (deserialize K) r := by
  have hlocal : ∀ p ∈ r.localPubkey,
      Keeps (n + 2) PublicIdentity.serialize (PublicIdentity.fromJson K) p :=
    fun p hp => PublicIdentity.keeps (h p (by simp_all [identities]))
  have hpeer : ∀ p ∈ r.peerPubkey,
      Keeps (n + 2) PublicIdentity.serialize (PublicIdentity.fromJson K) p :=
    fun p hp => PublicIdentity.keeps (h p (by simp_all [identities]))
  have hmessages :
      Keeps (n + 2) messagesToJson (Json.asList WireMessageEntry.deserialize) r.messages :=
    Json.keeps_list (fun e _ => e.keeps)
  have hdigest : ∀ d ∈ r.transcriptDigest,
      Keeps (n + 2) TranscriptDigest.serialize TranscriptDigest.deserialize d := fun d _ => d.keeps
  have hinitiator : ∀ s ∈ r.initiatorNonce,
      Keeps (n + 2) SessionNonce.toJson SessionNonce.fromJson s := fun s _ => s.keeps
  have hresponder : ∀ s ∈ r.responderNonce,
      Keeps (n + 2) SessionNonce.toJson SessionNonce.fromJson s := fun s _ => s.keeps
  have hreceipt : ∀ w ∈ r.receipt,
      Keeps (n + 2) WireBoundReceipt.serialize WireBoundReceipt.deserialize w :=
    fun w _ => w.keeps
  have hseal : ∀ s ∈ r.recordSeal,
      Keeps (n + 2) RecordSeal.serialize (RecordSeal.deserialize K) s :=
    fun s hs => RecordSeal.keeps (h s.sealerPubkey (by simp_all [identities]))
  have hstatus : Keeps (n + 2) _ _ _ := r.status.keeps
  have hnames : fieldNames = r.fields.map Prod.fst := rfl
  refine Json.keeps_record hnames (show fieldNames.Nodup by decide) ?_ ?_
  · simp [fields, ofSlots, hstatus.read_write, hmessages.read_write, Keeps.optional hlocal,
      Keeps.optional hpeer, Keeps.optional hdigest, Keeps.optional hinitiator,
      Keeps.optional hresponder, Keeps.optional hreceipt, Keeps.optional hseal]
  · simp [fields, hstatus.storable, hmessages.storable, Keeps.storableField hlocal,
      Keeps.storableField hpeer, Keeps.storableField hdigest, Keeps.storableField hinitiator,
      Keeps.storableField hresponder, Keeps.storableField hreceipt, Keeps.storableField hseal]

end SealedSessionRecord

end BlindOverlap
