import BlindOverlap.Reference
import BlindOverlap.Wire

/-!
# JSON coding and signing of wire messages

Each message lists its fields once, with their names and JSON forms; the derived
coding of records does the rest. A message accepted by its validator reads back
as itself, and nothing else is ever returned by a decoder.
-/
namespace BlindOverlap

/-- A nonce is written as one hexadecimal string; digits of either case are read. -/
def SessionNonce.toJson (n : SessionNonce) : Json := Json.ofHex n.bytes

def SessionNonce.fromJson (j : Json) : Except DecodeError SessionNonce :=
  SessionNonce.mk <$> Json.asHex 32 j

@[simp] theorem SessionNonce.fromJson_toJson (n : SessionNonce) : fromJson n.toJson = .ok n := by
  simp [fromJson, toJson]

/-- Masked elements are a list of hexadecimal strings. -/
def elementsToJson (l : List MaskedElement) : Json := .array (l.map Json.ofHex)

/-- One element that is no string of 64 digits makes the list an error. -/
def elementsFromJson (j : Json) : Except DecodeError (List MaskedElement) :=
  Json.asList (Json.asHex 32) j

@[simp] theorem elementsFromJson_toJson (l : List MaskedElement) :
    elementsFromJson (elementsToJson l) = .ok l :=
  Json.asList_array_map Json.asHex_ofHex l

/-- A field that is left out when it is empty comes back as it was. The types of the three
optional fields each need this once. -/
@[simp] theorem optional_nonce (o : Option SessionNonce) :
    (o.elim Json.Slot.absent (Json.Slot.present ∘ SessionNonce.toJson)).optional
      SessionNonce.fromJson = .ok o :=
  Json.optional_elim SessionNonce.fromJson_toJson (fun _ h => Json.noConfusion h) o

@[simp] theorem optional_time (o : Option UInt64) :
    (o.elim Json.Slot.absent (Json.Slot.present ∘ Json.ofUInt64)).optional
      Json.asUInt64 = .ok o :=
  Json.optional_elim Json.asUInt64_ofUInt64 (fun _ h => Json.noConfusion h) o

@[simp] theorem optional_text (o : Option String) :
    (o.elim Json.Slot.absent (Json.Slot.present ∘ Json.string)).optional
      Json.asString = .ok o :=
  Json.optional_elim Json.asString_string (fun _ h => Json.noConfusion h) o

namespace MaskedSetOffer

/-- The members in the order of the type, which is the order of the text. The other messages
list theirs alike. -/
def fieldNames : List String :=
  ["version", "tag", "session_id", "masked_elements", "nonce", "issued_at", "expires_at"]

/-- What is written for each member; a freshness field that is empty is left out. -/
def fields (m : MaskedSetOffer) : List (String × Option Json) :=
  [("version", some (Json.ofUInt8 m.version)), ("tag", some (.string m.tag)),
    ("session_id", some (.string m.sessionId)),
    ("masked_elements", some (elementsToJson m.maskedElements)),
    ("nonce", m.nonce.map SessionNonce.toJson), ("issued_at", m.issuedAt.map Json.ofUInt64),
    ("expires_at", m.expiresAt.map Json.ofUInt64)]

/-- A freshness field may be missing or null. Whether it had to be there is left to the
validator, for replies and reveals too. -/
def fromJson (j : Json) : Except DecodeError MaskedSetOffer := do
  match ← Json.slots fieldNames j with
  | [version, tag, sessionId, maskedElements, nonce, issuedAt, expiresAt] =>
    return {
      version := ← version.required "version" Json.asUInt8
      tag := ← tag.required "tag" Json.asString
      sessionId := ← sessionId.required "session_id" Json.asString
      maskedElements := ← maskedElements.required "masked_elements" elementsFromJson
      nonce := ← nonce.optional SessionNonce.fromJson
      issuedAt := ← issuedAt.optional Json.asUInt64
      expiresAt := ← expiresAt.optional Json.asUInt64 }
  | _ => throw .invalidLength

/-- Every offer is read as it was written, valid or not. -/
theorem fromJson_record (m : MaskedSetOffer) : fromJson (Json.record m.fields) = .ok m := by
  have hslots : Json.slots (m.fields.map Prod.fst) (Json.record m.fields) = .ok _ :=
    Json.slots_record (show fieldNames.Nodup by decide)
  rw [fromJson, show fieldNames = m.fields.map Prod.fst from rfl, hslots]
  simp [fields]

end MaskedSetOffer

namespace MaskedSetReply

def fieldNames : List String :=
  ["version", "tag", "session_id", "responder_masked", "initiator_doubly_masked",
    "initiator_nonce", "responder_nonce", "issued_at", "expires_at"]

/-- Both nonces and both timestamps are left out when they are empty. -/
def fields (m : MaskedSetReply) : List (String × Option Json) :=
  [("version", some (Json.ofUInt8 m.version)), ("tag", some (.string m.tag)),
    ("session_id", some (.string m.sessionId)),
    ("responder_masked", some (elementsToJson m.responderMasked)),
    ("initiator_doubly_masked", some (elementsToJson m.initiatorDoublyMasked)),
    ("initiator_nonce", m.initiatorNonce.map SessionNonce.toJson),
    ("responder_nonce", m.responderNonce.map SessionNonce.toJson),
    ("issued_at", m.issuedAt.map Json.ofUInt64), ("expires_at", m.expiresAt.map Json.ofUInt64)]

def fromJson (j : Json) : Except DecodeError MaskedSetReply := do
  match ← Json.slots fieldNames j with
  | [version, tag, sessionId, responderMasked, initiatorDoublyMasked, initiatorNonce,
      responderNonce, issuedAt, expiresAt] =>
    return {
      version := ← version.required "version" Json.asUInt8
      tag := ← tag.required "tag" Json.asString
      sessionId := ← sessionId.required "session_id" Json.asString
      responderMasked := ← responderMasked.required "responder_masked" elementsFromJson
      initiatorDoublyMasked :=
        ← initiatorDoublyMasked.required "initiator_doubly_masked" elementsFromJson
      initiatorNonce := ← initiatorNonce.optional SessionNonce.fromJson
      responderNonce := ← responderNonce.optional SessionNonce.fromJson
      issuedAt := ← issuedAt.optional Json.asUInt64
      expiresAt := ← expiresAt.optional Json.asUInt64 }
  | _ => throw .invalidLength

theorem fromJson_record (m : MaskedSetReply) : fromJson (Json.record m.fields) = .ok m := by
  have hslots : Json.slots (m.fields.map Prod.fst) (Json.record m.fields) = .ok _ :=
    Json.slots_record (show fieldNames.Nodup by decide)
  rw [fromJson, show fieldNames = m.fields.map Prod.fst from rfl, hslots]
  simp [fields]

end MaskedSetReply

namespace IntersectionReveal

def fieldNames : List String :=
  ["version", "tag", "session_id", "responder_doubly_masked", "initiator_nonce",
    "responder_nonce", "issued_at", "expires_at"]

def fields (m : IntersectionReveal) : List (String × Option Json) :=
  [("version", some (Json.ofUInt8 m.version)), ("tag", some (.string m.tag)),
    ("session_id", some (.string m.sessionId)),
    ("responder_doubly_masked", some (elementsToJson m.responderDoublyMasked)),
    ("initiator_nonce", m.initiatorNonce.map SessionNonce.toJson),
    ("responder_nonce", m.responderNonce.map SessionNonce.toJson),
    ("issued_at", m.issuedAt.map Json.ofUInt64), ("expires_at", m.expiresAt.map Json.ofUInt64)]

def fromJson (j : Json) : Except DecodeError IntersectionReveal := do
  match ← Json.slots fieldNames j with
  | [version, tag, sessionId, responderDoublyMasked, initiatorNonce, responderNonce, issuedAt,
      expiresAt] =>
    return {
      version := ← version.required "version" Json.asUInt8
      tag := ← tag.required "tag" Json.asString
      sessionId := ← sessionId.required "session_id" Json.asString
      responderDoublyMasked :=
        ← responderDoublyMasked.required "responder_doubly_masked" elementsFromJson
      initiatorNonce := ← initiatorNonce.optional SessionNonce.fromJson
      responderNonce := ← responderNonce.optional SessionNonce.fromJson
      issuedAt := ← issuedAt.optional Json.asUInt64
      expiresAt := ← expiresAt.optional Json.asUInt64 }
  | _ => throw .invalidLength

theorem fromJson_record (m : IntersectionReveal) : fromJson (Json.record m.fields) = .ok m := by
  have hslots : Json.slots (m.fields.map Prod.fst) (Json.record m.fields) = .ok _ :=
    Json.slots_record (show fieldNames.Nodup by decide)
  rw [fromJson, show fieldNames = m.fields.map Prod.fst from rfl, hslots]
  simp [fields]

end IntersectionReveal

namespace AbortMessage

def fieldNames : List String :=
  ["version", "tag", "session_id", "reason_code", "reason_text", "issued_at"]

/-- Only the text of the reason can be left out. -/
def fields (m : AbortMessage) : List (String × Option Json) :=
  [("version", some (Json.ofUInt8 m.version)), ("tag", some (.string m.tag)),
    ("session_id", some (.string m.sessionId)), ("reason_code", some (.string m.reasonCode)),
    ("reason_text", m.reasonText.map Json.string), ("issued_at", some (Json.ofUInt64 m.issuedAt))]

/-- The code of the reason is any string here; nothing compares it with the known reasons. -/
def fromJson (j : Json) : Except DecodeError AbortMessage := do
  match ← Json.slots fieldNames j with
  | [version, tag, sessionId, reasonCode, reasonText, issuedAt] =>
    return {
      version := ← version.required "version" Json.asUInt8
      tag := ← tag.required "tag" Json.asString
      sessionId := ← sessionId.required "session_id" Json.asString
      reasonCode := ← reasonCode.required "reason_code" Json.asString
      reasonText := ← reasonText.optional Json.asString
      issuedAt := ← issuedAt.required "issued_at" Json.asUInt64 }
  | _ => throw .invalidLength

theorem fromJson_record (m : AbortMessage) : fromJson (Json.record m.fields) = .ok m := by
  have hslots : Json.slots (m.fields.map Prod.fst) (Json.record m.fields) = .ok _ :=
    Json.slots_record (show fieldNames.Nodup by decide)
  rw [fromJson, show fieldNames = m.fields.map Prod.fst from rfl, hslots]
  simp [fields]

end AbortMessage

namespace WireMessage

/-- The type of a message stands first among its own members. -/
def toJson : WireMessage → Json
  | .offer m => Json.tagged "message_type" "offer" m.fields
  | .reply m => Json.tagged "message_type" "reply" m.fields
  | .reveal m => Json.tagged "message_type" "reveal" m.fields
  | .abort m => Json.tagged "message_type" "abort" m.fields

/-- The member with the type may stand anywhere. The other members are read by its type. -/
def fromJson (j : Json) : Except DecodeError WireMessage := do
  let (variant, content) ← Json.untag "message_type" j
  match variant with
  | "offer" => .offer <$> MaskedSetOffer.fromJson content
  | "reply" => .reply <$> MaskedSetReply.fromJson content
  | "reveal" => .reveal <$> IntersectionReveal.fromJson content
  | "abort" => .abort <$> AbortMessage.fromJson content
  | other => throw (.unknownVariant other)

/-- No message has a member of its own with the name of the tag, so that the two never clash. -/
theorem fromJson_toJson (m : WireMessage) : fromJson m.toJson = .ok m := by
  cases m with
  | offer m =>
    have ht : "message_type" ∉ m.fields.map Prod.fst := by
      change "message_type" ∉ MaskedSetOffer.fieldNames
      decide
    simp [fromJson, toJson, Json.untag_tagged _ ht, MaskedSetOffer.fromJson_record]
  | reply m =>
    have ht : "message_type" ∉ m.fields.map Prod.fst := by
      change "message_type" ∉ MaskedSetReply.fieldNames
      decide
    simp [fromJson, toJson, Json.untag_tagged _ ht, MaskedSetReply.fromJson_record]
  | reveal m =>
    have ht : "message_type" ∉ m.fields.map Prod.fst := by
      change "message_type" ∉ IntersectionReveal.fieldNames
      decide
    simp [fromJson, toJson, Json.untag_tagged _ ht, IntersectionReveal.fromJson_record]
  | abort m =>
    have ht : "message_type" ∉ m.fields.map Prod.fst := by
      change "message_type" ∉ AbortMessage.fieldNames
      decide
    simp [fromJson, toJson, Json.untag_tagged _ ht, AbortMessage.fromJson_record]

/-- Messages hold no doubles, and their lists are the deepest part. -/
theorem storable_toJson (n : ℕ) (m : WireMessage) : JsonText.Storable (n + 2) m.toJson := by
  have helements : ∀ l, JsonText.Storable (n + 1) (elementsToJson l) :=
    JsonText.storable_array_map JsonText.storable_ofHex
  have hnonce : ∀ s : SessionNonce, JsonText.Storable (n + 1) s.toJson :=
    fun _ => JsonText.storable_string _
  cases m with
  | offer m =>
    refine JsonText.storable_record ?_
    simp [MaskedSetOffer.fields, helements, hnonce]
  | reply m =>
    refine JsonText.storable_record ?_
    simp [MaskedSetReply.fields, helements, hnonce]
  | reveal m =>
    refine JsonText.storable_record ?_
    simp [IntersectionReveal.fields, helements, hnonce]
  | abort m =>
    refine JsonText.storable_record ?_
    simp [AbortMessage.fields]

/-- The signed bytes: domain, session and tag, zero bytes between them, and the
hash of the compact JSON text. -/
def signingPayload (K : Crates) (m : WireMessage) : List UInt8 :=
  utf8 Tags.signedMessageDomain ++ [0] ++ utf8 m.sessionId ++ [0] ++ utf8 m.tag ++ [0] ++
    (K.sha256 (utf8 (K.jsonToString m.toJson))).toList

end WireMessage

/-- A message with a key and a signature. The version of the envelope is stored and read, and
nothing compares it. -/
structure SignedWireMessage where
  envelopeVersion : UInt8
  message : WireMessage
  signerPubkey : PublicIdentity
  signature : Bytes 64
  deriving DecidableEq

namespace SignedWireMessage

/-- The signer's key goes along, and is not part of the signed bytes. -/
def sign (K : Crates) (message : WireMessage) (identity : PartyIdentity) : SignedWireMessage where
  envelopeVersion := 1
  message := message
  signerPubkey := identity.publicIdentity K
  signature := identity.sign K (message.signingPayload K)

/-- The signature is checked under the key that the envelope names, whoever that is. -/
def verifySignature (K : Crates) (s : SignedWireMessage) : Except WireError Unit :=
  match s.signerPubkey.verify K (s.message.signingPayload K) s.signature with
  | .error e => .error (.identity e)
  | .ok () => .ok ()

/-- The error is wrapped, and success is that of the key. -/
theorem verifySignature_eq_ok_iff {K : Crates} {s : SignedWireMessage} :
    s.verifySignature K = .ok () ↔
      s.signerPubkey.verify K (s.message.signingPayload K) s.signature = .ok () := by
  unfold verifySignature
  cases s.signerPubkey.verify K (s.message.signingPayload K) s.signature with
  | error e => simp
  | ok u => simp

/-- The key is compared before the signature is looked at. -/
def verifyPeer (K : Crates) (s : SignedWireMessage) (expectedPeer : PublicIdentity) :
    Except WireError Unit :=
  if s.signerPubkey ≠ expectedPeer then
    .error (.peerMismatch expectedPeer.toHex s.signerPubkey.toHex)
  else s.verifySignature K

/-- An accepted envelope is signed, and by the expected peer. -/
theorem verifyPeer_eq_ok_iff {K : Crates} {s : SignedWireMessage} {peer : PublicIdentity} :
    s.verifyPeer K peer = .ok () ↔ s.signerPubkey = peer ∧ s.verifySignature K = .ok () := by
  unfold verifyPeer
  split_ifs with h <;> simp_all

def fieldNames : List String := ["envelope_version", "message", "signer_pubkey", "signature"]

def fields (s : SignedWireMessage) : List (String × Option Json) :=
  [("envelope_version", some (Json.ofUInt8 s.envelopeVersion)),
    ("message", some s.message.toJson),
    ("signer_pubkey", some (.string s.signerPubkey.toHex)),
    ("signature", some (Json.ofHex s.signature))]

def toJson (s : SignedWireMessage) : Json := Json.record s.fields

end SignedWireMessage

/-- What a party signs is verified under its key. -/
theorem SignedWireMessage.verifySignature_sign {K : Crates} {identity : PartyIdentity}
    (h : identity.Proper K) (m : WireMessage) :
    (SignedWireMessage.sign K m identity).verifySignature K = .ok () :=
  verifySignature_eq_ok_iff.mpr (h.verify_sign _)

/-- Reading a public key checks that it decodes to a curve point. -/
def PublicIdentity.fromJson (K : Crates) (j : Json) : Except DecodeError PublicIdentity := do
  match PublicIdentity.fromHex K (← Json.asString j) with
  | .ok p => return p
  | .error (.hexDecode e) => throw (.hex e)
  | .error (.invalidPublicKey reason) => throw (.custom s!"invalid public key: {reason}")
  | .error _ => throw (.custom "identity error")

namespace SignedWireMessage

/-- A signer's key that does not decode is an error of the text. -/
def fromJson (K : Crates) (j : Json) : Except DecodeError SignedWireMessage := do
  match ← Json.slots fieldNames j with
  | [envelopeVersion, message, signerPubkey, signature] =>
    return {
      envelopeVersion := ← envelopeVersion.required "envelope_version" Json.asUInt8
      message := ← message.required "message" WireMessage.fromJson
      signerPubkey := ← signerPubkey.required "signer_pubkey" (PublicIdentity.fromJson K)
      signature := ← signature.required "signature" (Json.asHex 64) }
  | _ => throw .invalidLength

/-- An envelope is read as it was written, if its key decodes. -/
theorem fromJson_toJson {K : Crates} {s : SignedWireMessage}
    (hkey : K.verifyingKeyFromBytes s.signerPubkey.bytes = .ok ()) :
    fromJson K s.toJson = .ok s := by
  have hslots : Json.slots (s.fields.map Prod.fst) (Json.record s.fields) = .ok _ :=
    Json.slots_record (show fieldNames.Nodup by decide)
  have hsigner : PublicIdentity.fromJson K (.string s.signerPubkey.toHex) = .ok s.signerPubkey := by
    simp [PublicIdentity.fromJson, PublicIdentity.fromHex_toHex, PublicIdentity.fromBytes, hkey]
  rw [fromJson, toJson, show fieldNames = s.fields.map Prod.fst from rfl, hslots]
  simp [fields, WireMessage.fromJson_toJson, hsigner]

theorem storable_toJson (n : ℕ) (s : SignedWireMessage) : JsonText.Storable (n + 3) s.toJson := by
  refine JsonText.storable_record ?_
  simp [fields, s.message.storable_toJson n]

/-- The coding of a bare message has no envelope. -/
theorem fromJson_wireMessage (K : Crates) (m : WireMessage) :
    fromJson K m.toJson = .error (.missingField "envelope_version") := by
  have habsent : ∀ variant fields,
      (∀ name ∈ fieldNames, name ∉ "message_type" :: fields.map Prod.fst) →
      fromJson K (Json.tagged "message_type" variant fields) =
        .error (.missingField "envelope_version") := by
    intro variant fields h
    rw [fromJson, Json.tagged, Json.slots_record_of_disjoint h]
    rfl
  cases m with
  | offer m =>
    exact habsent "offer" m.fields
      (show ∀ name ∈ fieldNames, name ∉ "message_type" :: MaskedSetOffer.fieldNames by decide)
  | reply m =>
    exact habsent "reply" m.fields
      (show ∀ name ∈ fieldNames, name ∉ "message_type" :: MaskedSetReply.fieldNames by decide)
  | reveal m =>
    exact habsent "reveal" m.fields
      (show ∀ name ∈ fieldNames, name ∉ "message_type" :: IntersectionReveal.fieldNames by decide)
  | abort m =>
    exact habsent "abort" m.fields
      (show ∀ name ∈ fieldNames, name ∉ "message_type" :: AbortMessage.fieldNames by decide)

end SignedWireMessage

/-! ## Texts -/

/-- The four texts are the two layouts of the two codings. -/
def encode (K : Crates) (m : WireMessage) : String := K.jsonToString m.toJson

def encodePretty (K : Crates) (m : WireMessage) : String := K.jsonToStringPretty m.toJson

def encodeSigned (K : Crates) (s : SignedWireMessage) : String := K.jsonToString s.toJson

def encodeSignedPretty (K : Crates) (s : SignedWireMessage) : String :=
  K.jsonToStringPretty s.toJson

/-- Errors of the text come first, then those of the validator. The session and the
freshness of the message are left to the caller. -/
def decode (K : Crates) (text : String) : Except WireError WireMessage :=
  match K.fromStr WireMessage.fromJson text with
  | .error e => .error (.json e)
  | .ok m =>
    match m.validate with
    | .error e => .error e
    | .ok () => .ok m

/-- Message and signature are both checked, the message first. -/
def decodeSigned (K : Crates) (text : String) : Except WireError SignedWireMessage :=
  match K.fromStr (SignedWireMessage.fromJson K) text with
  | .error e => .error (.json e)
  | .ok s =>
    match s.message.validate with
    | .error e => .error e
    | .ok () =>
      match s.verifySignature K with
      | .error e => .error e
      | .ok () => .ok s

/-- The peer is compared after everything else has been accepted, and the signature is then
checked once more. -/
def decodeSignedFromPeer (K : Crates) (text : String) (expectedPeer : PublicIdentity) :
    Except WireError SignedWireMessage :=
  match decodeSigned K text with
  | .error e => .error e
  | .ok s =>
    match s.verifyPeer K expectedPeer with
    | .error e => .error e
    | .ok () => .ok s

/-! ## Texts read back -/

section Texts
variable {K : Crates} {text : String}

/-- A text of a valid message's coding is read as the message. -/
theorem decode_of_parses {m : WireMessage} (h : K.jsonFromStr text = some m.toJson)
    (hm : m.validate = .ok ()) : decode K text = .ok m := by
  simp only [decode, Crates.fromStr, h, WireMessage.fromJson_toJson, hm]

theorem decodeSigned_of_parses {s : SignedWireMessage} (h : K.jsonFromStr text = some s.toJson)
    (hkey : K.verifyingKeyFromBytes s.signerPubkey.bytes = .ok ())
    (hm : s.message.validate = .ok ()) (hsig : s.verifySignature K = .ok ()) :
    decodeSigned K text = .ok s := by
  simp only [decodeSigned, Crates.fromStr, h, SignedWireMessage.fromJson_toJson hkey, hm, hsig]

/-- Whatever is read has been validated. -/
theorem validate_of_decode {m : WireMessage} (h : decode K text = .ok m) :
    m.validate = .ok () := by
  unfold decode at h
  split at h
  · cases h
  · split at h
    · cases h
    · next hm => exact Except.ok.inj h ▸ hm

/-- An envelope that is read has a valid message and a signature that is verified. -/
theorem validate_of_decodeSigned {s : SignedWireMessage} (h : decodeSigned K text = .ok s) :
    s.message.validate = .ok () ∧ s.verifySignature K = .ok () := by
  unfold decodeSigned at h
  split at h
  · cases h
  · split at h
    · cases h
    · next hm =>
      split at h
      · cases h
      · next hsig => exact Except.ok.inj h ▸ ⟨hm, hsig⟩

/-- A verified envelope has a key that decodes. -/
theorem SignedWireMessage.decodes_of_verifySignature {s : SignedWireMessage}
    (h : s.verifySignature K = .ok ()) : K.verifyingKeyFromBytes s.signerPubkey.bytes = .ok () :=
  (PublicIdentity.verify_eq_ok_iff.mp (verifySignature_eq_ok_iff.mp h)).1

theorem decode_encode (hK : K.ParsesCompact) {m : WireMessage} (hm : m.validate = .ok ()) :
    decode K (encode K m) = .ok m :=
  decode_of_parses (hK _ (m.storable_toJson _)) hm

theorem decode_encodePretty (hK : K.ParsesPretty) {m : WireMessage} (hm : m.validate = .ok ()) :
    decode K (encodePretty K m) = .ok m :=
  decode_of_parses (hK _ (m.storable_toJson _)) hm

theorem decodeSigned_encodeSigned (hK : K.ParsesCompact) {s : SignedWireMessage}
    (hm : s.message.validate = .ok ()) (hsig : s.verifySignature K = .ok ()) :
    decodeSigned K (encodeSigned K s) = .ok s :=
  decodeSigned_of_parses (hK _ (s.storable_toJson _))
    (SignedWireMessage.decodes_of_verifySignature hsig) hm hsig

/-- What a proper key pair signs is read from its indented text. -/
theorem decodeSigned_encodeSignedPretty (hK : K.ParsesPretty) {identity : PartyIdentity}
    (hid : identity.Proper K) {m : WireMessage} (hm : m.validate = .ok ()) :
    decodeSigned K (encodeSignedPretty K (.sign K m identity)) = .ok (.sign K m identity) :=
  decodeSigned_of_parses (s := .sign K m identity) (hK _ (SignedWireMessage.storable_toJson _ _))
    hid.decodes hm (SignedWireMessage.verifySignature_sign hid m)

/-- The text of a bare message is not taken for a signed one. -/
theorem decodeSigned_encodePretty (hK : K.ParsesPretty) (m : WireMessage) :
    decodeSigned K (encodePretty K m) =
      .error (.json (.data (.missingField "envelope_version"))) := by
  simp only [decodeSigned, encodePretty, Crates.fromStr_pretty hK _ (m.storable_toJson _),
    SignedWireMessage.fromJson_wireMessage]

/-- And is taken for that peer's. -/
theorem decodeSignedFromPeer_encodeSignedPretty (hK : K.ParsesPretty) {identity : PartyIdentity}
    (hid : identity.Proper K) {m : WireMessage} (hm : m.validate = .ok ()) :
    decodeSignedFromPeer K (encodeSignedPretty K (.sign K m identity))
      (identity.publicIdentity K) = .ok (.sign K m identity) := by
  have hpeer : (SignedWireMessage.sign K m identity).verifyPeer K (identity.publicIdentity K) =
      .ok () :=
    SignedWireMessage.verifyPeer_eq_ok_iff.mpr
      ⟨rfl, SignedWireMessage.verifySignature_sign hid m⟩
  simp only [decodeSignedFromPeer, decodeSigned_encodeSignedPretty hK hid hm, hpeer]

end Texts

/-- Valid messages are read back from their texts, and what is read is valid and can be
written and read again; envelopes the same, with their signatures. -/
theorem wire_round_trip {K : Crates} (hcompact : K.ParsesCompact) (hpretty : K.ParsesPretty) :
    (∀ m : WireMessage, m.validate = .ok () →
      decode K (encode K m) = .ok m ∧ decode K (encodePretty K m) = .ok m) ∧
    (∀ text m, decode K text = .ok m → m.validate = .ok () ∧ decode K (encode K m) = .ok m) ∧
    (∀ (m : WireMessage) (identity : PartyIdentity), identity.Proper K → m.validate = .ok () →
      decodeSigned K (encodeSigned K (.sign K m identity)) = .ok (.sign K m identity) ∧
      decodeSigned K (encodeSignedPretty K (.sign K m identity)) = .ok (.sign K m identity)) ∧
    ∀ text s, decodeSigned K text = .ok s → s.message.validate = .ok () ∧
      s.verifySignature K = .ok () ∧ decodeSigned K (encodeSigned K s) = .ok s := by
  refine ⟨?_, ?_, ?_, ?_⟩
  · intro m hm
    exact ⟨decode_encode hcompact hm, decode_encodePretty hpretty hm⟩
  · intro text m h
    have hm := validate_of_decode h
    exact ⟨hm, decode_encode hcompact hm⟩
  · intro m identity hid hm
    exact ⟨decodeSigned_encodeSigned hcompact hm (SignedWireMessage.verifySignature_sign hid m),
      decodeSigned_encodeSignedPretty hpretty hid hm⟩
  · intro text s h
    obtain ⟨hm, hsig⟩ := validate_of_decodeSigned h
    exact ⟨hm, hsig, decodeSigned_encodeSigned hcompact hm hsig⟩

def sampleWireReply : WireMessage :=
  .reply (.newV2 "s" [filled 1, filled 2] [filled 3] ⟨filled 4⟩ ⟨filled 5⟩ ⟨1000, 1300⟩)

theorem wire_round_trip_sample :
    decode .reference (encode .reference sampleWireReply) = .ok sampleWireReply ∧
      decodeSigned .reference
          (encodeSigned .reference (.sign .reference sampleWireReply (.fromSeed (filled 7)))) =
        .ok (.sign .reference sampleWireReply (.fromSeed (filled 7))) := by
  have hround := wire_round_trip Crates.reference_parsesCompact Crates.reference_parsesPretty
  have hm : sampleWireReply.validate = .ok () := MaskedSetReply.validate_newV2 ..
  exact ⟨(hround.1 _ hm).1, (hround.2.2.1 _ _ (Crates.reference_proper _) hm).1⟩

end BlindOverlap
