import BlindOverlap.Freshness
import BlindOverlap.Identity
import BlindOverlap.Protocol

/-!
# Wire messages

Three message types carry masked elements, a fourth cancels a session. Version 1
messages have no freshness fields; version 2 messages must have all of theirs.
The optional fields are free in the types, so every check the code makes on them
is a check here.
-/
namespace BlindOverlap

namespace Tags

/-- The tags of version 1, which has no freshness fields. -/
def maskedSetOfferV1 : String := "BlindOverlap:MaskedSetOffer:v1"
def maskedSetReplyV1 : String := "BlindOverlap:MaskedSetReply:v1"
def intersectionRevealV1 : String := "BlindOverlap:IntersectionReveal:v1"
/-- The tags of version 2, which has them. -/
def maskedSetOfferV2 : String := "BlindOverlap:MaskedSetOffer:v2"
def maskedSetReplyV2 : String := "BlindOverlap:MaskedSetReply:v2"
def intersectionRevealV2 : String := "BlindOverlap:IntersectionReveal:v2"
def abortMessageV1 : String := "BlindOverlap:AbortMessage:v1"
/-- The current tags, which errors name as the expected ones. -/
def maskedSetOffer : String := maskedSetOfferV2
def maskedSetReply : String := maskedSetReplyV2
def intersectionReveal : String := intersectionRevealV2
def abortMessage : String := abortMessageV1
def signedMessageDomain : String := "BlindOverlap:SignedWireMessage:v1"

end Tags

/-- Why a message is not taken. An invalid tag is shown beside the current one of its type,
and two differing peers by their keys in hexadecimal. -/
inductive WireError where
  | json (e : JsonError)
  | invalidTag (expected got : String)
  | unsupportedVersion (version : UInt8)
  | missingFreshness (field : String)
  | identity (e : IdentityError)
  | peerMismatch (expected got : String)
  deriving DecidableEq

/-- A deadline exists when both of its timestamps do. -/
def deadlineOf (issuedAt expiresAt : Option UInt64) : Option SessionDeadline :=
  match issuedAt, expiresAt with
  | some issued, some expires => some ⟨issued, expires⟩
  | _, _ => none

theorem exists_deadlineOf {issuedAt expiresAt : Option UInt64} (hi : issuedAt.isSome = true)
    (he : expiresAt.isSome = true) : ∃ d, deadlineOf issuedAt expiresAt = some d := by
  obtain ⟨issued, rfl⟩ := Option.isSome_iff_exists.mp hi
  obtain ⟨expires, rfl⟩ := Option.isSome_iff_exists.mp he
  exact ⟨⟨issued, expires⟩, rfl⟩

/-- The check common to the three protocol messages. The freshness fields are
listed with their presence, in the order in which they are demanded. -/
def validateMessage (validTags : List String) (expected tag : String) (version : UInt8)
    (freshness : List (String × Bool)) : Except WireError Unit :=
  if tag ∉ validTags then .error (.invalidTag expected tag)
  else if version < 1 ∨ version > 2 then .error (.unsupportedVersion version)
  else if version = 2 then
    match freshness.find? (fun f => !f.2) with
    | some f => .error (.missingFreshness f.1)
    | none => .ok ()
  else .ok ()

/-- The two comparisons leave the versions 1 and 2. -/
theorem version_supported_iff (version : UInt8) :
    ¬ (version < 1 ∨ version > 2) ↔ version = 1 ∨ version = 2 := by
  simp only [gt_iff_lt, UInt8.lt_iff_toNat_lt, ← UInt8.toNat_inj]
  change ¬ (version.toNat < 1 ∨ 2 < version.toNat) ↔ version.toNat = 1 ∨ version.toNat = 2
  omega

/-- An accepted message has a known tag, and is of version 1 or complete. -/
theorem validateMessage_eq_ok_iff {validTags : List String} {expected tag : String}
    {version : UInt8} {freshness : List (String × Bool)} :
    validateMessage validTags expected tag version freshness = .ok () ↔
      tag ∈ validTags ∧ (version = 1 ∨ version = 2 ∧ ∀ f ∈ freshness, f.2 = true) := by
  unfold validateMessage
  by_cases htag : tag ∈ validTags
  · rw [if_neg (not_not.mpr htag)]
    by_cases hv : version < 1 ∨ version > 2
    · have hn := mt (version_supported_iff version).mpr (not_not.mpr hv)
      rw [not_or] at hn
      rw [if_pos hv]
      simp only [reduceCtorEq, hn.1, hn.2, false_and, or_false, and_false]
    · rw [if_neg hv]
      rcases (version_supported_iff version).mp hv with rfl | rfl
      · simp [htag]
      · cases hf : freshness.find? (fun f => !f.2) with
        | none =>
          have hall := List.find?_eq_none.mp hf
          simpa [htag] using hall
        | some f =>
          have hbad := List.find?_some hf
          have hmem := List.mem_of_find?_eq_some hf
          simp only [if_true, reduceCtorEq, false_iff, not_and, not_or]
          exact fun _ => ⟨by decide, fun _ hall => by simp [hall f hmem] at hbad⟩
  · simp [htag]

/-- The first message: the initiator's elements, each under its secret. Version 2 brings the
initiator's nonce and a deadline. -/
structure MaskedSetOffer where
  version : UInt8
  tag : String
  sessionId : String
  maskedElements : List MaskedElement
  nonce : Option SessionNonce
  issuedAt : Option UInt64
  expiresAt : Option UInt64
  deriving DecidableEq

namespace MaskedSetOffer

/-- An offer of version 1, without freshness fields. -/
def new (sessionId : String) (maskedElements : List MaskedElement) : MaskedSetOffer where
  version := 1
  tag := Tags.maskedSetOfferV1
  sessionId := sessionId
  maskedElements := maskedElements
  nonce := none
  issuedAt := none
  expiresAt := none

/-- An offer of version 2, with all of them. -/
def newV2 (sessionId : String) (maskedElements : List MaskedElement) (nonce : SessionNonce)
    (deadline : SessionDeadline) : MaskedSetOffer where
  version := 2
  tag := Tags.maskedSetOfferV2
  sessionId := sessionId
  maskedElements := maskedElements
  nonce := some nonce
  issuedAt := some deadline.issuedAt
  expiresAt := some deadline.expiresAt

/-- The deadline of an offer that has both timestamps, whatever its version is. -/
def deadline (m : MaskedSetOffer) : Option SessionDeadline := deadlineOf m.issuedAt m.expiresAt

/-- Version 2 or later, with every freshness field. -/
def hasFreshness (m : MaskedSetOffer) : Bool :=
  decide (m.version ≥ 2) && m.nonce.isSome && m.issuedAt.isSome && m.expiresAt.isSome

/-- The tag may be either of the two, whatever the version is. -/
def validate (m : MaskedSetOffer) : Except WireError Unit :=
  validateMessage [Tags.maskedSetOfferV1, Tags.maskedSetOfferV2] Tags.maskedSetOffer m.tag m.version
    [("nonce", m.nonce.isSome), ("issued_at", m.issuedAt.isSome),
      ("expires_at", m.expiresAt.isSome)]

/-- What the constructors make is valid. -/
theorem validate_new (sessionId : String) (elements : List MaskedElement) :
    (new sessionId elements).validate = .ok () :=
  validateMessage_eq_ok_iff.mpr ⟨List.mem_cons_self, .inl rfl⟩

theorem validate_newV2 (sessionId : String) (elements : List MaskedElement) (nonce : SessionNonce)
    (deadline : SessionDeadline) : (newV2 sessionId elements nonce deadline).validate = .ok () :=
  validateMessage_eq_ok_iff.mpr
    ⟨List.mem_cons_of_mem _ List.mem_cons_self, .inr ⟨rfl, by simp [newV2]⟩⟩

/-- A fresh offer has a nonce and a deadline to be checked. -/
theorem exists_of_hasFreshness {m : MaskedSetOffer} (h : m.hasFreshness = true) :
    (∃ n, m.nonce = some n) ∧ ∃ d, m.deadline = some d := by
  simp only [hasFreshness, Bool.and_eq_true] at h
  obtain ⟨⟨⟨-, hn⟩, hi⟩, he⟩ := h
  exact ⟨Option.isSome_iff_exists.mp hn, exists_deadlineOf hi he⟩

/-- A valid message of version 2 has its freshness fields. -/
theorem hasFreshness_of_validate {m : MaskedSetOffer} (h : m.validate = .ok ())
    (hv : m.version = 2) : m.hasFreshness = true := by
  have hok := validateMessage_eq_ok_iff.mp h
  simp_all [hasFreshness]

end MaskedSetOffer

/-- The second message: the responder's elements under its secret, and the initiator's under
both. Version 2 echoes the initiator's nonce and adds the responder's. -/
structure MaskedSetReply where
  version : UInt8
  tag : String
  sessionId : String
  responderMasked : List MaskedElement
  initiatorDoublyMasked : List MaskedElement
  initiatorNonce : Option SessionNonce
  responderNonce : Option SessionNonce
  issuedAt : Option UInt64
  expiresAt : Option UInt64
  deriving DecidableEq

namespace MaskedSetReply

/-- A reply of version 1, without freshness fields. -/
def new (sessionId : String) (responderMasked initiatorDoublyMasked : List MaskedElement) :
    MaskedSetReply where
  version := 1
  tag := Tags.maskedSetReplyV1
  sessionId := sessionId
  responderMasked := responderMasked
  initiatorDoublyMasked := initiatorDoublyMasked
  initiatorNonce := none
  responderNonce := none
  issuedAt := none
  expiresAt := none

/-- A reply of version 2, with all of them. -/
def newV2 (sessionId : String) (responderMasked initiatorDoublyMasked : List MaskedElement)
    (initiatorNonce responderNonce : SessionNonce) (deadline : SessionDeadline) :
    MaskedSetReply where
  version := 2
  tag := Tags.maskedSetReplyV2
  sessionId := sessionId
  responderMasked := responderMasked
  initiatorDoublyMasked := initiatorDoublyMasked
  initiatorNonce := some initiatorNonce
  responderNonce := some responderNonce
  issuedAt := some deadline.issuedAt
  expiresAt := some deadline.expiresAt

def deadline (m : MaskedSetReply) : Option SessionDeadline := deadlineOf m.issuedAt m.expiresAt

/-- Version 2 or later, with both nonces and both timestamps. -/
def hasFreshness (m : MaskedSetReply) : Bool :=
  decide (m.version ≥ 2) && m.initiatorNonce.isSome && m.responderNonce.isSome &&
    m.issuedAt.isSome && m.expiresAt.isSome

/-- The same check as for offers, with the initiator's nonce demanded before the responder's. -/
def validate (m : MaskedSetReply) : Except WireError Unit :=
  validateMessage [Tags.maskedSetReplyV1, Tags.maskedSetReplyV2] Tags.maskedSetReply m.tag m.version
    [("initiator_nonce", m.initiatorNonce.isSome), ("responder_nonce", m.responderNonce.isSome),
      ("issued_at", m.issuedAt.isSome), ("expires_at", m.expiresAt.isSome)]

theorem validate_new (sessionId : String) (responderMasked doublyMasked : List MaskedElement) :
    (new sessionId responderMasked doublyMasked).validate = .ok () :=
  validateMessage_eq_ok_iff.mpr ⟨List.mem_cons_self, .inl rfl⟩

theorem validate_newV2 (sessionId : String) (responderMasked doublyMasked : List MaskedElement)
    (initiatorNonce responderNonce : SessionNonce) (deadline : SessionDeadline) :
    (newV2 sessionId responderMasked doublyMasked initiatorNonce responderNonce
      deadline).validate = .ok () :=
  validateMessage_eq_ok_iff.mpr
    ⟨List.mem_cons_of_mem _ List.mem_cons_self, .inr ⟨rfl, by simp [newV2]⟩⟩

/-- A fresh reply has both nonces and a deadline. -/
theorem exists_of_hasFreshness {m : MaskedSetReply} (h : m.hasFreshness = true) :
    (∃ n, m.initiatorNonce = some n) ∧ (∃ n, m.responderNonce = some n) ∧
      ∃ d, m.deadline = some d := by
  simp only [hasFreshness, Bool.and_eq_true] at h
  obtain ⟨⟨⟨⟨-, hn⟩, hr⟩, hi⟩, he⟩ := h
  exact ⟨Option.isSome_iff_exists.mp hn, Option.isSome_iff_exists.mp hr, exists_deadlineOf hi he⟩

theorem hasFreshness_of_validate {m : MaskedSetReply} (h : m.validate = .ok ())
    (hv : m.version = 2) : m.hasFreshness = true := by
  have hok := validateMessage_eq_ok_iff.mp h
  simp_all [hasFreshness]

end MaskedSetReply

/-- The third message: the responder's elements under both secrets, from which the responder
learns its own result. -/
structure IntersectionReveal where
  version : UInt8
  tag : String
  sessionId : String
  responderDoublyMasked : List MaskedElement
  initiatorNonce : Option SessionNonce
  responderNonce : Option SessionNonce
  issuedAt : Option UInt64
  expiresAt : Option UInt64
  deriving DecidableEq

namespace IntersectionReveal

def new (sessionId : String) (responderDoublyMasked : List MaskedElement) :
    IntersectionReveal where
  version := 1
  tag := Tags.intersectionRevealV1
  sessionId := sessionId
  responderDoublyMasked := responderDoublyMasked
  initiatorNonce := none
  responderNonce := none
  issuedAt := none
  expiresAt := none

def newV2 (sessionId : String) (responderDoublyMasked : List MaskedElement)
    (initiatorNonce responderNonce : SessionNonce) (deadline : SessionDeadline) :
    IntersectionReveal where
  version := 2
  tag := Tags.intersectionRevealV2
  sessionId := sessionId
  responderDoublyMasked := responderDoublyMasked
  initiatorNonce := some initiatorNonce
  responderNonce := some responderNonce
  issuedAt := some deadline.issuedAt
  expiresAt := some deadline.expiresAt

def deadline (m : IntersectionReveal) : Option SessionDeadline := deadlineOf m.issuedAt m.expiresAt

def hasFreshness (m : IntersectionReveal) : Bool :=
  decide (m.version ≥ 2) && m.initiatorNonce.isSome && m.responderNonce.isSome &&
    m.issuedAt.isSome && m.expiresAt.isSome

/-- As for replies, with the tags of reveals. -/
def validate (m : IntersectionReveal) : Except WireError Unit :=
  validateMessage [Tags.intersectionRevealV1, Tags.intersectionRevealV2] Tags.intersectionReveal
    m.tag m.version
    [("initiator_nonce", m.initiatorNonce.isSome), ("responder_nonce", m.responderNonce.isSome),
      ("issued_at", m.issuedAt.isSome), ("expires_at", m.expiresAt.isSome)]

theorem validate_new (sessionId : String) (doublyMasked : List MaskedElement) :
    (new sessionId doublyMasked).validate = .ok () :=
  validateMessage_eq_ok_iff.mpr ⟨List.mem_cons_self, .inl rfl⟩

theorem validate_newV2 (sessionId : String) (doublyMasked : List MaskedElement)
    (initiatorNonce responderNonce : SessionNonce) (deadline : SessionDeadline) :
    (newV2 sessionId doublyMasked initiatorNonce responderNonce deadline).validate = .ok () :=
  validateMessage_eq_ok_iff.mpr
    ⟨List.mem_cons_of_mem _ List.mem_cons_self, .inr ⟨rfl, by simp [newV2]⟩⟩

theorem exists_of_hasFreshness {m : IntersectionReveal} (h : m.hasFreshness = true) :
    (∃ n, m.initiatorNonce = some n) ∧ (∃ n, m.responderNonce = some n) ∧
      ∃ d, m.deadline = some d := by
  simp only [hasFreshness, Bool.and_eq_true] at h
  obtain ⟨⟨⟨⟨-, hn⟩, hr⟩, hi⟩, he⟩ := h
  exact ⟨Option.isSome_iff_exists.mp hn, Option.isSome_iff_exists.mp hr, exists_deadlineOf hi he⟩

theorem hasFreshness_of_validate {m : IntersectionReveal} (h : m.validate = .ok ())
    (hv : m.version = 2) : m.hasFreshness = true := by
  have hok := validateMessage_eq_ok_iff.mp h
  simp_all [hasFreshness]

end IntersectionReveal

/-- The message that cancels a session. It has one version and no freshness fields. -/
structure AbortMessage where
  version : UInt8
  tag : String
  sessionId : String
  reasonCode : String
  reasonText : Option String
  issuedAt : UInt64
  deriving DecidableEq

namespace AbortMessage

def new (now : UInt64) (sessionId reasonCode : String) : AbortMessage :=
  ⟨1, Tags.abortMessageV1, sessionId, reasonCode, none, now⟩

/-- A cancellation with a text beside the code. -/
def withReason (now : UInt64) (sessionId reasonCode reasonText : String) : AbortMessage :=
  ⟨1, Tags.abortMessageV1, sessionId, reasonCode, some reasonText, now⟩

/-- The tag is looked at before the version, as for the other messages. -/
def validate (m : AbortMessage) : Except WireError Unit :=
  if m.tag ≠ Tags.abortMessageV1 then .error (.invalidTag Tags.abortMessage m.tag)
  else if m.version ≠ 1 then .error (.unsupportedVersion m.version)
  else .ok ()

end AbortMessage

/-- The four messages under one type, as they travel. -/
inductive WireMessage where
  | offer (m : MaskedSetOffer)
  | reply (m : MaskedSetReply)
  | reveal (m : IntersectionReveal)
  | abort (m : AbortMessage)
  deriving DecidableEq

namespace WireMessage

/-- The session that a message says it belongs to. -/
def sessionId : WireMessage → String
  | .offer m => m.sessionId
  | .reply m => m.sessionId
  | .reveal m => m.sessionId
  | .abort m => m.sessionId

/-- The tag as the message gives it, valid or not. -/
def tag : WireMessage → String
  | .offer m => m.tag
  | .reply m => m.tag
  | .reveal m => m.tag
  | .abort m => m.tag

/-- Every message is checked by the validator of its own type. -/
def validate : WireMessage → Except WireError Unit
  | .offer m => m.validate
  | .reply m => m.validate
  | .reveal m => m.validate
  | .abort m => m.validate

/-- A valid message has one of the seven tags. -/
theorem tag_mem_of_validate {m : WireMessage} (h : m.validate = .ok ()) :
    m.tag ∈ [Tags.maskedSetOfferV1, Tags.maskedSetOfferV2, Tags.maskedSetReplyV1,
      Tags.maskedSetReplyV2, Tags.intersectionRevealV1, Tags.intersectionRevealV2,
      Tags.abortMessageV1] := by
  cases m with
  | offer m =>
    have hmem := (validateMessage_eq_ok_iff.mp h).1
    exact List.mem_of_mem_take (i := 2) hmem
  | reply m =>
    have hmem := (validateMessage_eq_ok_iff.mp h).1
    exact List.mem_of_mem_drop (i := 2) (List.mem_of_mem_take (i := 2) hmem)
  | reveal m =>
    have hmem := (validateMessage_eq_ok_iff.mp h).1
    exact List.mem_of_mem_drop (i := 4) (List.mem_of_mem_take (i := 2) hmem)
  | abort m =>
    have htag : m.tag = Tags.abortMessageV1 := by
      by_contra hne
      simp [validate, AbortMessage.validate, hne] at h
    exact htag ▸ List.mem_of_mem_drop (i := 6) List.mem_cons_self

end WireMessage

end BlindOverlap
