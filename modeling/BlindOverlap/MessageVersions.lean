import BlindOverlap.WireCodec

/-!
# Tag, version and freshness of the protocol messages

Each type has a tag for version 1, without freshness fields, and one for version 2, with
them. A validator looks at tag and version separately: it takes either tag with either
version, and asks for the freshness fields by the version alone.
-/
namespace BlindOverlap

/-- The three messages that have two versions. -/
inductive ProtocolMessage where
  | offer (m : MaskedSetOffer)
  | reply (m : MaskedSetReply)
  | reveal (m : IntersectionReveal)

namespace ProtocolMessage

def wire : ProtocolMessage → WireMessage
  | .offer m => .offer m
  | .reply m => .reply m
  | .reveal m => .reveal m

def version : ProtocolMessage → UInt8
  | .offer m => m.version
  | .reply m => m.version
  | .reveal m => m.version

def tag : ProtocolMessage → String
  | .offer m => m.tag
  | .reply m => m.tag
  | .reveal m => m.tag

def validate : ProtocolMessage → Except WireError Unit
  | .offer m => m.validate
  | .reply m => m.validate
  | .reveal m => m.validate

def hasFreshness : ProtocolMessage → Bool
  | .offer m => m.hasFreshness
  | .reply m => m.hasFreshness
  | .reveal m => m.hasFreshness

def tagV1 : ProtocolMessage → String
  | .offer _ => Tags.maskedSetOfferV1
  | .reply _ => Tags.maskedSetReplyV1
  | .reveal _ => Tags.intersectionRevealV1

def tagV2 : ProtocolMessage → String
  | .offer _ => Tags.maskedSetOfferV2
  | .reply _ => Tags.maskedSetReplyV2
  | .reveal _ => Tags.intersectionRevealV2

/-- The tag of the message's type whose suffix is the given version. -/
def tagFor (m : ProtocolMessage) (version : UInt8) : Option String :=
  if version = 1 then some m.tagV1 else if version = 2 then some m.tagV2 else none

/-- The freshness fields are all there, whatever the version. -/
def complete : ProtocolMessage → Bool
  | .offer m => m.nonce.isSome && m.issuedAt.isSome && m.expiresAt.isSome
  | .reply m => m.initiatorNonce.isSome && m.responderNonce.isSome && m.issuedAt.isSome &&
      m.expiresAt.isSome
  | .reveal m => m.initiatorNonce.isSome && m.responderNonce.isSome && m.issuedAt.isSome &&
      m.expiresAt.isSome

def withVersion (version : UInt8) : ProtocolMessage → ProtocolMessage
  | .offer m => .offer { m with version }
  | .reply m => .reply { m with version }
  | .reveal m => .reveal { m with version }

def withTag (tag : String) : ProtocolMessage → ProtocolMessage
  | .offer m => .offer { m with tag }
  | .reply m => .reply { m with tag }
  | .reveal m => .reveal { m with tag }

section Fields
variable (m : ProtocolMessage) (version : UInt8) (tag : String)

@[simp] theorem version_withVersion : (m.withVersion version).version = version := by
  cases m <;> rfl

@[simp] theorem tag_withVersion : (m.withVersion version).tag = m.tag := by
  cases m <;> rfl

@[simp] theorem complete_withVersion : (m.withVersion version).complete = m.complete := by
  cases m <;> rfl

@[simp] theorem tagV1_withVersion : (m.withVersion version).tagV1 = m.tagV1 := by
  cases m <;> rfl

@[simp] theorem tagV2_withVersion : (m.withVersion version).tagV2 = m.tagV2 := by
  cases m <;> rfl

@[simp] theorem version_withTag : (m.withTag tag).version = m.version := by
  cases m <;> rfl

@[simp] theorem tag_withTag : (m.withTag tag).tag = tag := by
  cases m <;> rfl

@[simp] theorem complete_withTag : (m.withTag tag).complete = m.complete := by
  cases m <;> rfl

@[simp] theorem tagV1_withTag : (m.withTag tag).tagV1 = m.tagV1 := by
  cases m <;> rfl

@[simp] theorem tagV2_withTag : (m.withTag tag).tagV2 = m.tagV2 := by
  cases m <;> rfl

theorem validate_wire : m.wire.validate = m.validate := by
  cases m <;> rfl

theorem tagV1_ne_tagV2 : m.tagV1 ≠ m.tagV2 := by
  cases m with
  | offer m => exact (by decide : Tags.maskedSetOfferV1 ≠ Tags.maskedSetOfferV2)
  | reply m => exact (by decide : Tags.maskedSetReplyV1 ≠ Tags.maskedSetReplyV2)
  | reveal m => exact (by decide : Tags.intersectionRevealV1 ≠ Tags.intersectionRevealV2)

end Fields

/-- The tag is checked for the type, the freshness fields for the version. -/
theorem validate_eq_ok_iff {m : ProtocolMessage} :
    m.validate = .ok () ↔ (m.tag = m.tagV1 ∨ m.tag = m.tagV2) ∧
      (m.version = 1 ∨ m.version = 2 ∧ m.complete = true) := by
  cases m with
  | offer m => exact validateMessage_eq_ok_iff.trans (by simp [tag, tagV1, tagV2, version, complete,
      and_assoc])
  | reply m => exact validateMessage_eq_ok_iff.trans (by simp [tag, tagV1, tagV2, version, complete,
      and_assoc])
  | reveal m => exact validateMessage_eq_ok_iff.trans (by simp [tag, tagV1, tagV2, version,
      complete, and_assoc])

theorem hasFreshness_eq (m : ProtocolMessage) :
    m.hasFreshness = (decide (m.version ≥ 2) && m.complete) := by
  cases m with
  | offer m => simp [hasFreshness, MaskedSetOffer.hasFreshness, version, complete, Bool.and_assoc]
  | reply m => simp [hasFreshness, MaskedSetReply.hasFreshness, version, complete, Bool.and_assoc]
  | reveal m =>
    simp [hasFreshness, IntersectionReveal.hasFreshness, version, complete, Bool.and_assoc]

/-- The version of a valid message tells whether it is fresh. -/
theorem hasFreshness_iff {m : ProtocolMessage} (h : m.validate = .ok ()) :
    m.hasFreshness = true ↔ m.version = 2 := by
  rw [hasFreshness_eq]
  rcases (validate_eq_ok_iff.mp h).2 with hv | ⟨hv, hcomplete⟩
  · simp [hv]
  · simp [hv, hcomplete]

/-- The tag of a valid message need not be the one of its version. -/
theorem tag_eq_tagFor_iff {m : ProtocolMessage} (h : m.validate = .ok ()) :
    some m.tag = m.tagFor m.version ↔
      (m.version = 1 → m.tag = m.tagV1) ∧ (m.version = 2 → m.tag = m.tagV2) := by
  rcases (validate_eq_ok_iff.mp h).2 with hv | ⟨hv, -⟩ <;> simp [tagFor, hv]

/-- A text that reads as the message is refused exactly when the message is not valid. -/
theorem decode_error_iff {K : Crates} {text : String} {m : ProtocolMessage}
    (h : K.fromStr WireMessage.fromJson text = .ok m.wire) :
    (∃ e, decode K text = .error e) ↔ m.validate ≠ .ok () := by
  rw [decode, h]
  simp only [validate_wire]
  cases m.validate with
  | error e => simp
  | ok u => simp

theorem validate_withVersion_iff {m : ProtocolMessage} (h : m.validate = .ok ())
    (hv : m.version = 2) (version : UInt8) :
    (m.withVersion version).validate = .ok () ↔ version = 1 ∨ version = 2 := by
  obtain ⟨htag, hversion⟩ := validate_eq_ok_iff.mp h
  have hcomplete : m.complete = true := by simpa [hv] using hversion
  simp [validate_eq_ok_iff, htag, hcomplete]

theorem validate_withTag_iff {m : ProtocolMessage} (h : m.validate = .ok ()) (tag : String) :
    (m.withTag tag).validate = .ok () ↔ tag = m.tagV1 ∨ tag = m.tagV2 := by
  obtain ⟨-, hversion⟩ := validate_eq_ok_iff.mp h
  simp [validate_eq_ok_iff, hversion]

/-- Tag, version and freshness are in step for a valid message that has no tag of the other
version; a changed version byte is refused unless it says 1, a changed tag unless it is the
other tag of the type. -/
theorem versions_in_step_iff (K : Crates) (m : ProtocolMessage) :
    ((m.validate = .ok () →
        some m.tag = m.tagFor m.version ∧ (m.hasFreshness = true ↔ m.version = 2)) ↔
      ¬ (m.tag = m.tagV2 ∧ m.version = 1 ∨
        m.tag = m.tagV1 ∧ m.version = 2 ∧ m.complete = true)) ∧
    (m.validate = .ok () → m.version = 2 → ∀ version ≠ 2, ∀ text,
      K.fromStr WireMessage.fromJson text = .ok (m.withVersion version).wire →
        ((∃ e, decode K text = .error e) ↔ version ≠ 1)) ∧
    (m.validate = .ok () → ∀ tag ≠ m.tag, ∀ text,
      K.fromStr WireMessage.fromJson text = .ok (m.withTag tag).wire →
        ((∃ e, decode K text = .error e) ↔ tag ≠ m.tagV1 ∧ tag ≠ m.tagV2)) := by
  refine ⟨⟨?_, ?_⟩, ?_, ?_⟩
  · rintro hstep (⟨htag, hv⟩ | ⟨htag, hv, hcomplete⟩)
    · have hok : m.validate = .ok () := validate_eq_ok_iff.mpr ⟨.inr htag, .inl hv⟩
      have htag1 := ((tag_eq_tagFor_iff hok).mp (hstep hok).1).1 hv
      exact m.tagV1_ne_tagV2 (htag1.symm.trans htag)
    · have hok : m.validate = .ok () := validate_eq_ok_iff.mpr ⟨.inl htag, .inr ⟨hv, hcomplete⟩⟩
      have htag2 := ((tag_eq_tagFor_iff hok).mp (hstep hok).1).2 hv
      exact m.tagV1_ne_tagV2 (htag.symm.trans htag2)
  · intro hother hok
    obtain ⟨htag, hversion⟩ := validate_eq_ok_iff.mp hok
    refine ⟨(tag_eq_tagFor_iff hok).mpr ⟨?_, ?_⟩, hasFreshness_iff hok⟩
    · intro hv
      exact htag.resolve_right (fun h2 => hother (.inl ⟨h2, hv⟩))
    · intro hv
      have hcomplete : m.complete = true := by simpa [hv] using hversion
      exact htag.resolve_left (fun h1 => hother (.inr ⟨h1, hv, hcomplete⟩))
  · intro hok hv version hne text htext
    rw [decode_error_iff htext, ne_eq, validate_withVersion_iff hok hv]
    simp [hne]
  · intro hok tag hne text htext
    rw [decode_error_iff htext, ne_eq, validate_withTag_iff hok, not_or]

/-- An offer of version 2, as it is made. -/
def sampleFreshOffer : ProtocolMessage :=
  .offer (.newV2 "s" [filled 1] ⟨filled 2⟩ ⟨1000, 1300⟩)

/-- The offer is read with its version byte set to 1 and with the tag of version 1. In the
first case its nonce and timestamps count for nothing. -/
theorem versions_out_of_step :
    sampleFreshOffer.validate = .ok () ∧ sampleFreshOffer.version = 2 ∧
    decode .reference (encode .reference (sampleFreshOffer.withVersion 1).wire) =
      .ok (sampleFreshOffer.withVersion 1).wire ∧
    decode .reference
        (encode .reference (sampleFreshOffer.withTag Tags.maskedSetOfferV1).wire) =
      .ok (sampleFreshOffer.withTag Tags.maskedSetOfferV1).wire ∧
    (sampleFreshOffer.withVersion 1).hasFreshness = false ∧
    some (sampleFreshOffer.withVersion 1).tag ≠ (sampleFreshOffer.withVersion 1).tagFor 1 := by
  have hversion : (sampleFreshOffer.withVersion 1).validate = .ok () :=
    validate_eq_ok_iff.mpr (by decide)
  have htag : (sampleFreshOffer.withTag Tags.maskedSetOfferV1).validate = .ok () :=
    validate_eq_ok_iff.mpr (by decide)
  refine ⟨validate_eq_ok_iff.mpr (by decide), rfl, ?_, ?_, by decide, by decide⟩
  · exact decode_encode Crates.reference_parsesCompact ((validate_wire _).trans hversion)
  · exact decode_encode Crates.reference_parsesCompact ((validate_wire _).trans htag)

end ProtocolMessage

end BlindOverlap
