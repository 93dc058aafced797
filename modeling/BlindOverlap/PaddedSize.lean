import BlindOverlap.InitiatorLifecycle
import BlindOverlap.Lib.JsonSize
import BlindOverlap.PaddedExchange
import BlindOverlap.ResponderLifecycle
import BlindOverlap.WireCodec

/-!
# The size of a padded message

Everything in a message that depends on the sender's set, its secrets and its nonces is
written in hexadecimal, in fields of a fixed width. Once the lists are padded to one
target, the texts of two messages are of one size, whoever signs them.
-/
namespace BlindOverlap

/-! ## What the size of a text depends on -/

/-- Elements count by their number only. -/
@[simp] theorem zeroed_elementsToJson (l : List MaskedElement) :
    JsonText.mapStrings JsonText.zeroDigits (elementsToJson l) =
      .array (List.replicate l.length (.string (String.ofList (List.replicate 64 '0')))) := by
  rw [elementsToJson, JsonText.mapStrings, JsonText.mapStringsItems_eq_map, List.map_map]
  refine congrArg Json.array (List.map_eq_replicate_iff.mpr ?_)
  exact fun e _ => JsonText.zeroed_ofHex e

@[simp] theorem zeroed_nonce (n : SessionNonce) :
    JsonText.mapStrings JsonText.zeroDigits n.toJson =
      .string (String.ofList (List.replicate 64 '0')) :=
  JsonText.zeroed_ofHex n.bytes

section Texts
variable {K : Crates} {j j' : Json}

theorem Crates.PrintsCompact.sameSize (hK : K.PrintsCompact) (hj : JsonText.plain j = true)
    (hj' : JsonText.plain j' = true) (h : JsonText.zeroed j = JsonText.zeroed j') :
    JsonText.SameSize (K.jsonToString j) (K.jsonToString j') := by
  rw [hK j hj, hK j' hj']
  exact JsonText.sameSize_toText h JsonText.compact

theorem Crates.PrintsPretty.sameSize (hK : K.PrintsPretty) (hj : JsonText.plain j = true)
    (hj' : JsonText.plain j' = true) (h : JsonText.zeroed j = JsonText.zeroed j') :
    JsonText.SameSize (K.jsonToStringPretty j) (K.jsonToStringPretty j') := by
  rw [hK j hj, hK j' hj']
  exact JsonText.sameSize_toText h JsonText.pretty

end Texts

/-- Two messages whose texts are of one size, in either layout, bare or signed. -/
structure WireMessage.SameSize (K : Crates) (m m' : WireMessage) : Prop where
  encode : JsonText.SameSize (encode K m) (encode K m')
  encodePretty : JsonText.SameSize (encodePretty K m) (encodePretty K m')
  encodeSigned : ∀ p p' : PartyIdentity,
    JsonText.SameSize (encodeSigned K (.sign K m p)) (encodeSigned K (.sign K m' p'))
  encodeSignedPretty : ∀ p p' : PartyIdentity,
    JsonText.SameSize (encodeSignedPretty K (.sign K m p)) (encodeSignedPretty K (.sign K m' p'))

namespace WireMessage

/-- The key and the signature of an envelope are of a fixed width. -/
theorem zeroed_sign (K : Crates) {m m' : WireMessage}
    (h : JsonText.zeroed m.toJson = JsonText.zeroed m'.toJson) (p p' : PartyIdentity) :
    JsonText.zeroed (SignedWireMessage.sign K m p).toJson =
      JsonText.zeroed (SignedWireMessage.sign K m' p').toJson := by
  have hkey : ∀ q : PublicIdentity, JsonText.zeroDigits q.toHex =
      String.ofList (List.replicate 64 '0') := by
    intro q
    rw [PublicIdentity.toHex, JsonText.zeroDigits_encode, q.bytes.length_toList]
  have hsignature : ∀ b : Bytes 64, JsonText.mapStrings JsonText.zeroDigits (Json.ofHex b) =
      .string (String.ofList (List.replicate 128 '0')) := fun b => JsonText.zeroed_ofHex b
  rw [JsonText.zeroed] at h
  simp only [JsonText.zeroed, SignedWireMessage.toJson, SignedWireMessage.fields,
    SignedWireMessage.sign, JsonText.mapStrings_record, List.map_cons, List.map_nil,
    Option.map_some, JsonText.mapStrings_string, JsonText.mapStrings_ofUInt8, hkey, hsignature, h]

theorem SameSize.of_zeroed {K : Crates} (hcompact : K.PrintsCompact) (hpretty : K.PrintsPretty)
    {m m' : WireMessage} (h : JsonText.zeroed m.toJson = JsonText.zeroed m'.toJson) :
    SameSize K m m' where
  encode := hcompact.sameSize (m.storable_toJson 0).plain (m'.storable_toJson 0).plain h
  encodePretty := hpretty.sameSize (m.storable_toJson 0).plain (m'.storable_toJson 0).plain h
  encodeSigned p p' := hcompact.sameSize (SignedWireMessage.storable_toJson 0 _).plain
    (SignedWireMessage.storable_toJson 0 _).plain (zeroed_sign K h p p')
  encodeSignedPretty p p' := hpretty.sameSize (SignedWireMessage.storable_toJson 0 _).plain
    (SignedWireMessage.storable_toJson 0 _).plain (zeroed_sign K h p p')

end WireMessage

/-! ## Repackaging -/

/-- The constructor that a padded list is sent with, and the timestamps it is given. -/
inductive Repackaging where
  | new
  | newV2 (deadline : SessionDeadline)

namespace Repackaging

def offer (c : Repackaging) (sessionId : String) (elements : List MaskedElement)
    (nonce : SessionNonce) : MaskedSetOffer :=
  match c with
  | .new => .new sessionId elements
  | .newV2 deadline => .newV2 sessionId elements nonce deadline

def reply (c : Repackaging) (sessionId : String) (elements doublyMasked : List MaskedElement)
    (initiatorNonce responderNonce : SessionNonce) : MaskedSetReply :=
  match c with
  | .new => .new sessionId elements doublyMasked
  | .newV2 deadline =>
    .newV2 sessionId elements doublyMasked initiatorNonce responderNonce deadline

variable {elements elements' doublyMasked doublyMasked' : List MaskedElement}

theorem zeroed_offer (c : Repackaging) (sessionId : String)
    (h : elements.length = elements'.length) (nonce nonce' : SessionNonce) :
    JsonText.zeroed (WireMessage.offer (c.offer sessionId elements nonce)).toJson =
      JsonText.zeroed (WireMessage.offer (c.offer sessionId elements' nonce')).toJson := by
  cases c with
  | new =>
    simp [JsonText.zeroed, WireMessage.toJson, Json.tagged, MaskedSetOffer.fields, offer,
      MaskedSetOffer.new, h]
  | newV2 deadline =>
    simp [JsonText.zeroed, WireMessage.toJson, Json.tagged, MaskedSetOffer.fields, offer,
      MaskedSetOffer.newV2, h]

theorem zeroed_reply (c : Repackaging) (sessionId : String)
    (h : elements.length = elements'.length) (hdoubly : doublyMasked.length = doublyMasked'.length)
    (initiatorNonce initiatorNonce' responderNonce responderNonce' : SessionNonce) :
    JsonText.zeroed (WireMessage.reply
        (c.reply sessionId elements doublyMasked initiatorNonce responderNonce)).toJson =
      JsonText.zeroed (WireMessage.reply
        (c.reply sessionId elements' doublyMasked' initiatorNonce' responderNonce')).toJson := by
  cases c with
  | new =>
    simp [JsonText.zeroed, WireMessage.toJson, Json.tagged, MaskedSetReply.fields, reply,
      MaskedSetReply.new, h, hdoubly]
  | newV2 deadline =>
    simp [JsonText.zeroed, WireMessage.toJson, Json.tagged, MaskedSetReply.fields, reply,
      MaskedSetReply.newV2, h, hdoubly]

end Repackaging

/-! ## Padded messages -/

/-- How a padded offer comes about, with everything that its size must not show: a set of at
most the target's size in a new session, and what is drawn. -/
structure OfferRun (K : Crates) (target : ℕ) where
  session : InitiatorSession
  constructed : session.Constructed K
  fits : session.factSet.len ≤ target
  paddingSecret : List UInt8
  sessionContext : List UInt8
  nonce : SessionNonce

/-- How a padded reply comes about, from an offer that is accepted. -/
structure ReplyRun (K : Crates) (target : ℕ) where
  session : ResponderSession
  constructed : session.Constructed K
  fits : session.factSet.len ≤ target
  offer : MaskedSetOffer
  now : UInt64
  accepts : session.AcceptsOffer now offer
  sentAt : UInt64
  drawn : SessionNonce
  paddingSecret : List UInt8
  sessionContext : List UInt8
  initiatorNonce : SessionNonce
  responderNonce : SessionNonce

section Runs
variable {K : Crates} {target : ℕ}

def OfferRun.message (r : OfferRun K target) (sessionId : String) (c : Repackaging) :
    Except PaddedExchangeError MaskedSetOffer := do
  let offered := r.session.generateOffer K
  let offer ← offered.output.mapError .session
  let elements ← (padMaskedElements K offer.maskedElements ⟨target, r.paddingSecret⟩
    r.sessionContext).mapError .padding
  return c.offer sessionId elements r.nonce

def ReplyRun.message (r : ReplyRun K target) (sessionId : String) (c : Repackaging) :
    Except PaddedExchangeError MaskedSetReply := do
  let replied := r.session.processOfferAndReply K r.now r.sentAt r.drawn r.offer
  let reply ← replied.output.mapError .session
  let elements ← (padMaskedElements K reply.responderMasked ⟨target, r.paddingSecret⟩
    r.sessionContext).mapError .padding
  return c.reply sessionId elements reply.initiatorDoublyMasked r.initiatorNonce r.responderNonce

theorem OfferRun.exists_message (r : OfferRun K target) (sessionId : String) (c : Repackaging) :
    ∃ elements, r.message sessionId c = .ok (c.offer sessionId elements r.nonce) ∧
      elements.length = target := by
  obtain ⟨_, _, _, factSet, _, _, _, -, hs⟩ := r.constructed.exists_created
  have hstate : r.session.state = .created := by rw [hs]; rfl
  have hids : r.session.originalIds = r.session.factSet.idList := by rw [hs]; rfl
  have hlength : (r.session.offerMessage K).maskedElements.length ≤ target := by
    rw [InitiatorSession.offerMessage_maskedElements, Session.length_maskIds, hids]
    exact r.fits
  have hoffer : r.session.generateOffer K =
      ⟨.ok (r.session.offerMessage K), r.session.afterOffer K⟩ := by
    simp [InitiatorSession.generateOffer, hstate]
  have hpad : padMaskedElements K (r.session.offerMessage K).maskedElements
      ⟨target, r.paddingSecret⟩ r.sessionContext = .ok _ := padMaskedElements_of_le hlength _
  refine ⟨_, ?_, (padMaskedElements_spec hpad).1⟩
  simp only [OfferRun.message, hoffer, Except.mapError_ok, Except.ok_bind, hpad, Except.pure_eq_ok]

theorem ReplyRun.exists_message (r : ReplyRun K target) (sessionId : String) (c : Repackaging) :
    ∃ elements doublyMasked, r.message sessionId c =
        .ok (c.reply sessionId elements doublyMasked r.initiatorNonce r.responderNonce) ∧
      elements.length = target ∧ doublyMasked.length = r.offer.maskedElements.length := by
  obtain ⟨_, _, factSet, _, _, _, -, hs⟩ := r.constructed.exists_created
  have hids : r.session.originalIds = r.session.factSet.idList := by rw [hs]; rfl
  have hreply : r.session.processOfferAndReply K r.now r.sentAt r.drawn r.offer =
      ⟨.ok (r.session.replyMessage K r.sentAt r.drawn r.offer),
        (r.session.noteInitiatorNonce r.offer).afterReply K r.offer⟩ :=
    ResponderSession.processOfferAndReply_of_accepts r.accepts
  have hlength : (r.session.replyMessage K r.sentAt r.drawn r.offer).responderMasked.length ≤
      target := by
    rw [ResponderSession.replyMessage_responderMasked, Session.length_maskIds, hids]
    exact r.fits
  have hpad : padMaskedElements K
      (r.session.replyMessage K r.sentAt r.drawn r.offer).responderMasked
      ⟨target, r.paddingSecret⟩ r.sessionContext = .ok _ := padMaskedElements_of_le hlength _
  refine ⟨_, (r.session.replyMessage K r.sentAt r.drawn r.offer).initiatorDoublyMasked, ?_,
    (padMaskedElements_spec hpad).1, ?_⟩
  · simp only [ReplyRun.message, hreply, Except.mapError_ok, Except.ok_bind, hpad,
      Except.pure_eq_ok]
  · rw [ResponderSession.replyMessage_initiatorDoublyMasked, Session.length_maskReceived]

end Runs

/-- The texts of padded offers are of one size whatever set they were made from, and so are
those of padded replies to offers of one length. -/
theorem padded_messages_same_size {K : Crates} (hcompact : K.PrintsCompact)
    (hpretty : K.PrintsPretty) (target : ℕ) (sessionId : String) (c : Repackaging) :
    (∀ r r' : OfferRun K target, ∃ m m',
      r.message sessionId c = .ok m ∧ r'.message sessionId c = .ok m' ∧
      WireMessage.SameSize K (.offer m) (.offer m')) ∧
    ∀ r r' : ReplyRun K target, r.offer.maskedElements.length = r'.offer.maskedElements.length →
      ∃ m m', r.message sessionId c = .ok m ∧ r'.message sessionId c = .ok m' ∧
        WireMessage.SameSize K (.reply m) (.reply m') := by
  constructor
  · intro r r'
    obtain ⟨elements, hm, hlength⟩ := r.exists_message sessionId c
    obtain ⟨elements', hm', hlength'⟩ := r'.exists_message sessionId c
    refine ⟨_, _, hm, hm', .of_zeroed hcompact hpretty ?_⟩
    exact c.zeroed_offer sessionId (hlength.trans hlength'.symm) _ _
  · intro r r' hoffers
    obtain ⟨elements, doublyMasked, hm, hlength, hdoubly⟩ := r.exists_message sessionId c
    obtain ⟨elements', doublyMasked', hm', hlength', hdoubly'⟩ := r'.exists_message sessionId c
    refine ⟨_, _, hm, hm', .of_zeroed hcompact hpretty ?_⟩
    exact c.zeroed_reply sessionId (hlength.trans hlength'.symm)
      ((hdoubly.trans hoffers).trans hdoubly'.symm) _ _ _ _

/-! ### Concrete padded messages -/

def sampleOfferRun (ids : List FactId) (b : UInt8)
    (h : (FactSet.fromIds .reference ids).len ≤ 4) : OfferRun .reference 4 where
  session := .created 1000 ⟨filled b, ⟨filled b⟩⟩ "s" (.fromIds .reference ids) .cardinality
    .default
  constructed := .withConfig
    (InitiatorSession.withConfig_eq_ok_iff.mpr ⟨h.trans (by decide), rfl⟩)
  fits := h
  paddingSecret := [b]
  sessionContext := utf8 "s"
  nonce := ⟨filled b⟩

def sampleReplyRun (ids : List FactId) (b : UInt8)
    (h : (FactSet.fromIds .reference ids).len ≤ 4) : ReplyRun .reference 4 where
  session := .created ⟨filled b, ⟨filled b⟩⟩ "s" (.fromIds .reference ids) .cardinality
    .default
  constructed := .withConfig
    (ResponderSession.withConfig_eq_ok_iff.mpr ⟨h.trans (by decide), rfl⟩)
  fits := h
  offer := .new "s" [filled b]
  now := 1001
  accepts := ⟨rfl, rfl, fun _ hfresh => nomatch hfresh⟩
  sentAt := 1002
  drawn := ⟨filled b⟩
  paddingSecret := [b]
  sessionContext := utf8 "s"
  initiatorNonce := ⟨filled b⟩
  responderNonce := ⟨filled b⟩

theorem padded_messages_same_size_sample :
    (∃ m m',
      (sampleOfferRun [] 8 (by decide +kernel)).message "s" (.newV2 ⟨1000, 1300⟩) = .ok m ∧
      (sampleOfferRun [filled 1, filled 2] 9 (by decide +kernel)).message "s"
        (.newV2 ⟨1000, 1300⟩) = .ok m' ∧
      WireMessage.SameSize .reference (.offer m) (.offer m')) ∧
    ∃ m m',
      (sampleReplyRun [filled 3] 8 (by decide +kernel)).message "s"
        (.newV2 ⟨1002, 1302⟩) = .ok m ∧
      (sampleReplyRun [filled 1, filled 2] 9 (by decide +kernel)).message "s"
        (.newV2 ⟨1002, 1302⟩) = .ok m' ∧
      WireMessage.SameSize .reference (.reply m) (.reply m') := by
  have hsize := padded_messages_same_size Crates.reference_printsCompact
    Crates.reference_printsPretty 4 "s"
  exact ⟨(hsize (.newV2 ⟨1000, 1300⟩)).1 _ _, (hsize (.newV2 ⟨1002, 1302⟩)).2 _ _ rfl⟩

end BlindOverlap
