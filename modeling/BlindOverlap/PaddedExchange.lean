import BlindOverlap.Correctness
import BlindOverlap.Padding

/-!
# An exchange of padded lists

Both parties pad the list that they send and cut what comes back to the length of
their own. The dummies pass through both masks next to the real elements; as long
as none of them collides with a doubly masked element, the padded exchange reports
what the plain one does.
-/
namespace BlindOverlap

/-- A padding configuration in its session. -/
structure Padding where
  config : PaddingConfig
  sessionContext : List UInt8

/-- The dummies that fill up a list of the given length. -/
def Padding.dummies (K : Crates) (p : Padding) (count : ℕ) : List MaskedElement :=
  generateDummyMaskedElements K p.config.paddingSecret p.sessionContext
    (p.config.targetSize - count)

@[simp] theorem Padding.length_dummies (K : Crates) (p : Padding) (count : ℕ) :
    (p.dummies K count).length = p.config.targetSize - count :=
  length_generateDummies ..

def MaskedSetOffer.padded (K : Crates) (p : Padding) (offer : MaskedSetOffer) :
    Except PaddingError MaskedSetOffer :=
  (padMaskedElements K offer.maskedElements p.config p.sessionContext).map
    (fun elements => { offer with maskedElements := elements })

def MaskedSetReply.padded (K : Crates) (p : Padding) (reply : MaskedSetReply) :
    Except PaddingError MaskedSetReply :=
  (padMaskedElements K reply.responderMasked p.config p.sessionContext).map
    (fun elements => { reply with responderMasked := elements })

def MaskedSetReply.stripped (count : ℕ) (reply : MaskedSetReply) : MaskedSetReply :=
  { reply with initiatorDoublyMasked := stripPadding reply.initiatorDoublyMasked count }

def IntersectionReveal.stripped (count : ℕ) (reveal : IntersectionReveal) : IntersectionReveal :=
  { reveal with responderDoublyMasked := stripPadding reveal.responderDoublyMasked count }

inductive PaddedExchangeError where
  | session (e : SessionError)
  | padding (e : PaddingError)
  deriving DecidableEq

/-- The calls of an exchange, with both lists padded on the way out and both answers
cut to the own count on the way in. -/
def paddedExchange (K : Crates) (c : ExchangeReadings) (p q : Padding) (i : InitiatorSession)
    (r : ResponderSession) : Except PaddedExchangeError ExchangeOutcome := do
  let offered := i.generateOffer K
  let plainOffer ← offered.output.mapError .session
  let offer ← (plainOffer.padded K p).mapError .padding
  let replied := r.processOfferAndReply K c.offerCheckedAt c.replySentAt c.replyNonce offer
  let plainReply ← replied.output.mapError .session
  let reply ← (plainReply.padded K q).mapError .padding
  let completed := offered.next.processReply K c.replyCheckedAt
    (reply.stripped plainOffer.maskedElements.length)
  let initiatorResult ← completed.output.mapError .session
  let reveal ← (completed.next.generateReveal K c.revealSentAt c.revealNonce).mapError .session
  let revealed := replied.next.processReveal K c.revealCheckedAt
    (reveal.stripped plainReply.responderMasked.length)
  let responderResult ← revealed.output.mapError .session
  return { offer, reply, initiatorResult, reveal, responderResult }

/-- A padded exchange between two parties, from the making of their sessions. -/
def paddedOnlineExchange (K : Crates) (c : ExchangeReadings) (sessionId : String) (p q : Padding)
    (a b : Party) : Except PaddedExchangeError ExchangeOutcome := do
  let i ← (InitiatorSession.withConfig c.createdAt a.drawn sessionId a.factSet a.mode
    a.config).mapError .session
  let r ← (ResponderSession.withConfig b.drawn sessionId b.factSet b.mode b.config).mapError
    .session
  paddedExchange K c p q i r

/-! ## Padding and masking -/

section Messages
variable {K : Crates} {p : Padding}

theorem MaskedSetOffer.padded_eq {offer : MaskedSetOffer}
    (h : offer.maskedElements.length ≤ p.config.targetSize) :
    offer.padded K p = .ok { offer with
      maskedElements := offer.maskedElements ++ p.dummies K offer.maskedElements.length } := by
  rw [MaskedSetOffer.padded, padMaskedElements_of_le h]
  rfl

theorem MaskedSetReply.padded_eq {reply : MaskedSetReply}
    (h : reply.responderMasked.length ≤ p.config.targetSize) :
    reply.padded K p = .ok { reply with
      responderMasked := reply.responderMasked ++ p.dummies K reply.responderMasked.length } := by
  rw [MaskedSetReply.padded, padMaskedElements_of_le h]
  rfl

/-- Masking a padded list and cutting it masks the list. -/
theorem stripPadding_maskReceived (secret : StaticSecret) {elements : List MaskedElement}
    {count : ℕ} (h : elements.length = count) (extra : List MaskedElement) :
    stripPadding (Session.maskReceived K secret (elements ++ extra)) count =
      Session.maskReceived K secret elements := by
  rw [Session.maskReceived, List.map_append]
  exact List.take_left' (by rw [List.length_map, h])

end Messages

section Replies
variable (K : Crates) (sentAt : UInt64) (drawn : SessionNonce)

/-- Of the offered list only its doubly masked copy reaches the reply. -/
theorem ResponderSession.replyMessage_withElements (r : ResponderSession) (offer : MaskedSetOffer)
    (elements : List MaskedElement) :
    r.replyMessage K sentAt drawn { offer with maskedElements := elements } =
      { r.replyMessage K sentAt drawn offer with
        initiatorDoublyMasked := Session.maskReceived K r.secret elements } := by
  have hsame : r.usesV2 { offer with maskedElements := elements } = r.usesV2 offer := rfl
  unfold ResponderSession.replyMessage
  rw [hsame]
  split_ifs <;> rfl

/-- Of the responder's list only its doubly masked copy reaches the reveal. -/
theorem InitiatorSession.revealMessage_withElements (i : InitiatorSession)
    (elements elements' : List MaskedElement) :
    i.revealMessage K sentAt drawn elements =
      { i.revealMessage K sentAt drawn elements' with
        responderDoublyMasked := Session.maskReceived K i.secret elements } := by
  unfold InitiatorSession.revealMessage
  split_ifs <;> rfl

end Replies

/-! ## The run -/

section Run
variable {c : ExchangeReadings} {i : InitiatorSession} {r : ResponderSession}

/-- The lists that the two sides send. -/
def paddedOffer (K : Crates) (p : Padding) (i : InitiatorSession) : List MaskedElement :=
  Session.maskIds K i.secret i.originalIds ++ p.dummies K i.originalIds.length

def paddedReply (K : Crates) (q : Padding) (r : ResponderSession) : List MaskedElement :=
  Session.maskIds K r.secret r.originalIds ++ q.dummies K r.originalIds.length

theorem length_paddedOffer {K : Crates} {p : Padding}
    (h : i.originalIds.length ≤ p.config.targetSize) :
    (paddedOffer K p i).length = p.config.targetSize := by
  rw [paddedOffer, List.length_append, Session.length_maskIds, Padding.length_dummies]
  omega

theorem length_paddedReply {K : Crates} {q : Padding}
    (h : r.originalIds.length ≤ q.config.targetSize) :
    (paddedReply K q r).length = q.config.targetSize := by
  rw [paddedReply, List.length_append, Session.length_maskIds, Padding.length_dummies]
  omega

/-- No dummy, masked by the side that receives it, is one of the doubly masked
elements that this side looks for. -/
structure Padding.Apart (K : Crates) (p q : Padding) (i : InitiatorSession)
    (r : ResponderSession) : Prop where
  offer : ∀ d ∈ p.dummies K i.originalIds.length, K.diffieHellman r.secret d ∉
    Session.maskReceived K i.secret (Session.maskIds K r.secret r.originalIds)
  reply : ∀ d ∈ q.dummies K r.originalIds.length, K.diffieHellman i.secret d ∉
    Session.maskReceived K r.secret (Session.maskIds K i.secret i.originalIds)

theorem intersectMasked_padded {K : Crates} {secret : StaticSecret}
    {own elements dummies : List MaskedElement}
    (h : ∀ d ∈ dummies, K.diffieHellman secret d ∉ own) (ids : List FactId)
    (mode : IntersectionMode) :
    intersectMasked K own (Session.maskReceived K secret (elements ++ dummies)) ids mode =
      intersectMasked K own (Session.maskReceived K secret elements) ids mode := by
  have happend : Session.maskReceived K secret (elements ++ dummies) =
      Session.maskReceived K secret elements ++ Session.maskReceived K secret dummies :=
    List.map_append
  rw [happend]
  refine intersectMasked_append (fun e he => ?_) ids mode
  obtain ⟨d, hd, rfl⟩ := List.mem_map.mp he
  exact h d hd

/-- The initiator's state after it has taken the padded reply. -/
def afterPaddedReply (K : Crates) (c : ExchangeReadings) (q : Padding) (i : InitiatorSession)
    (r : ResponderSession) : InitiatorSession :=
  { afterReplyTaken K c i r with responderMasked := some (paddedReply K q r) }

/-- The responder's state after it has answered the padded offer. -/
def afterPaddedOffer (K : Crates) (p : Padding) (i : InitiatorSession) (r : ResponderSession) :
    ResponderSession :=
  { afterOfferTaken K i r with
    initiatorDoublyMasked := some (Session.maskReceived K r.secret (paddedOffer K p i)) }

/-- The reply to the padded offer, before its own list is padded. -/
def answeredReply (K : Crates) (c : ExchangeReadings) (p : Padding) (i : InitiatorSession)
    (r : ResponderSession) : MaskedSetReply :=
  { r.replyMessage K c.replySentAt c.replyNonce (i.offerMessage K) with
    initiatorDoublyMasked := Session.maskReceived K r.secret (paddedOffer K p i) }

/-- The padded reply once the initiator has cut its own list. -/
def cutReply (K : Crates) (c : ExchangeReadings) (q : Padding) (i : InitiatorSession)
    (r : ResponderSession) : MaskedSetReply :=
  { r.replyMessage K c.replySentAt c.replyNonce (i.offerMessage K) with
    responderMasked := paddedReply K q r }

/-- The messages and results of a padded exchange: those of the plain one, but for the
lists on the wire. -/
def paddedOutcome (K : Crates) (c : ExchangeReadings) (p q : Padding) (i : InitiatorSession)
    (r : ResponderSession) : ExchangeOutcome :=
  let plain := honestOutcome K c i r
  { plain with
    offer := { plain.offer with maskedElements := paddedOffer K p i }
    reply := { answeredReply K c p i r with responderMasked := paddedReply K q r }
    reveal := { plain.reveal with
      responderDoublyMasked := Session.maskReceived K i.secret (paddedReply K q r) } }

/-- The responder answers a padded offer as it answers the offer. -/
theorem Facing.processPaddedOffer (h : Facing c i r) (K : Crates) (p : Padding) :
    r.processOfferAndReply K c.offerCheckedAt c.replySentAt c.replyNonce
      { i.offerMessage K with maskedElements := paddedOffer K p i } =
        ⟨.ok (answeredReply K c p i r), afterPaddedOffer K p i r⟩ := by
  have hplain := h.acceptsOffer K
  have haccepts : r.AcceptsOffer c.offerCheckedAt
      { i.offerMessage K with maskedElements := paddedOffer K p i } :=
    ⟨hplain.state, hplain.sessionId, hplain.fresh⟩
  rw [ResponderSession.processOfferAndReply_of_accepts haccepts,
    ResponderSession.replyMessage_withElements]
  rfl

/-- The initiator finds in the padded reply, once cut, what it finds in the reply. -/
theorem Facing.processPaddedReply (h : Facing c i r) {K : Crates} {q : Padding}
    (hapart : ∀ d ∈ q.dummies K r.originalIds.length, K.diffieHellman i.secret d ∉
      Session.maskReceived K r.secret (Session.maskIds K i.secret i.originalIds)) :
    (i.afterOffer K).processReply K c.replyCheckedAt (cutReply K c q i r) =
      ⟨.ok (honestOutcome K c i r).initiatorResult, afterPaddedReply K c q i r⟩ := by
  have hplain := h.acceptsReply K
  have haccepts : (i.afterOffer K).AcceptsReply c.replyCheckedAt (cutReply K c q i r) :=
    ⟨⟨hplain.state, hplain.sessionId, hplain.fresh⟩, hplain.count⟩
  have hresult : (i.afterOffer K).replyResult K (cutReply K c q i r) =
      (honestOutcome K c i r).initiatorResult := by
    simp only [InitiatorSession.replyResult, cutReply, r.replyMessage_initiatorDoublyMasked,
      i.offerMessage_maskedElements]
    exact intersectMasked_padded hapart i.originalIds i.mode
  rw [InitiatorSession.processReply_of_accepts haccepts, hresult]
  rfl

/-- The responder finds in the reveal what it finds in a plain exchange. -/
theorem Facing.processPaddedReveal (h : Facing c i r) {K : Crates} {p : Padding}
    (hapart : ∀ d ∈ p.dummies K i.originalIds.length, K.diffieHellman r.secret d ∉
      Session.maskReceived K i.secret (Session.maskIds K r.secret r.originalIds)) :
    (afterPaddedOffer K p i r).processReveal K c.revealCheckedAt (honestOutcome K c i r).reveal =
      ⟨.ok (honestOutcome K c i r).responderResult, (afterPaddedOffer K p i r).completed⟩ := by
  have hplain := h.acceptsReveal K
  have haccepts : (afterPaddedOffer K p i r).AcceptsReveal c.revealCheckedAt
      (honestOutcome K c i r).reveal :=
    ⟨⟨hplain.state, hplain.sessionId, hplain.fresh⟩, hplain.count⟩
  have hresult : (afterPaddedOffer K p i r).revealResult K (honestOutcome K c i r).reveal
      (Session.maskReceived K r.secret (paddedOffer K p i)) =
        (honestOutcome K c i r).responderResult := by
    simp only [ResponderSession.revealResult, honestOutcome,
      InitiatorSession.revealMessage_responderDoublyMasked]
    exact intersectMasked_padded hapart r.originalIds r.mode
  rw [ResponderSession.processReveal_of_accepts haccepts rfl, hresult]

/-! ### What the receivers cut off -/

theorem stripped_paddedReply (K : Crates) (c : ExchangeReadings) (p q : Padding)
    (i : InitiatorSession) (r : ResponderSession) :
    (paddedOutcome K c p q i r).reply.stripped i.originalIds.length = cutReply K c q i r := by
  have hcut := stripPadding_maskReceived (K := K) r.secret
    (Session.length_maskIds K i.secret i.originalIds) (p.dummies K i.originalIds.length)
  have hplain : (honestOutcome K c i r).reply.initiatorDoublyMasked =
      Session.maskReceived K r.secret (Session.maskIds K i.secret i.originalIds) := by
    simp [honestOutcome]
  exact congrArg (fun l => { (honestOutcome K c i r).reply with
    responderMasked := paddedReply K q r, initiatorDoublyMasked := l }) (hcut.trans hplain.symm)

theorem stripped_paddedReveal (K : Crates) (c : ExchangeReadings) (p q : Padding)
    (i : InitiatorSession) (r : ResponderSession) :
    (paddedOutcome K c p q i r).reveal.stripped r.originalIds.length =
      (honestOutcome K c i r).reveal := by
  have hcut := stripPadding_maskReceived (K := K) i.secret
    (Session.length_maskIds K r.secret r.originalIds) (q.dummies K r.originalIds.length)
  have hplain : (honestOutcome K c i r).reveal.responderDoublyMasked =
      Session.maskReceived K i.secret (Session.maskIds K r.secret r.originalIds) :=
    InitiatorSession.revealMessage_responderDoublyMasked K c.revealSentAt c.revealNonce
      (afterReplyTaken K c i r) _
  exact congrArg (fun l => { (honestOutcome K c i r).reveal with
    responderDoublyMasked := l }) (hcut.trans hplain.symm)

theorem Facing.paddedExchange_eq (h : Facing c i r) {K : Crates} {p q : Padding}
    (hp : i.originalIds.length ≤ p.config.targetSize)
    (hq : r.originalIds.length ≤ q.config.targetSize) (hapart : Padding.Apart K p q i r) :
    paddedExchange K c p q i r = .ok (paddedOutcome K c p q i r) := by
  have hoffer : i.generateOffer K = ⟨.ok (i.offerMessage K), i.afterOffer K⟩ := by
    simp [InitiatorSession.generateOffer, h.initiator]
  have hcountI : (i.offerMessage K).maskedElements.length = i.originalIds.length := by simp
  have hpadOffer : (i.offerMessage K).padded K p = .ok (paddedOutcome K c p q i r).offer := by
    rw [MaskedSetOffer.padded_eq (hcountI.trans_le hp), hcountI, i.offerMessage_maskedElements]
    rfl
  have hown : (answeredReply K c p i r).responderMasked =
      Session.maskIds K r.secret r.originalIds := r.replyMessage_responderMasked ..
  have hcountR : (answeredReply K c p i r).responderMasked.length = r.originalIds.length := by
    rw [hown, Session.length_maskIds]
  have hpadReply : (answeredReply K c p i r).padded K q =
      .ok (paddedOutcome K c p q i r).reply := by
    rw [MaskedSetReply.padded_eq (hcountR.trans_le hq), hcountR, hown]
    rfl
  have hreveal : (afterPaddedReply K c q i r).generateReveal K c.revealSentAt c.revealNonce =
      .ok (paddedOutcome K c p q i r).reveal :=
    InitiatorSession.generateReveal_eq_ok_iff.mpr ⟨rfl, _, rfl,
      (InitiatorSession.revealMessage_withElements K c.revealSentAt c.revealNonce
        (afterReplyTaken K c i r) (paddedReply K q r) _).symm⟩
  have hanswered : r.processOfferAndReply K c.offerCheckedAt c.replySentAt c.replyNonce
      (paddedOutcome K c p q i r).offer =
        ⟨.ok (answeredReply K c p i r), afterPaddedOffer K p i r⟩ := h.processPaddedOffer K p
  simp only [paddedExchange, hoffer, Except.mapError_ok, Except.ok_bind, hpadOffer, hanswered,
    hpadReply, hcountI, hcountR, stripped_paddedReply, h.processPaddedReply hapart.reply, hreveal,
    stripped_paddedReveal, h.processPaddedReveal hapart.offer, Except.pure_eq_ok]
  rfl

end Run

/-- Padding both lists of an exchange, each to any size that holds it, changes neither
party's result. -/
theorem padding_transparent (K : Crates) (c : ExchangeReadings) (sessionId : String)
    (p q : Padding) (a b : Party)
    (ha : a.factSet.len ≤ maxSetSize) (hb : b.factSet.len ≤ maxSetSize)
    (ht : Timely c a.config b.config)
    (hp : a.factSet.len ≤ p.config.targetSize) (hq : b.factSet.len ≤ q.config.targetSize)
    (hapart : Padding.Apart K p q (a.initiator c sessionId) (b.responder sessionId)) :
    ∃ o o', onlineExchange K c sessionId a b = .ok o ∧
      paddedOnlineExchange K c sessionId p q a b = .ok o' ∧
      o'.offer.maskedElements.length = p.config.targetSize ∧
      o'.reply.responderMasked.length = q.config.targetSize ∧
      o'.initiatorResult = o.initiatorResult ∧ o'.responderResult = o.responderResult := by
  have hpadded : paddedOnlineExchange K c sessionId p q a b =
      .ok (paddedOutcome K c p q (a.initiator c sessionId) (b.responder sessionId)) := by
    simp only [paddedOnlineExchange, Party.withConfig_initiator ha, Party.withConfig_responder hb,
      Except.mapError_ok, Except.ok_bind,
      (Party.facing ht sessionId).paddedExchange_eq hp hq hapart]
  refine ⟨_, _, onlineExchange_eq ha hb ht, hpadded, ?_, ?_, rfl, rfl⟩
  · exact length_paddedOffer hp
  · exact length_paddedReply hq

/-! ### A concrete padded exchange -/

def samplePaddingA : Padding := ⟨⟨3, utf8 "p"⟩, utf8 "sample"⟩

def samplePaddingB : Padding := ⟨⟨2, utf8 "q"⟩, utf8 "sample"⟩

theorem sample_apart : Padding.Apart .reference samplePaddingA samplePaddingB
    (samplePartyA.initiator sampleReadings "sample") (samplePartyB.responder "sample") := by
  have hidsA : samplePartyA.factSet.idList = [filled 3, filled 5] := by decide +kernel
  have hidsB : samplePartyB.factSet.idList = [filled 5] := by decide +kernel
  have hdummiesA : samplePaddingA.dummies .reference 2 =
      [point "a398a083950e1ff8b9b2f5795045fbe22ce7f8d7bd8c46d0b28e51df0de46a0a"] := by
    decide +kernel
  have hdummiesB : samplePaddingB.dummies .reference 1 =
      [point "c9f665d750062286f15703dc14ad4c3f69bab7237971b513b9f40ab623839655"] := by
    decide +kernel
  have hunderB : Crates.reference.diffieHellman sampleSecretB
      (point "a398a083950e1ff8b9b2f5795045fbe22ce7f8d7bd8c46d0b28e51df0de46a0a") =
        point "39e14c207427221dc0083436bb94c9fc021b138d98958a1c91ff5aab77df2167" := by
    decide +kernel
  have hunderA : Crates.reference.diffieHellman sampleSecretA
      (point "c9f665d750062286f15703dc14ad4c3f69bab7237971b513b9f40ab623839655") =
        point "7d88e60609d64a0476fe4b4407e0b4585374b2de1cafe83711b45388701b1070" := by
    decide +kernel
  have hlistA : Session.maskReceived .reference sampleSecretB (Session.maskIds .reference
      sampleSecretA [filled 3, filled 5]) = [pointsOfThree.underBoth, pointsOfFive.underBoth] := by
    simp only [Session.maskReceived, Session.maskIds, List.map_cons, List.map_nil,
      Session.hashToPublicKey, pointsOfThree_of.plain, pointsOfThree_of.underA,
      pointsOfThree_of.ofA, pointsOfFive_of.plain, pointsOfFive_of.underA, pointsOfFive_of.ofA]
  have hlistB : Session.maskReceived .reference sampleSecretA (Session.maskIds .reference
      sampleSecretB [filled 5]) = [pointsOfFive.underBoth] := by
    simp only [Session.maskReceived, Session.maskIds, List.map_cons, List.map_nil,
      Session.hashToPublicKey, pointsOfFive_of.plain, pointsOfFive_of.underB, pointsOfFive_of.ofB]
  constructor
  · show ∀ d ∈ samplePaddingA.dummies .reference samplePartyA.factSet.idList.length,
      Crates.reference.diffieHellman sampleSecretB d ∉ Session.maskReceived .reference
        sampleSecretA (Session.maskIds .reference sampleSecretB samplePartyB.factSet.idList)
    rw [hidsA, hidsB, hlistB, show [filled 3, filled 5].length = 2 from rfl]
    intro d hd
    rw [hdummiesA, List.mem_singleton] at hd
    rw [hd, hunderB]
    decide +kernel
  · show ∀ d ∈ samplePaddingB.dummies .reference samplePartyB.factSet.idList.length,
      Crates.reference.diffieHellman sampleSecretA d ∉ Session.maskReceived .reference
        sampleSecretB (Session.maskIds .reference sampleSecretA samplePartyA.factSet.idList)
    rw [hidsA, hidsB, hlistA, show [filled 5].length = 1 from rfl]
    intro d hd
    rw [hdummiesB, List.mem_singleton] at hd
    rw [hd, hunderA]
    decide +kernel

theorem padding_transparent_sample :
    ∃ o o', onlineExchange .reference sampleReadings "sample" samplePartyA samplePartyB = .ok o ∧
      paddedOnlineExchange .reference sampleReadings "sample" samplePaddingA samplePaddingB
        samplePartyA samplePartyB = .ok o' ∧
      o'.offer.maskedElements.length = 3 ∧ o'.reply.responderMasked.length = 2 ∧
      o'.initiatorResult = o.initiatorResult ∧ o'.responderResult = o.responderResult :=
  padding_transparent .reference sampleReadings "sample" samplePaddingA samplePaddingB
    samplePartyA samplePartyB (by decide +kernel) (by decide +kernel) sample_timely
    (by decide +kernel) (by decide +kernel) sample_apart

end BlindOverlap
