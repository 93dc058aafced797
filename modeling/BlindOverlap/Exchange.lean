import BlindOverlap.InitiatorSession
import BlindOverlap.ResponderSession

/-!
# One honest exchange

The five calls in order, each fed with what the previous one returned. Whatever
the two sides choose about freshness, both end with the identifiers that hash to
a common point; telling the points of different identifiers apart is a separate
assumption, needed only to name that set.
-/
namespace BlindOverlap

/-- What one side brings to an exchange. -/
structure Party where
  factSet : FactSet
  mode : IntersectionMode
  config : SessionConfig
  drawn : Drawn

/-- Clock readings and nonces drawn while an exchange runs. -/
structure ExchangeReadings where
  createdAt : UInt64
  offerCheckedAt : UInt64
  replySentAt : UInt64
  replyCheckedAt : UInt64
  revealSentAt : UInt64
  revealCheckedAt : UInt64
  replyNonce : SessionNonce
  revealNonce : SessionNonce

structure ExchangeOutcome where
  offer : MaskedSetOffer
  reply : MaskedSetReply
  initiatorResult : PsiResult
  reveal : IntersectionReveal
  responderResult : PsiResult

/-- The calls of an exchange between two sessions. -/
def exchange (K : Crates) (c : ExchangeReadings) (i : InitiatorSession) (r : ResponderSession) :
    Except SessionError ExchangeOutcome := do
  let offered := i.generateOffer K
  let offer ← offered.output
  let replied := r.processOfferAndReply K c.offerCheckedAt c.replySentAt c.replyNonce offer
  let reply ← replied.output
  let completed := offered.next.processReply K c.replyCheckedAt reply
  let initiatorResult ← completed.output
  let reveal ← completed.next.generateReveal K c.revealSentAt c.revealNonce
  let revealed := replied.next.processReveal K c.revealCheckedAt reveal
  let responderResult ← revealed.output
  return { offer, reply, initiatorResult, reveal, responderResult }

/-- An exchange between two parties, from the making of their sessions. -/
def onlineExchange (K : Crates) (c : ExchangeReadings) (sessionId : String) (a b : Party) :
    Except SessionError ExchangeOutcome := do
  let i ← InitiatorSession.withConfig c.createdAt a.drawn sessionId a.factSet a.mode a.config
  let r ← ResponderSession.withConfig b.drawn sessionId b.factSet b.mode b.config
  exchange K c i r

/-- A message of the given lifetime, dated and checked before it expires. -/
def InTime (ttlSecs sentAt checkedAt : UInt64) : Prop :=
  sentAt < (SessionDeadline.new sentAt ttlSecs).expiresAt ∧
    checkedAt < (SessionDeadline.new sentAt ttlSecs).expiresAt

/-- Every message that carries a deadline is dated and checked before it. -/
structure Timely (c : ExchangeReadings) (a b : SessionConfig) : Prop where
  offer : a.useFreshness = true → InTime a.ttlSecs c.createdAt c.offerCheckedAt
  reply : a.useFreshness = true → b.useFreshness = true →
    InTime b.ttlSecs c.replySentAt c.replyCheckedAt
  reveal : a.useFreshness = true → InTime a.ttlSecs c.revealSentAt c.revealCheckedAt

theorem InTime.validate {ttlSecs sentAt checkedAt : UInt64} (h : InTime ttlSecs sentAt checkedAt) :
    (SessionDeadline.new sentAt ttlSecs).validate checkedAt = .ok () :=
  SessionDeadline.validate_eq_ok_iff.mpr h

/-! ## Doubly masked lists -/

/-- The masks that two secrets put on the points of identifiers. -/
def sessionMasks (K : Crates) (a b : StaticSecret) : MaskPair FactId MaskedElement where
  embed := Session.hashToPublicKey K
  left := K.diffieHellman a
  right := K.diffieHellman b

/-- The identifiers of the first set that have a point in common with the second. -/
def alike (K : Crates) (s t : OrderedSet FactId) : OrderedSet FactId :=
  s.filter (fun x =>
    decide (Session.hashToPublicKey K x ∈ t.toList.map (Session.hashToPublicKey K)))

theorem mem_alike {K : Crates} {s t : OrderedSet FactId} {x : FactId} :
    x ∈ alike K s t ↔
      x ∈ s ∧ ∃ y ∈ t, Session.hashToPublicKey K y = Session.hashToPublicKey K x := by
  simp [alike]

/-- Injective hashing leaves exactly the common identifiers. -/
theorem alike_eq_inter {K : Crates} {s t : OrderedSet FactId}
    (h : ∀ x ∈ s, ∀ y ∈ t, Session.hashToPublicKey K x = Session.hashToPublicKey K y → x = y) :
    alike K s t = s.inter t := by
  ext x
  rw [mem_alike, OrderedSet.mem_inter]
  constructor
  · rintro ⟨hx, y, hy, he⟩
    exact ⟨hx, h x hx y hy he.symm ▸ hy⟩
  · rintro ⟨hx, hy⟩
    exact ⟨hx, x, hy, rfl⟩

/-- And so on both sides. -/
theorem alike_eq_common {K : Crates} {s t : OrderedSet FactId}
    (h : Set.InjOn (Session.hashToPublicKey K) {x | x ∈ s ∨ x ∈ t}) :
    alike K s t = s.inter t ∧ alike K t s = s.inter t := by
  constructor
  · exact alike_eq_inter fun x hx y hy he => h (.inl hx) (.inr hy) he
  · rw [alike_eq_inter fun x hx y hy he => h (.inr hx) (.inl hy) he]
    ext x
    simp [and_comm]

theorem doublyMasked_eq_map (K : Crates) (a b : StaticSecret) (ids : List FactId) :
    Session.maskReceived K b (Session.maskIds K a ids) =
      ids.map (fun x => K.diffieHellman b (K.diffieHellman a (Session.hashToPublicKey K x))) := by
  simp [Session.maskReceived, Session.maskIds, Function.comp_def]

/-- What the initiator reads off honestly masked lists. -/
theorem initiator_intersectMasked {K : Crates} {a b : StaticSecret} {s t : OrderedSet FactId}
    (h : (sessionMasks K a b).Lawful (s.toList ++ t.toList)) (mode : IntersectionMode) :
    intersectMasked K (Session.maskReceived K b (Session.maskIds K a s.toList))
      (Session.maskReceived K a (Session.maskIds K b t.toList)) s.toList mode =
        .ofSet K (alike K s t) mode := by
  have hfilter := MaskPair.filter_left_eq_shared h
  rw [doublyMasked_eq_map, doublyMasked_eq_map, intersectMasked_map]
  congr 1
  exact OrderedSet.ext (fun x => by
    have := congrArg (x ∈ ·) hfilter
    simpa [MaskPair.mem_shared, mem_alike, sessionMasks] using this)

/-- What the responder reads off the same lists. -/
theorem responder_intersectMasked {K : Crates} {a b : StaticSecret} {s t : OrderedSet FactId}
    (h : (sessionMasks K a b).Lawful (s.toList ++ t.toList)) (mode : IntersectionMode) :
    intersectMasked K (Session.maskReceived K a (Session.maskIds K b t.toList))
      (Session.maskReceived K b (Session.maskIds K a s.toList)) t.toList mode =
        .ofSet K (alike K t s) mode := by
  have hfilter := MaskPair.filter_right_eq_shared h
  rw [doublyMasked_eq_map, doublyMasked_eq_map, intersectMasked_map]
  congr 1
  exact OrderedSet.ext (fun x => by
    have := congrArg (x ∈ ·) hfilter
    simpa [MaskPair.mem_shared, mem_alike, sessionMasks] using this)

/-! ## The run -/

/-- Two sessions at the start of an exchange with each other. -/
structure Facing (c : ExchangeReadings) (i : InitiatorSession) (r : ResponderSession) : Prop where
  initiator : i.state = .created
  responder : r.state = .created
  sessionId : r.sessionId = i.sessionId
  deadline : i.deadline = .new c.createdAt i.config.ttlSecs
  timely : Timely c i.config r.config

section Run
variable {c : ExchangeReadings} {i : InitiatorSession} {r : ResponderSession}

/-- The initiator once it has taken the responder's reply. -/
def afterReplyTaken (K : Crates) (c : ExchangeReadings) (i : InitiatorSession)
    (r : ResponderSession) : InitiatorSession :=
  let reply := r.replyMessage K c.replySentAt c.replyNonce (i.offerMessage K)
  ((i.afterOffer K).noteResponderNonce reply).completedBy reply

/-- The responder once it has answered the initiator's offer. -/
def afterOfferTaken (K : Crates) (i : InitiatorSession) (r : ResponderSession) :
    ResponderSession :=
  (r.noteInitiatorNonce (i.offerMessage K)).afterReply K (i.offerMessage K)

theorem Facing.acceptsOffer (h : Facing c i r) (K : Crates) :
    r.AcceptsOffer c.offerCheckedAt (i.offerMessage K) where
  state := h.responder
  sessionId := by rw [i.offerMessage_sessionId, h.sessionId]
  fresh := by
    intro _ hfresh
    rw [i.offerMessage_hasFreshness] at hfresh
    rw [i.offerMessage_fresh hfresh]
    exact ⟨i.deadline, rfl, h.deadline ▸ (h.timely.offer hfresh).validate⟩

theorem Facing.acceptsReply (h : Facing c i r) (K : Crates) :
    (i.afterOffer K).AcceptsReply c.replyCheckedAt
      (r.replyMessage K c.replySentAt c.replyNonce (i.offerMessage K)) where
  state := rfl
  sessionId := by
    rw [r.replyMessage_sessionId]
    exact h.sessionId
  fresh := by
    intro hi hfresh
    rw [r.replyMessage_hasFreshness] at hfresh
    have hr := (Bool.and_eq_true_iff.mp hfresh).1
    rw [r.replyMessage_fresh hfresh, i.offerMessage_fresh hi]
    exact ⟨rfl, _, rfl, (h.timely.reply hi hr).validate⟩
  count := by simp [InitiatorSession.ourCount, InitiatorSession.afterOffer]

theorem Facing.acceptsReveal (h : Facing c i r) (K : Crates) :
    (afterOfferTaken K i r).AcceptsReveal c.revealCheckedAt
      ((afterReplyTaken K c i r).revealMessage K c.revealSentAt c.revealNonce
        (Session.maskIds K r.secret r.originalIds)) where
  state := rfl
  sessionId := by
    rw [InitiatorSession.revealMessage_sessionId]
    exact h.sessionId.symm
  fresh := by
    intro hr hfresh
    rw [InitiatorSession.revealMessage_hasFreshness] at hfresh
    have hi : i.config.useFreshness = true := hfresh
    have hv2 : r.usesV2 (i.offerMessage K) = true := by
      rw [ResponderSession.usesV2, i.offerMessage_hasFreshness, hi]
      exact Bool.and_eq_true_iff.mpr ⟨hr, rfl⟩
    have hsees : (i.afterOffer K).seesFreshness
        (r.replyMessage K c.replySentAt c.replyNonce (i.offerMessage K)) = true := by
      rw [InitiatorSession.seesFreshness, r.replyMessage_hasFreshness]
      exact Bool.and_eq_true_iff.mpr ⟨hi, hv2⟩
    have hnonce : (afterReplyTaken K c i r).responderNonce = some r.nonce := by
      refine (if_pos hsees).trans ?_
      rw [r.replyMessage_fresh hv2]
      rfl
    rw [InitiatorSession.revealMessage_fresh hfresh, hnonce]
    exact ⟨rfl, _, rfl, (h.timely.reveal hi).validate⟩
  count := by
    rw [InitiatorSession.revealMessage_responderDoublyMasked, Session.length_maskReceived]
    rfl

/-- The messages and results of an honest exchange: each side compares the two
doubly masked lists. -/
def honestOutcome (K : Crates) (c : ExchangeReadings) (i : InitiatorSession)
    (r : ResponderSession) : ExchangeOutcome where
  offer := i.offerMessage K
  reply := r.replyMessage K c.replySentAt c.replyNonce (i.offerMessage K)
  initiatorResult := intersectMasked K
    (Session.maskReceived K r.secret (Session.maskIds K i.secret i.originalIds))
    (Session.maskReceived K i.secret (Session.maskIds K r.secret r.originalIds))
    i.originalIds i.mode
  reveal := (afterReplyTaken K c i r).revealMessage K c.revealSentAt c.revealNonce
    (Session.maskIds K r.secret r.originalIds)
  responderResult := intersectMasked K
    (Session.maskReceived K i.secret (Session.maskIds K r.secret r.originalIds))
    (Session.maskReceived K r.secret (Session.maskIds K i.secret i.originalIds))
    r.originalIds r.mode

/-- An honest exchange succeeds at every step. -/
theorem Facing.exchange_eq (h : Facing c i r) (K : Crates) :
    exchange K c i r = .ok (honestOutcome K c i r) := by
  have hoffer : i.generateOffer K = ⟨.ok (i.offerMessage K), i.afterOffer K⟩ := by
    simp [InitiatorSession.generateOffer, h.initiator]
  have hreply : r.processOfferAndReply K c.offerCheckedAt c.replySentAt c.replyNonce
      (i.offerMessage K) = ⟨.ok (honestOutcome K c i r).reply, afterOfferTaken K i r⟩ :=
    ResponderSession.processOfferAndReply_of_accepts (h.acceptsOffer K)
  have hresult : (i.afterOffer K).processReply K c.replyCheckedAt
      (honestOutcome K c i r).reply =
      ⟨.ok (honestOutcome K c i r).initiatorResult, afterReplyTaken K c i r⟩ := by
    refine (InitiatorSession.processReply_of_accepts (h.acceptsReply K)).trans ?_
    simp only [InitiatorSession.replyResult, r.replyMessage_initiatorDoublyMasked,
      r.replyMessage_responderMasked, i.offerMessage_maskedElements]
    rfl
  have hreveal : (afterReplyTaken K c i r).generateReveal K c.revealSentAt c.revealNonce =
      .ok (honestOutcome K c i r).reveal :=
    InitiatorSession.generateReveal_eq_ok_iff.mpr
      ⟨rfl, _, congrArg some (r.replyMessage_responderMasked ..), rfl⟩
  have hrevealed : (afterOfferTaken K i r).processReveal K c.revealCheckedAt
      (honestOutcome K c i r).reveal =
      ⟨.ok (honestOutcome K c i r).responderResult, (afterOfferTaken K i r).completed⟩ := by
    refine (ResponderSession.processReveal_of_accepts (h.acceptsReveal K) rfl).trans ?_
    simp only [ResponderSession.revealResult, InitiatorSession.revealMessage_responderDoublyMasked,
      i.offerMessage_maskedElements]
    rfl
  simp only [exchange, hoffer, hreply, hresult, hreveal, hrevealed, Except.ok_bind,
    Except.pure_eq_ok]
  rfl

end Run

end BlindOverlap
