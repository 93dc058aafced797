import BlindOverlap.Correctness
import BlindOverlap.Incoming

/-!
# Signed exchanges

Two sessions, each bound to a peer, exchange envelopes that travel as text. The exchange is
the plain one between sessions that have noted each other's signer, as long as each is bound
to the key that the other signs with.
-/
namespace BlindOverlap

/-! ## Opening a bound session -/

/-- One side of a signed exchange. -/
structure Member where
  identity : PartyIdentity
  factSet : FactSet
  mode : IntersectionMode
  drawn : Drawn

namespace Member

def key (m : Member) (K : Crates) : PublicIdentity := m.identity.publicIdentity K

def party (m : Member) : Party :=
  ⟨m.factSet, m.mode, .withIdentityBinding defaultTtlSecs, m.drawn⟩

end Member

/-- What a session gets its peer from. -/
inductive Opening where
  | withPeer (sessionId : String) (key : PublicIdentity)
  | fromInvite (verifiedAt matchedAt : UInt64) (ticket : InviteTicket)
  | fromLease (verifiedAt : UInt64) (lease : SessionLease)

namespace Opening

def sessionId : Opening → String
  | .withPeer sessionId _ => sessionId
  | .fromInvite _ _ ticket => ticket.sessionId
  | .fromLease _ lease => lease.sessionId

def boundTo : Opening → PublicIdentity
  | .withPeer _ key => key
  | .fromInvite _ _ ticket => ticket.issuerPubkey
  | .fromLease _ lease => lease.issuerPubkey

def initiator (K : Crates) (now : UInt64) (m : Member) :
    Opening → Except SessionError InitiatorSession
  | .withPeer sessionId key =>
    InitiatorSession.withChannelBinding K now m.drawn sessionId m.factSet m.mode m.identity key
  | .fromInvite verifiedAt _ ticket =>
    InitiatorSession.fromInvite K verifiedAt now m.drawn ticket m.factSet m.mode m.identity
  | .fromLease verifiedAt lease =>
    InitiatorSession.fromLease K verifiedAt now m.drawn lease m.factSet m.mode m.identity

def responder (K : Crates) (m : Member) : Opening → Except SessionError ResponderSession
  | .withPeer sessionId key =>
    ResponderSession.withChannelBinding K m.drawn sessionId m.factSet m.mode m.identity key
  | .fromInvite verifiedAt matchedAt ticket =>
    ResponderSession.fromInvite K verifiedAt matchedAt m.drawn ticket m.factSet m.mode m.identity
  | .fromLease verifiedAt lease =>
    ResponderSession.fromLease K verifiedAt m.drawn lease m.factSet m.mode m.identity

/-- The session that an initiator opens, if it opens one. -/
def initiatorSession (K : Crates) (c : ExchangeReadings) (m : Member) (x : Opening) :
    InitiatorSession :=
  { m.party.initiator c x.sessionId with channelBinding := some ⟨m.key K, x.boundTo⟩ }

def responderSession (K : Crates) (m : Member) (x : Opening) : ResponderSession :=
  { m.party.responder x.sessionId with channelBinding := some ⟨m.key K, x.boundTo⟩ }

variable {K : Crates} {m : Member} {x : Opening}

theorem initiator_eq {c : ExchangeReadings} {i : InitiatorSession}
    (h : x.initiator K c.createdAt m = .ok i) : i = x.initiatorSession K c m := by
  have hbound : InitiatorSession.withChannelBinding K c.createdAt m.drawn x.sessionId m.factSet
      m.mode m.identity x.boundTo = .ok i := by
    cases x with
    | withPeer sessionId key => exact h
    | fromInvite verifiedAt _ ticket => exact InitiatorSession.withChannelBinding_of_fromInvite h
    | fromLease verifiedAt lease => exact InitiatorSession.withChannelBinding_of_fromLease h
  exact (InitiatorSession.withChannelBinding_eq_ok_iff.mp hbound).2

theorem responder_eq {r : ResponderSession} (h : x.responder K m = .ok r) :
    r = x.responderSession K m := by
  have hbound : ResponderSession.withChannelBinding K m.drawn x.sessionId m.factSet m.mode
      m.identity x.boundTo = .ok r := by
    cases x with
    | withPeer sessionId key => exact h
    | fromInvite verifiedAt matchedAt ticket =>
      exact ResponderSession.withChannelBinding_of_fromInvite h
    | fromLease verifiedAt lease => exact ResponderSession.withChannelBinding_of_fromLease h
  exact (ResponderSession.withChannelBinding_eq_ok_iff.mp hbound).2

end Opening

/-! ## The calls -/

inductive SignedExchangeError where
  | session (e : SessionError)
  | wire (e : WireError)

structure SignedOutcome where
  initiatorResult : PsiResult
  responderResult : PsiResult
  initiator : InitiatorSession
  responder : ResponderSession

/-- The envelope that arrives when one is sent as text. -/
def carried (K : Crates) (envelope : SignedWireMessage) :
    Except SignedExchangeError SignedWireMessage :=
  (decodeSigned K (encodeSigned K envelope)).mapError .wire

/-- The calls of an exchange between two sessions whose owners sign every message. -/
def signedExchange (K : Crates) (c : ExchangeReadings) (a b : PartyIdentity)
    (i : InitiatorSession) (r : ResponderSession) : Except SignedExchangeError SignedOutcome := do
  let offered := i.generateOfferSigned K a
  let offer ← offered.output.mapError .session
  let offer ← carried K offer
  let replied :=
    r.processOfferAndReplySigned K c.offerCheckedAt c.replySentAt c.replyNonce b offer
  let reply ← replied.output.mapError .session
  let reply ← carried K reply
  let completed := offered.next.processReplySigned K c.replyCheckedAt reply
  let initiatorResult ← completed.output.mapError .session
  let reveal ← (completed.next.generateRevealSigned K c.revealSentAt c.revealNonce a).mapError
    .session
  let reveal ← carried K reveal
  let revealed := replied.next.processRevealSigned K c.revealCheckedAt reveal
  let responderResult ← revealed.output.mapError .session
  return ⟨initiatorResult, responderResult, completed.next, revealed.next⟩

theorem carried_sign {K : Crates} (hK : K.ParsesCompact) {p : PartyIdentity} (hp : p.Proper K)
    {m : WireMessage} (hm : m.validate = .ok ()) :
    carried K (.sign K m p) = .ok (.sign K m p) := by
  rw [carried, decodeSigned_encodeSigned hK hm (SignedWireMessage.verifySignature_sign hp m)]
  rfl

/-! ## Exchanges that end -/

section Run
variable {K : Crates} {c : ExchangeReadings} {i : InitiatorSession} {r : ResponderSession}
  {a b : PartyIdentity} {ownA ownB : PublicIdentity}

/-- What noting a signer changes has no part in an exchange. -/
theorem Facing.verified (h : Facing c i r) (peerA peerB : PublicIdentity) :
    Facing c (i.verified peerA) (r.verified peerB) :=
  ⟨h.initiator, h.responder, h.sessionId, h.deadline, h.timely⟩

/-- A signed exchange reports what the plain exchange does, and leaves two complete sessions
that know each other's signer. -/
theorem Facing.signedExchange_eq (h : Facing c i r) (hK : K.ParsesCompact) (ha : a.Proper K)
    (hb : b.Proper K) (hi : i.channelBinding = some ⟨ownA, b.publicIdentity K⟩)
    (hr : r.channelBinding = some ⟨ownB, a.publicIdentity K⟩) :
    signedExchange K c a b i r = .ok
      ⟨(honestOutcome K c i r).initiatorResult, (honestOutcome K c i r).responderResult,
        afterReplyTaken K c (i.verified (b.publicIdentity K)) r,
        (afterOfferTaken K i (r.verified (a.publicIdentity K))).completed⟩ := by
  have hv := h.verified (b.publicIdentity K) (a.publicIdentity K)
  have hoffer : i.generateOfferSigned K a =
      ⟨.ok (.sign K (.offer (i.offerMessage K)) a), i.afterOffer K⟩ := by
    simp [InitiatorSession.generateOfferSigned, InitiatorSession.generateOffer, h.initiator,
      Step.mapOk, Except.map]
  have hofferText : carried K (.sign K (.offer (i.offerMessage K)) a) = .ok _ :=
    carried_sign hK ha (i.offerMessage_validate K)
  have hreply : r.processOfferAndReplySigned K c.offerCheckedAt c.replySentAt c.replyNonce b
      (.sign K (.offer (i.offerMessage K)) a) =
      ⟨.ok (.sign K (.reply (honestOutcome K c i r).reply) b),
        afterOfferTaken K i (r.verified (a.publicIdentity K))⟩ := by
    rw [ResponderSession.processOfferAndReplySigned_sign ha hr]
    exact congrArg _ (ResponderSession.processOfferAndReply_of_accepts (hv.acceptsOffer K))
  have hreplyText : carried K (.sign K (.reply (honestOutcome K c i r).reply) b) = .ok _ :=
    carried_sign hK hb (r.replyMessage_validate ..)
  have hresult : (i.afterOffer K).processReplySigned K c.replyCheckedAt
      (.sign K (.reply (honestOutcome K c i r).reply) b) =
      ⟨.ok (honestOutcome K c i r).initiatorResult,
        afterReplyTaken K c (i.verified (b.publicIdentity K)) r⟩ := by
    rw [InitiatorSession.processReplySigned_sign (s := i.afterOffer K) hb hi]
    refine (InitiatorSession.processReply_of_accepts (hv.acceptsReply K)).trans ?_
    simp only [InitiatorSession.replyResult, ResponderSession.replyMessage_initiatorDoublyMasked,
      ResponderSession.replyMessage_responderMasked, InitiatorSession.offerMessage_maskedElements]
    rfl
  have hreveal : (afterReplyTaken K c (i.verified (b.publicIdentity K)) r).generateRevealSigned K
      c.revealSentAt c.revealNonce a =
        .ok (.sign K (.reveal (honestOutcome K c i r).reveal) a) := by
    have hplain : (afterReplyTaken K c (i.verified (b.publicIdentity K)) r).generateReveal K
        c.revealSentAt c.revealNonce = .ok (honestOutcome K c i r).reveal :=
      InitiatorSession.generateReveal_eq_ok_iff.mpr
        ⟨rfl, _, congrArg some (r.replyMessage_responderMasked ..), rfl⟩
    simp only [InitiatorSession.generateRevealSigned, hplain]
    rfl
  have hrevealText : carried K (.sign K (.reveal (honestOutcome K c i r).reveal) a) = .ok _ :=
    carried_sign hK ha (InitiatorSession.revealMessage_validate ..)
  have hrevealed : (afterOfferTaken K i (r.verified (a.publicIdentity K))).processRevealSigned K
      c.revealCheckedAt (.sign K (.reveal (honestOutcome K c i r).reveal) a) =
      ⟨.ok (honestOutcome K c i r).responderResult,
        (afterOfferTaken K i (r.verified (a.publicIdentity K))).completed⟩ := by
    rw [ResponderSession.processRevealSigned_sign
      (s := afterOfferTaken K i (r.verified (a.publicIdentity K))) ha hr]
    refine (ResponderSession.processReveal_of_accepts (hv.acceptsReveal K) rfl).trans ?_
    simp only [ResponderSession.revealResult, InitiatorSession.revealMessage_responderDoublyMasked,
      InitiatorSession.offerMessage_maskedElements]
    rfl
  simp only [signedExchange, hoffer, hofferText, hreply, hreplyText, hresult, hreveal, hrevealText,
    hrevealed, Except.mapError_ok, Except.ok_bind, Except.pure_eq_ok]

/-- An exchange that ends was between sessions that have the same identifier, each bound to
the key that the other side signs with. -/
theorem signedExchange_binds (hK : K.ParsesCompact) (ha : a.Proper K) (hb : b.Proper K)
    {peerA peerB : PublicIdentity} (hi : i.channelBinding = some ⟨ownA, peerA⟩)
    (hr : r.channelBinding = some ⟨ownB, peerB⟩) {o : SignedOutcome}
    (h : signedExchange K c a b i r = .ok o) :
    i.sessionId = r.sessionId ∧ peerA = b.publicIdentity K ∧ peerB = a.publicIdentity K := by
  simp only [signedExchange, Except.bind_eq_ok_iff, Except.mapError_eq_ok_iff] at h
  obtain ⟨offer, hoffer, carriedOffer, hofferText, reply, hreply, carriedReply, hreplyText, result,
    hresult, -⟩ := h
  obtain ⟨-, he⟩ | ⟨-, he⟩ := InitiatorSession.generateOffer_cases K i
  · simp [InitiatorSession.generateOfferSigned, he, Step.mapOk, Except.map] at hoffer
  have hoffered : i.generateOfferSigned K a =
      ⟨.ok (.sign K (.offer (i.offerMessage K)) a), i.afterOffer K⟩ := by
    simp [InitiatorSession.generateOfferSigned, he, Step.mapOk, Except.map]
  rw [hoffered] at hoffer hresult
  obtain rfl := Except.ok.inj hoffer
  rw [carried_sign hK ha (m := .offer _) (i.offerMessage_validate K)] at hofferText
  obtain rfl := Except.ok.inj hofferText
  -- the responder takes the offer only from its peer, and for its own session
  obtain ⟨e, -, he⟩ | ⟨-, -, he⟩ | ⟨hsigner, m, hm, he⟩ :=
    ResponderSession.processOfferAndReplySigned_cases K c.offerCheckedAt c.replySentAt
      c.replyNonce b r (.sign K (.offer (i.offerMessage K)) a)
  · rw [he] at hreply
    cases hreply
  · rw [he] at hreply
    cases hreply
  obtain rfl := WireMessage.offer.inj hm
  have hpeerB : peerB = a.publicIdentity K := by
    rw [hr] at hsigner
    exact (Session.checkSigner_sign ha).mp hsigner
  rw [he] at hreply
  obtain ⟨e, -, hp⟩ | ⟨haccepts, hp⟩ := ResponderSession.processOfferAndReply_cases K
    c.offerCheckedAt c.replySentAt c.replyNonce
    (r.noteSigner (.sign K (.offer (i.offerMessage K)) a)) (i.offerMessage K)
  · rw [hp] at hreply
    cases hreply
  have hsession : i.sessionId = r.sessionId :=
    (i.offerMessage_sessionId K).symm.trans haccepts.sessionId
  rw [hp] at hreply
  obtain rfl := Except.ok.inj hreply
  rw [carried_sign hK hb (m := .reply _) (ResponderSession.replyMessage_validate ..)] at hreplyText
  obtain rfl := Except.ok.inj hreplyText
  -- and the initiator takes the reply only from its own peer
  refine ⟨hsession, ?_, hpeerB⟩
  have hbound : (i.afterOffer K).channelBinding = some ⟨ownA, peerA⟩ := hi
  obtain ⟨e, -, he⟩ | ⟨hsigner, -⟩ | ⟨hsigner, -⟩ :=
    InitiatorSession.processReplySigned_cases K c.replyCheckedAt (i.afterOffer K)
      (.sign K (.reply _) b)
  · rw [he] at hresult
    cases hresult
  · rw [hbound] at hsigner
    exact (Session.checkSigner_sign hb).mp hsigner
  · rw [hbound] at hsigner
    exact (Session.checkSigner_sign hb).mp hsigner

end Run

/-- Two members with bound sessions, however opened, finish a signed exchange exactly if the
sessions have one identifier and each is bound to the other member. Then both report the
identifiers that their sets have in common, and each has verified the other. -/
theorem signed_exchange_iff {K : Crates} (hK : K.ParsesCompact) (c : ExchangeReadings)
    {alice bob : Member} (ha : alice.identity.Proper K) (hb : bob.identity.Proper K)
    {x y : Opening} {i : InitiatorSession} {r : ResponderSession}
    (hi : x.initiator K c.createdAt alice = .ok i) (hr : y.responder K bob = .ok r)
    (ht : Timely c alice.party.config bob.party.config)
    (hm : MasksLawfully K alice.drawn.secret bob.drawn.secret alice.factSet bob.factSet)
    (hhash : Set.InjOn (Session.hashToPublicKey K)
      {z | z ∈ alice.factSet.ids ∨ z ∈ bob.factSet.ids}) :
    ((∃ o, signedExchange K c alice.identity bob.identity i r = .ok o) ↔
      x.sessionId = y.sessionId ∧ x.boundTo = bob.key K ∧ y.boundTo = alice.key K) ∧
    ∀ o, signedExchange K c alice.identity bob.identity i r = .ok o →
      o.initiatorResult = .ofSet K (alice.factSet.ids.inter bob.factSet.ids) alice.mode ∧
      o.responderResult = .ofSet K (alice.factSet.ids.inter bob.factSet.ids) bob.mode ∧
      o.initiator.state = .complete ∧ o.initiator.verifiedPeer = some (bob.key K) ∧
      o.responder.state = .complete ∧ o.responder.verifiedPeer = some (alice.key K) := by
  obtain rfl := Opening.initiator_eq hi
  obtain rfl := Opening.responder_eq hr
  have hends : x.sessionId = y.sessionId → x.boundTo = bob.key K → y.boundTo = alice.key K →
      ∃ o, signedExchange K c alice.identity bob.identity
          (x.initiatorSession K c alice) (y.responderSession K bob) = .ok o ∧
        o.initiatorResult = .ofSet K (alice.factSet.ids.inter bob.factSet.ids) alice.mode ∧
        o.responderResult = .ofSet K (alice.factSet.ids.inter bob.factSet.ids) bob.mode ∧
        o.initiator.state = .complete ∧ o.initiator.verifiedPeer = some (bob.key K) ∧
        o.responder.state = .complete ∧ o.responder.verifiedPeer = some (alice.key K) := by
    intro hsession hpeerA hpeerB
    have hf : Facing c (x.initiatorSession K c alice) (y.responderSession K bob) :=
      ⟨rfl, rfl, hsession.symm, rfl, ht⟩
    have hi : (x.initiatorSession K c alice).channelBinding = some ⟨alice.key K, bob.key K⟩ := by
      simp only [Opening.initiatorSession, hpeerA]
    have hr : (y.responderSession K bob).channelBinding = some ⟨bob.key K, alice.key K⟩ := by
      simp only [Opening.responderSession, hpeerB]
    obtain ⟨hab, hba⟩ := alike_eq_common hhash
    have hinitiator := initiator_intersectMasked hm alice.mode
    have hresponder := responder_intersectMasked hm bob.mode
    rw [hab] at hinitiator
    rw [hba] at hresponder
    exact ⟨_, hf.signedExchange_eq hK ha hb hi hr, hinitiator, hresponder, rfl, rfl, rfl, rfl⟩
  have hbinds : ∀ o, signedExchange K c alice.identity bob.identity
          (x.initiatorSession K c alice) (y.responderSession K bob) = .ok o →
      x.sessionId = y.sessionId ∧ x.boundTo = bob.key K ∧ y.boundTo = alice.key K :=
    fun o ho => signedExchange_binds hK ha hb rfl rfl ho
  constructor
  · constructor
    · rintro ⟨o, ho⟩
      exact hbinds o ho
    · rintro ⟨hsession, hpeerA, hpeerB⟩
      obtain ⟨o, ho, -⟩ := hends hsession hpeerA hpeerB
      exact ⟨o, ho⟩
  · intro o ho
    obtain ⟨hsession, hpeerA, hpeerB⟩ := hbinds o ho
    obtain ⟨o', ho', houtcome⟩ := hends hsession hpeerA hpeerB
    obtain rfl := Except.ok.inj (ho.symm.trans ho')
    exact houtcome

def sampleAlice : Member :=
  ⟨sampleIdentityA, samplePartyA.factSet, samplePartyA.mode, samplePartyA.drawn⟩

def sampleBob : Member :=
  ⟨sampleIdentityB, samplePartyB.factSet, samplePartyB.mode, samplePartyB.drawn⟩

/-- A ticket of the second member for the first. -/
def sampleTicket : InviteTicket :=
  .issue .reference 990 sampleIdentityB "sample" (some (sampleAlice.key .reference)) .any 300

theorem sampleTicket_opens :
    Opening.initiator .reference sampleReadings.createdAt sampleAlice
      (.fromInvite 995 995 sampleTicket) =
        .ok ((Opening.fromInvite 995 995 sampleTicket).initiatorSession .reference sampleReadings
          sampleAlice) := by
  have hverify : sampleTicket.verifyForSession .reference 995 sampleTicket.sessionId
      samplePartyA.mode = .ok () :=
    InviteTicket.verifyForSession_eq_ok_iff.mpr
      ⟨InviteTicket.verify_eq_ok_iff.mpr
        ⟨(Crates.reference_proper _).verify_sign _, by decide, by decide⟩, rfl, rfl⟩
  have hlen : samplePartyA.factSet.len ≤ maxSetSize := by decide +kernel
  change InitiatorSession.fromInvite .reference 995 sampleReadings.createdAt samplePartyA.drawn
    sampleTicket samplePartyA.factSet samplePartyA.mode sampleIdentityA = _
  simp only [InitiatorSession.fromInvite, hverify]
  exact InitiatorSession.withChannelBinding_eq_ok_iff.mpr ⟨hlen, rfl⟩

theorem signed_exchange_iff_sample :
    ∃ o, signedExchange .reference sampleReadings sampleIdentityA sampleIdentityB
        ((Opening.fromInvite 995 995 sampleTicket).initiatorSession .reference sampleReadings
          sampleAlice)
        ((Opening.withPeer "sample" (sampleAlice.key .reference)).responderSession .reference
          sampleBob) = .ok o ∧
      o.initiatorResult =
        .ofSet .reference (sampleAlice.factSet.ids.inter sampleBob.factSet.ids) .intersection ∧
      o.responderResult =
        .ofSet .reference (sampleAlice.factSet.ids.inter sampleBob.factSet.ids) .cardinality := by
  have hlen : samplePartyB.factSet.len ≤ maxSetSize := by decide +kernel
  have hr : Opening.responder .reference sampleBob
      (.withPeer "sample" (sampleAlice.key .reference)) = .ok _ :=
    ResponderSession.withChannelBinding_eq_ok_iff.mpr ⟨hlen, rfl⟩
  have ht : Timely sampleReadings sampleAlice.party.config sampleBob.party.config :=
    ⟨fun _ => ⟨by decide, by decide⟩, fun _ _ => ⟨by decide, by decide⟩,
      fun _ => ⟨by decide, by decide⟩⟩
  obtain ⟨hends, hresults⟩ := signed_exchange_iff Crates.reference_parsesCompact sampleReadings
    (Crates.reference_proper _) (Crates.reference_proper _) sampleTicket_opens hr ht sample_lawful
    sample_injOn
  obtain ⟨o, ho⟩ := hends.mpr ⟨rfl, rfl, rfl⟩
  obtain ⟨hinitiator, hresponder, -⟩ := hresults o ho
  exact ⟨o, ho, hinitiator, hresponder⟩

end BlindOverlap
