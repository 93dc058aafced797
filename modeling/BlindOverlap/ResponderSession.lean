import BlindOverlap.Session

/-!
# The responder's session

The party that answers an offer and may later receive a reveal.
-/
namespace BlindOverlap

/-- How far the responder has come: nothing done, offer answered, reveal taken. -/
inductive ResponderState where
  | created
  | replySent
  | complete
  deriving DecidableEq

/-- All that the responder keeps. It has no deadline of its own: it dates its reply when it
sends it. -/
structure ResponderSession where
  sessionId : String
  secret : StaticSecret
  factSet : FactSet
  originalIds : List FactId
  mode : IntersectionMode
  state : ResponderState
  config : SessionConfig
  nonce : SessionNonce
  initiatorNonce : Option SessionNonce
  maskedElements : Option (List MaskedElement)
  initiatorDoublyMasked : Option (List MaskedElement)
  channelBinding : Option ChannelBinding
  verifiedPeer : Option PublicIdentity
  deriving DecidableEq

/-- The names that errors give the states. -/
def responderStateName : ResponderState → String
  | .created => "Created"
  | .replySent => "ReplySent"
  | .complete => "Complete"

namespace ResponderSession

/-! ## Constructors -/

/-- A session before its first operation. -/
def created (drawn : Drawn) (sessionId : String) (factSet : FactSet) (mode : IntersectionMode)
    (config : SessionConfig) : ResponderSession where
  sessionId := sessionId
  secret := drawn.secret
  factSet := factSet
  originalIds := factSet.idList
  mode := mode
  state := .created
  config := config
  nonce := drawn.nonce
  initiatorNonce := none
  maskedElements := none
  initiatorDoublyMasked := none
  channelBinding := none
  verifiedPeer := none

/-- The same bound on the set as for the initiator. -/
def withConfig (drawn : Drawn) (sessionId : String) (factSet : FactSet) (mode : IntersectionMode)
    (config : SessionConfig) : Except SessionError ResponderSession :=
  if factSet.len > maxSetSize then .error (.setTooLarge factSet.len)
  else .ok (created drawn sessionId factSet mode config)

theorem withConfig_eq_ok_iff {drawn : Drawn} {sessionId : String}
    {factSet : FactSet} {mode : IntersectionMode} {config : SessionConfig} {s : ResponderSession} :
    withConfig drawn sessionId factSet mode config = .ok s ↔
      factSet.len ≤ maxSetSize ∧ s = created drawn sessionId factSet mode config := by
  unfold withConfig
  split_ifs with h
  · simp [not_le.mpr h]
  · simp [not_lt.mp h, eq_comm]

/-- With the derived default, as on the other side. -/
def new (drawn : Drawn) (sessionId : String) (factSet : FactSet) (mode : IntersectionMode) :
    Except SessionError ResponderSession :=
  withConfig drawn sessionId factSet mode .default

/-- A session that is bound to one peer and requires signatures. -/
def withChannelBinding (K : Crates) (drawn : Drawn) (sessionId : String) (factSet : FactSet)
    (mode : IntersectionMode) (localIdentity : PartyIdentity) (expectedPeer : PublicIdentity) :
    Except SessionError ResponderSession := do
  let config := SessionConfig.withIdentityBinding defaultTtlSecs
  let session ← withConfig drawn sessionId factSet mode config
  return { session with channelBinding := some ⟨localIdentity.publicIdentity K, expectedPeer⟩ }

/-- Both checks of the ticket read the clock. -/
def fromInvite (K : Crates) (verifiedAt matchedAt : UInt64) (drawn : Drawn) (ticket : InviteTicket)
    (factSet : FactSet) (mode : IntersectionMode) (localIdentity : PartyIdentity) :
    Except SessionError ResponderSession :=
  match ticket.verifyForSession K verifiedAt ticket.sessionId mode with
  | .error e => .error (.invite e)
  | .ok () =>
    match ticket.verifyForPeer K matchedAt (localIdentity.publicIdentity K) with
    | .error e => .error (.invite e)
    | .ok () =>
      withChannelBinding K drawn ticket.sessionId factSet mode localIdentity ticket.issuerPubkey

/-- The lease must name the local identity as its peer. -/
def fromLease (K : Crates) (verifiedAt : UInt64) (drawn : Drawn) (lease : SessionLease)
    (factSet : FactSet) (mode : IntersectionMode) (localIdentity : PartyIdentity) :
    Except SessionError ResponderSession :=
  match lease.verifyForPeer K verifiedAt (localIdentity.publicIdentity K) with
  | .error e => .error (.lease e)
  | .ok () =>
    withChannelBinding K drawn lease.sessionId factSet mode localIdentity lease.issuerPubkey

section Bound
variable {K : Crates} {verifiedAt matchedAt : UInt64} {drawn : Drawn} {factSet : FactSet}
  {mode : IntersectionMode} {localIdentity : PartyIdentity} {s : ResponderSession}

theorem withChannelBinding_eq_ok_iff {sessionId : String} {expectedPeer : PublicIdentity} :
    withChannelBinding K drawn sessionId factSet mode localIdentity expectedPeer = .ok s ↔
      factSet.len ≤ maxSetSize ∧
        s = { created drawn sessionId factSet mode (.withIdentityBinding defaultTtlSecs) with
          channelBinding := some ⟨localIdentity.publicIdentity K, expectedPeer⟩ } := by
  simp only [withChannelBinding, Except.bind_eq_ok_iff, withConfig_eq_ok_iff, Except.pure_eq_ok,
    Except.ok.injEq]
  constructor
  · rintro ⟨s', ⟨hlen, rfl⟩, rfl⟩
    exact ⟨hlen, rfl⟩
  · rintro ⟨hlen, rfl⟩
    exact ⟨_, ⟨hlen, rfl⟩, rfl⟩

theorem withChannelBinding_of_fromInvite {ticket : InviteTicket}
    (h : fromInvite K verifiedAt matchedAt drawn ticket factSet mode localIdentity = .ok s) :
    withChannelBinding K drawn ticket.sessionId factSet mode localIdentity
      ticket.issuerPubkey = .ok s := by
  unfold fromInvite at h
  split at h
  · cases h
  · split at h
    · cases h
    · exact h

theorem withChannelBinding_of_fromLease {lease : SessionLease}
    (h : fromLease K verifiedAt drawn lease factSet mode localIdentity = .ok s) :
    withChannelBinding K drawn lease.sessionId factSet mode localIdentity lease.issuerPubkey =
      .ok s := by
  unfold fromLease at h
  split at h
  · cases h
  · exact h

end Bound

/-- A session of version 1 with a given secret. -/
def withSecret (nonce : SessionNonce) (sessionId : String) (factSet : FactSet)
    (mode : IntersectionMode) (secret : StaticSecret) : Except SessionError ResponderSession :=
  if factSet.len > maxSetSize then .error (.setTooLarge factSet.len)
  else .ok (created ⟨secret, nonce⟩ sessionId factSet mode .v1Compatible)

/-! ## Operations -/

/-- Whether an offer is answered with freshness fields. -/
def usesV2 (s : ResponderSession) (offer : MaskedSetOffer) : Bool :=
  s.config.useFreshness && offer.hasFreshness

/-- There is no nonce to be echoed yet, so only the deadline is looked at. -/
def checkOffer (now : UInt64) (s : ResponderSession) (offer : MaskedSetOffer) :
    Except SessionError Unit :=
  if s.state ≠ .created then .error (.invalidState "Created" (responderStateName s.state))
  else if offer.sessionId ≠ s.sessionId then
    .error (.sessionIdMismatch s.sessionId offer.sessionId)
  else if s.usesV2 offer then Session.checkDeadline now offer.deadline
  else .ok ()

/-- The nonce of a fresh offer is stored. -/
def noteInitiatorNonce (s : ResponderSession) (offer : MaskedSetOffer) : ResponderSession :=
  { s with initiatorNonce := if s.usesV2 offer then offer.nonce else s.initiatorNonce }

/-- The reply follows the offer: it is fresh when the offer is, and the session uses freshness. -/
def replyMessage (K : Crates) (sentAt : UInt64) (drawn : SessionNonce) (s : ResponderSession)
    (offer : MaskedSetOffer) : MaskedSetReply :=
  let ourMasked := Session.maskIds K s.secret s.originalIds
  let initiatorDoublyMasked := Session.maskReceived K s.secret offer.maskedElements
  if s.usesV2 offer then
    .newV2 s.sessionId ourMasked initiatorDoublyMasked (offer.nonce.getD drawn) s.nonce
      (.new sentAt s.config.ttlSecs)
  else .new s.sessionId ourMasked initiatorDoublyMasked

@[simp] theorem replyMessage_sessionId (K : Crates) (sentAt : UInt64) (drawn : SessionNonce)
    (s : ResponderSession) (offer : MaskedSetOffer) :
    (s.replyMessage K sentAt drawn offer).sessionId = s.sessionId := by
  unfold replyMessage
  split_ifs <;> rfl

@[simp] theorem replyMessage_responderMasked (K : Crates) (sentAt : UInt64) (drawn : SessionNonce)
    (s : ResponderSession) (offer : MaskedSetOffer) :
    (s.replyMessage K sentAt drawn offer).responderMasked =
      Session.maskIds K s.secret s.originalIds := by
  unfold replyMessage
  split_ifs <;> rfl

@[simp] theorem replyMessage_initiatorDoublyMasked (K : Crates) (sentAt : UInt64)
    (drawn : SessionNonce) (s : ResponderSession) (offer : MaskedSetOffer) :
    (s.replyMessage K sentAt drawn offer).initiatorDoublyMasked =
      Session.maskReceived K s.secret offer.maskedElements := by
  unfold replyMessage
  split_ifs <;> rfl

@[simp] theorem replyMessage_hasFreshness (K : Crates) (sentAt : UInt64) (drawn : SessionNonce)
    (s : ResponderSession) (offer : MaskedSetOffer) :
    (s.replyMessage K sentAt drawn offer).hasFreshness = s.usesV2 offer := by
  unfold replyMessage
  split_ifs with h
  · rw [h]
    rfl
  · rw [Bool.eq_false_of_not_eq_true h]
    rfl

theorem replyMessage_validate (K : Crates) (sentAt : UInt64) (drawn : SessionNonce)
    (s : ResponderSession) (offer : MaskedSetOffer) :
    (s.replyMessage K sentAt drawn offer).validate = .ok () := by
  unfold replyMessage
  split_ifs
  · exact MaskedSetReply.validate_newV2 ..
  · exact MaskedSetReply.validate_new ..

theorem replyMessage_fresh {K : Crates} {sentAt : UInt64} {drawn : SessionNonce}
    {s : ResponderSession} {offer : MaskedSetOffer} (h : s.usesV2 offer = true) :
    s.replyMessage K sentAt drawn offer =
      .newV2 s.sessionId (Session.maskIds K s.secret s.originalIds)
        (Session.maskReceived K s.secret offer.maskedElements) (offer.nonce.getD drawn) s.nonce
        (.new sentAt s.config.ttlSecs) := by
  simp [replyMessage, h]

/-- The doubly masked elements are kept for the reveal. -/
def afterReply (K : Crates) (s : ResponderSession) (offer : MaskedSetOffer) : ResponderSession :=
  { s with
    maskedElements := some (Session.maskIds K s.secret s.originalIds)
    initiatorDoublyMasked := some (Session.maskReceived K s.secret offer.maskedElements)
    state := .replySent }

/-- The clock is read once to check the offer and once to date the reply. -/
def processOfferAndReply (K : Crates) (now sentAt : UInt64) (drawn : SessionNonce)
    (s : ResponderSession) (offer : MaskedSetOffer) :
    Step ResponderSession (Except SessionError MaskedSetReply) :=
  match s.checkOffer now offer with
  | .error e => ⟨.error e, s⟩
  | .ok () =>
    ⟨.ok (s.replyMessage K sentAt drawn offer), (s.noteInitiatorNonce offer).afterReply K offer⟩

/-- State, session and freshness, in this order, before the session is changed. -/
def checkReveal (now : UInt64) (s : ResponderSession) (reveal : IntersectionReveal) :
    Except SessionError Unit :=
  if s.state ≠ .replySent then .error (.invalidState "ReplySent" (responderStateName s.state))
  else if reveal.sessionId ≠ s.sessionId then
    .error (.sessionIdMismatch s.sessionId reveal.sessionId)
  else if s.config.useFreshness && reveal.hasFreshness then
    Session.checkEcho now s.nonce reveal.responderNonce reveal.deadline
  else .ok ()

/-- How many elements this side has sent. -/
def ourCount (s : ResponderSession) : ℕ := (s.maskedElements.map List.length).getD 0

/-- The revealed elements are compared with the initiator's, both under both secrets. -/
def revealResult (K : Crates) (s : ResponderSession) (reveal : IntersectionReveal)
    (initiatorDoublyMasked : List MaskedElement) : PsiResult :=
  intersectMasked K reveal.responderDoublyMasked initiatorDoublyMasked s.originalIds s.mode

def completed (s : ResponderSession) : ResponderSession := { s with state := .complete }

/-- A failed reveal changes nothing. -/
def processReveal (K : Crates) (now : UInt64) (s : ResponderSession)
    (reveal : IntersectionReveal) : Step ResponderSession (Except SessionError PsiResult) :=
  match s.checkReveal now reveal with
  | .error e => ⟨.error e, s⟩
  | .ok () =>
    if reveal.responderDoublyMasked.length ≠ s.ourCount then
      ⟨.error (.elementCountMismatch s.ourCount reveal.responderDoublyMasked.length), s⟩
    else
      match s.initiatorDoublyMasked with
      | none =>
        ⟨.error (.invalidState "ReplySent with initiator data"
          "missing initiator doubly masked"), s⟩
      | some initiatorDoublyMasked =>
        ⟨.ok (s.revealResult K reveal initiatorDoublyMasked), s.completed⟩

/-- A bound session remembers who signed its offer. -/
def noteSigner (s : ResponderSession) (signed : SignedWireMessage) : ResponderSession :=
  { s with
    verifiedPeer := if s.channelBinding.isSome then some signed.signerPubkey else s.verifiedPeer }

/-- The signer is remembered before the message is looked at, as on the other side. -/
def processOfferAndReplySigned (K : Crates) (now sentAt : UInt64) (drawn : SessionNonce)
    (identity : PartyIdentity) (s : ResponderSession) (signed : SignedWireMessage) :
    Step ResponderSession (Except SessionError SignedWireMessage) :=
  match Session.checkSigner K s.channelBinding s.config signed with
  | .error e => ⟨.error e, s⟩
  | .ok () =>
    match signed.message with
    | .offer offer =>
      ((s.noteSigner signed).processOfferAndReply K now sentAt drawn offer).mapOk
        (fun reply => .sign K (.reply reply) identity)
    | _ => ⟨.error (.invalidState "Offer message" "non-offer message type"), s.noteSigner signed⟩

/-- Unlike the other signed handlers, this one does not store the signer. -/
def processRevealSigned (K : Crates) (now : UInt64) (s : ResponderSession)
    (signed : SignedWireMessage) : Step ResponderSession (Except SessionError PsiResult) :=
  match Session.checkSigner K s.channelBinding s.config signed with
  | .error e => ⟨.error e, s⟩
  | .ok () =>
    match signed.message with
    | .reveal reveal => s.processReveal K now reveal
    | _ => ⟨.error (.invalidState "Reveal message" "non-reveal message type"), s⟩

/-! ## Messages of the bound peer -/

/-- The session after a message of the given peer has been verified. -/
def verified (s : ResponderSession) (peer : PublicIdentity) : ResponderSession :=
  { s with verifiedPeer := some peer }

/-- What the bound peer signs is answered like the bare offer, once the signer is noted. -/
theorem processOfferAndReplySigned_sign {K : Crates} {s : ResponderSession} {p : PartyIdentity}
    {own : PublicIdentity} (hp : p.Proper K)
    (hs : s.channelBinding = some ⟨own, p.publicIdentity K⟩) (now sentAt : UInt64)
    (drawn : SessionNonce) (identity : PartyIdentity) (offer : MaskedSetOffer) :
    s.processOfferAndReplySigned K now sentAt drawn identity (.sign K (.offer offer) p) =
      ((s.verified (p.publicIdentity K)).processOfferAndReply K now sentAt drawn offer).mapOk
        (fun reply => .sign K (.reply reply) identity) := by
  have hsigner : Session.checkSigner K s.channelBinding s.config (.sign K (.offer offer) p) =
      .ok () := by
    rw [hs, Session.checkSigner_sign hp]
  have hnoted : s.noteSigner (.sign K (.offer offer) p) = s.verified (p.publicIdentity K) := by
    simp [noteSigner, verified, hs, SignedWireMessage.sign]
  simp only [processOfferAndReplySigned, hsigner, ← hnoted]
  rfl

/-- What the bound peer signs is processed like the bare reveal. -/
theorem processRevealSigned_sign {K : Crates} {s : ResponderSession} {p : PartyIdentity}
    {own : PublicIdentity} (hp : p.Proper K)
    (hs : s.channelBinding = some ⟨own, p.publicIdentity K⟩) (now : UInt64)
    (reveal : IntersectionReveal) :
    s.processRevealSigned K now (.sign K (.reveal reveal) p) = s.processReveal K now reveal := by
  have hsigner : Session.checkSigner K s.channelBinding s.config (.sign K (.reveal reveal) p) =
      .ok () := by
    rw [hs, Session.checkSigner_sign hp]
  simp only [processRevealSigned, hsigner]
  rfl

end ResponderSession

/-! ## The session as a machine -/

/-- One operation, with the readings of the clock and the random values it uses. -/
inductive ResponderOp where
  | processOfferAndReply (now sentAt : UInt64) (drawn : SessionNonce) (offer : MaskedSetOffer)
  | processOfferAndReplySigned (now sentAt : UInt64) (drawn : SessionNonce)
      (identity : PartyIdentity) (signed : SignedWireMessage)
  | processReveal (now : UInt64) (reveal : IntersectionReveal)
  | processRevealSigned (now : UInt64) (signed : SignedWireMessage)

namespace ResponderSession

/-- Every public operation, as one call of a machine. -/
def machine (K : Crates) : Machine ResponderSession ResponderOp (Except SessionError SessionOutput)
  | s, .processOfferAndReply now sentAt drawn offer =>
    (s.processOfferAndReply K now sentAt drawn offer).mapOk .reply
  | s, .processOfferAndReplySigned now sentAt drawn identity signed =>
    (s.processOfferAndReplySigned K now sentAt drawn identity signed).mapOk .signed
  | s, .processReveal now reveal => (s.processReveal K now reveal).mapOk .result
  | s, .processRevealSigned now signed => (s.processRevealSigned K now signed).mapOk .result

/-! ## What the operations can do -/

/-- An offer that is answered. -/
structure AcceptsOffer (now : UInt64) (s : ResponderSession) (offer : MaskedSetOffer) : Prop where
  state : s.state = .created
  sessionId : offer.sessionId = s.sessionId
  fresh : s.config.useFreshness = true → offer.hasFreshness = true →
    ∃ d, offer.deadline = some d ∧ d.validate now = .ok ()

theorem checkOffer_eq_ok_iff {now : UInt64} {s : ResponderSession} {offer : MaskedSetOffer} :
    s.checkOffer now offer = .ok () ↔ s.AcceptsOffer now offer := by
  unfold checkOffer
  split_ifs with hstate hid hv2
  · exact ⟨by simp, fun h => absurd h.state hstate⟩
  · exact ⟨by simp, fun h => absurd h.sessionId hid⟩
  · obtain ⟨hfresh, hhas⟩ := Bool.and_eq_true_iff.mp hv2
    obtain ⟨-, d, hd⟩ := MaskedSetOffer.exists_of_hasFreshness hhas
    rw [Session.checkDeadline_eq_ok_iff, hd]
    constructor
    · intro hvalid
      exact ⟨not_not.mp hstate, not_not.mp hid, fun _ _ => ⟨d, hd, hvalid d rfl⟩⟩
    · intro h e he
      obtain ⟨d', hd', hvalid⟩ := h.fresh hfresh hhas
      cases hd.symm.trans hd'
      exact Option.mem_some.mp he ▸ hvalid
  · refine ⟨fun _ => ⟨not_not.mp hstate, not_not.mp hid, fun hfresh hhas => ?_⟩, fun _ => rfl⟩
    exact absurd (Bool.and_eq_true_iff.mpr ⟨hfresh, hhas⟩) hv2

theorem checkOffer_invalidState {now : UInt64} {s : ResponderSession} {offer : MaskedSetOffer}
    {expected actual : String}
    (h : s.checkOffer now offer = .error (.invalidState expected actual)) :
    actual = responderStateName s.state := by
  unfold checkOffer at h
  split_ifs at h
  · simp only [Except.error.injEq, SessionError.invalidState.injEq] at h
    exact h.2.symm
  · simp at h
  · exact absurd h (Session.checkDeadline_ne_invalidState expected actual)

theorem not_acceptsOffer_of_error {now : UInt64} {s : ResponderSession} {offer : MaskedSetOffer}
    {e : SessionError} (h : s.checkOffer now offer = .error e) : ¬ s.AcceptsOffer now offer := by
  intro hc
  simp [checkOffer_eq_ok_iff.mpr hc] at h

/-- An offer is refused without a trace, or answered. -/
theorem processOfferAndReply_cases (K : Crates) (now sentAt : UInt64) (drawn : SessionNonce)
    (s : ResponderSession) (offer : MaskedSetOffer) :
    (∃ e, s.checkOffer now offer = .error e ∧
      s.processOfferAndReply K now sentAt drawn offer = ⟨.error e, s⟩) ∨
    (s.AcceptsOffer now offer ∧
      s.processOfferAndReply K now sentAt drawn offer =
        ⟨.ok (s.replyMessage K sentAt drawn offer),
          (s.noteInitiatorNonce offer).afterReply K offer⟩) := by
  cases hc : s.checkOffer now offer with
  | error e => exact .inl ⟨e, rfl, by simp [processOfferAndReply, hc]⟩
  | ok u => exact .inr ⟨checkOffer_eq_ok_iff.mp hc, by simp [processOfferAndReply, hc]⟩

theorem processOfferAndReply_of_accepts {K : Crates} {now sentAt : UInt64} {drawn : SessionNonce}
    {s : ResponderSession} {offer : MaskedSetOffer} (h : s.AcceptsOffer now offer) :
    s.processOfferAndReply K now sentAt drawn offer =
      ⟨.ok (s.replyMessage K sentAt drawn offer),
        (s.noteInitiatorNonce offer).afterReply K offer⟩ := by
  obtain ⟨e, hc, -⟩ | ⟨-, he⟩ := processOfferAndReply_cases K now sentAt drawn s offer
  · exact absurd h (not_acceptsOffer_of_error hc)
  · exact he

/-- A reveal that passes every check before its elements are counted. -/
structure ChecksReveal (now : UInt64) (s : ResponderSession) (reveal : IntersectionReveal) :
    Prop where
  state : s.state = .replySent
  sessionId : reveal.sessionId = s.sessionId
  fresh : s.config.useFreshness = true → reveal.hasFreshness = true →
    reveal.responderNonce = some s.nonce ∧ ∃ d, reveal.deadline = some d ∧ d.validate now = .ok ()

/-- A reveal that completes the session, given what the initiator has sent. -/
structure AcceptsReveal (now : UInt64) (s : ResponderSession) (reveal : IntersectionReveal) : Prop
    extends ChecksReveal now s reveal where
  count : reveal.responderDoublyMasked.length = s.ourCount

theorem checkReveal_eq_ok_iff {now : UInt64} {s : ResponderSession} {reveal : IntersectionReveal} :
    s.checkReveal now reveal = .ok () ↔ s.ChecksReveal now reveal := by
  unfold checkReveal
  split_ifs with hstate hid hsees
  · exact ⟨by simp, fun h => absurd h.state hstate⟩
  · exact ⟨by simp, fun h => absurd h.sessionId hid⟩
  · obtain ⟨hfresh, hhas⟩ := Bool.and_eq_true_iff.mp hsees
    obtain ⟨-, ⟨n, hn⟩, d, hd⟩ := IntersectionReveal.exists_of_hasFreshness hhas
    rw [hn, hd, Session.checkEcho_some_eq_ok_iff]
    constructor
    · rintro ⟨rfl, hvalid⟩
      exact ⟨not_not.mp hstate, not_not.mp hid, fun _ _ => ⟨hn, d, hd, hvalid⟩⟩
    · intro h
      obtain ⟨hnonce, d', hd', hvalid⟩ := h.fresh hfresh hhas
      cases hn.symm.trans hnonce
      cases hd.symm.trans hd'
      exact ⟨rfl, hvalid⟩
  · refine ⟨fun _ => ⟨not_not.mp hstate, not_not.mp hid, fun hfresh hhas => ?_⟩, fun _ => rfl⟩
    exact absurd (Bool.and_eq_true_iff.mpr ⟨hfresh, hhas⟩) hsees

theorem checkReveal_invalidState {now : UInt64} {s : ResponderSession}
    {reveal : IntersectionReveal} {expected actual : String}
    (h : s.checkReveal now reveal = .error (.invalidState expected actual)) :
    actual = responderStateName s.state := by
  unfold checkReveal at h
  split_ifs at h
  · simp only [Except.error.injEq, SessionError.invalidState.injEq] at h
    exact h.2.symm
  · simp at h
  · exact absurd h (Session.checkEcho_ne_invalidState expected actual)

/-- A reveal is refused without a trace, by a check, by its count or for want of the
initiator's elements, or it completes the session. -/
theorem processReveal_cases (K : Crates) (now : UInt64) (s : ResponderSession)
    (reveal : IntersectionReveal) :
    (∃ e, s.checkReveal now reveal = .error e ∧ s.processReveal K now reveal = ⟨.error e, s⟩) ∨
    (s.ChecksReveal now reveal ∧ reveal.responderDoublyMasked.length ≠ s.ourCount ∧
      s.processReveal K now reveal =
        ⟨.error (.elementCountMismatch s.ourCount reveal.responderDoublyMasked.length), s⟩) ∨
    (s.AcceptsReveal now reveal ∧ s.initiatorDoublyMasked = none ∧
      s.processReveal K now reveal =
        ⟨.error (.invalidState "ReplySent with initiator data" "missing initiator doubly masked"),
          s⟩) ∨
    (s.AcceptsReveal now reveal ∧ ∃ theirs, s.initiatorDoublyMasked = some theirs ∧
      s.processReveal K now reveal = ⟨.ok (s.revealResult K reveal theirs), s.completed⟩) := by
  cases hc : s.checkReveal now reveal with
  | error e => exact .inl ⟨e, rfl, by simp [processReveal, hc]⟩
  | ok u =>
    have hchecks := checkReveal_eq_ok_iff.mp hc
    by_cases hcount : reveal.responderDoublyMasked.length = s.ourCount
    · cases ht : s.initiatorDoublyMasked with
      | none =>
        exact .inr (.inr (.inl ⟨⟨hchecks, hcount⟩, rfl, by simp [processReveal, hc, hcount, ht]⟩))
      | some theirs =>
        exact .inr (.inr (.inr
          ⟨⟨hchecks, hcount⟩, theirs, rfl, by simp [processReveal, hc, hcount, ht]⟩))
    · exact .inr (.inl ⟨hchecks, hcount, by simp [processReveal, hc, hcount]⟩)

theorem processReveal_of_accepts {K : Crates} {now : UInt64} {s : ResponderSession}
    {reveal : IntersectionReveal} {theirs : List MaskedElement} (h : s.AcceptsReveal now reveal)
    (ht : s.initiatorDoublyMasked = some theirs) :
    s.processReveal K now reveal = ⟨.ok (s.revealResult K reveal theirs), s.completed⟩ := by
  obtain ⟨e, hc, -⟩ | ⟨-, hcount, -⟩ | ⟨-, hnone, -⟩ | ⟨-, theirs', hsome, he⟩ :=
    processReveal_cases K now s reveal
  · simp [checkReveal_eq_ok_iff.mpr h.toChecksReveal] at hc
  · exact absurd h.count hcount
  · simp [hnone] at ht
  · cases hsome.symm.trans ht
    exact he

theorem processOfferAndReplySigned_cases (K : Crates) (now sentAt : UInt64) (drawn : SessionNonce)
    (identity : PartyIdentity) (s : ResponderSession) (signed : SignedWireMessage) :
    (∃ e, Session.checkSigner K s.channelBinding s.config signed = .error e ∧
      s.processOfferAndReplySigned K now sentAt drawn identity signed = ⟨.error e, s⟩) ∨
    (Session.checkSigner K s.channelBinding s.config signed = .ok () ∧
      (∀ offer, signed.message ≠ .offer offer) ∧
      s.processOfferAndReplySigned K now sentAt drawn identity signed =
        ⟨.error (.invalidState "Offer message" "non-offer message type"), s.noteSigner signed⟩) ∨
    (Session.checkSigner K s.channelBinding s.config signed = .ok () ∧
      ∃ offer, signed.message = .offer offer ∧
        s.processOfferAndReplySigned K now sentAt drawn identity signed =
          ((s.noteSigner signed).processOfferAndReply K now sentAt drawn offer).mapOk
            (fun reply => .sign K (.reply reply) identity)) := by
  cases hc : Session.checkSigner K s.channelBinding s.config signed with
  | error e => exact .inl ⟨e, rfl, by simp [processOfferAndReplySigned, hc]⟩
  | ok u =>
    cases hm : signed.message with
    | offer m => exact .inr (.inr ⟨rfl, m, rfl, by simp [processOfferAndReplySigned, hc, hm]⟩)
    | reply m => exact .inr (.inl ⟨rfl, by simp, by simp [processOfferAndReplySigned, hc, hm]⟩)
    | reveal m => exact .inr (.inl ⟨rfl, by simp, by simp [processOfferAndReplySigned, hc, hm]⟩)
    | abort m => exact .inr (.inl ⟨rfl, by simp, by simp [processOfferAndReplySigned, hc, hm]⟩)

theorem processRevealSigned_cases (K : Crates) (now : UInt64) (s : ResponderSession)
    (signed : SignedWireMessage) :
    (∃ e, Session.checkSigner K s.channelBinding s.config signed = .error e ∧
      s.processRevealSigned K now signed = ⟨.error e, s⟩) ∨
    (Session.checkSigner K s.channelBinding s.config signed = .ok () ∧
      (∀ reveal, signed.message ≠ .reveal reveal) ∧
      s.processRevealSigned K now signed =
        ⟨.error (.invalidState "Reveal message" "non-reveal message type"), s⟩) ∨
    (Session.checkSigner K s.channelBinding s.config signed = .ok () ∧
      ∃ reveal, signed.message = .reveal reveal ∧
        s.processRevealSigned K now signed = s.processReveal K now reveal) := by
  cases hc : Session.checkSigner K s.channelBinding s.config signed with
  | error e => exact .inl ⟨e, rfl, by simp [processRevealSigned, hc]⟩
  | ok u =>
    cases hm : signed.message with
    | reveal m => exact .inr (.inr ⟨rfl, m, rfl, by simp [processRevealSigned, hc, hm]⟩)
    | offer m => exact .inr (.inl ⟨rfl, by simp, by simp [processRevealSigned, hc, hm]⟩)
    | reply m => exact .inr (.inl ⟨rfl, by simp, by simp [processRevealSigned, hc, hm]⟩)
    | abort m => exact .inr (.inl ⟨rfl, by simp, by simp [processRevealSigned, hc, hm]⟩)

end ResponderSession

end BlindOverlap
