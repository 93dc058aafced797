import BlindOverlap.Session

/-!
# The initiator's session

The party that sends the offer. Each operation is followed by the cases of what
it can do, which is all that later proofs use of it.
-/
namespace BlindOverlap

/-- How far the initiator has come: nothing done, offer made, reply taken. -/
inductive InitiatorState where
  | created
  | awaitingReply
  | complete
  deriving DecidableEq

/-- All that the initiator keeps between its calls. What a later step fills in is optional. -/
structure InitiatorSession where
  sessionId : String
  secret : StaticSecret
  factSet : FactSet
  originalIds : List FactId
  mode : IntersectionMode
  state : InitiatorState
  config : SessionConfig
  nonce : SessionNonce
  deadline : SessionDeadline
  maskedElements : Option (List MaskedElement)
  responderMasked : Option (List MaskedElement)
  responderNonce : Option SessionNonce
  ourDoublyMasked : Option (List MaskedElement)
  channelBinding : Option ChannelBinding
  verifiedPeer : Option PublicIdentity
  deriving DecidableEq

/-- The names that errors give the states. -/
def stateName : InitiatorState → String
  | .created => "Created"
  | .awaitingReply => "AwaitingReply"
  | .complete => "Complete"

namespace InitiatorSession

/-! ## Constructors -/

/-- A session before its first operation. -/
def created (now : UInt64) (drawn : Drawn) (sessionId : String) (factSet : FactSet)
    (mode : IntersectionMode) (config : SessionConfig) : InitiatorSession where
  sessionId := sessionId
  secret := drawn.secret
  factSet := factSet
  originalIds := factSet.idList
  mode := mode
  state := .created
  config := config
  nonce := drawn.nonce
  deadline := .new now config.ttlSecs
  maskedElements := none
  responderMasked := none
  responderNonce := none
  ourDoublyMasked := none
  channelBinding := none
  verifiedPeer := none

/-- A set that is too large is refused here and nowhere later. -/
def withConfig (now : UInt64) (drawn : Drawn) (sessionId : String) (factSet : FactSet)
    (mode : IntersectionMode) (config : SessionConfig) : Except SessionError InitiatorSession :=
  if factSet.len > maxSetSize then .error (.setTooLarge factSet.len)
  else .ok (created now drawn sessionId factSet mode config)

theorem withConfig_eq_ok_iff {now : UInt64} {drawn : Drawn} {sessionId : String}
    {factSet : FactSet} {mode : IntersectionMode} {config : SessionConfig} {s : InitiatorSession} :
    withConfig now drawn sessionId factSet mode config = .ok s ↔
      factSet.len ≤ maxSetSize ∧ s = created now drawn sessionId factSet mode config := by
  unfold withConfig
  split_ifs with h
  · simp [not_le.mpr h]
  · simp [not_lt.mp h, eq_comm]

/-- The configuration is the derived default, not the one of the same name as this function. -/
def new (now : UInt64) (drawn : Drawn) (sessionId : String) (factSet : FactSet)
    (mode : IntersectionMode) : Except SessionError InitiatorSession :=
  withConfig now drawn sessionId factSet mode .default

/-- A session that is bound to one peer and requires signatures, with the default lifetime. -/
def withChannelBinding (K : Crates) (now : UInt64) (drawn : Drawn) (sessionId : String)
    (factSet : FactSet) (mode : IntersectionMode) (localIdentity : PartyIdentity)
    (expectedPeer : PublicIdentity) : Except SessionError InitiatorSession := do
  let config := SessionConfig.withIdentityBinding defaultTtlSecs
  let session ← withConfig now drawn sessionId factSet mode config
  return { session with channelBinding := some ⟨localIdentity.publicIdentity K, expectedPeer⟩ }

/-- The ticket's peer is not compared with the local identity on this side. -/
def fromInvite (K : Crates) (verifiedAt now : UInt64) (drawn : Drawn) (ticket : InviteTicket)
    (factSet : FactSet) (mode : IntersectionMode) (localIdentity : PartyIdentity) :
    Except SessionError InitiatorSession :=
  match ticket.verifyForSession K verifiedAt ticket.sessionId mode with
  | .error e => .error (.invite e)
  | .ok () =>
    withChannelBinding K now drawn ticket.sessionId factSet mode localIdentity ticket.issuerPubkey

/-- The lease must name the local identity as its peer; its issuer becomes the bound peer. -/
def fromLease (K : Crates) (verifiedAt now : UInt64) (drawn : Drawn) (lease : SessionLease)
    (factSet : FactSet) (mode : IntersectionMode) (localIdentity : PartyIdentity) :
    Except SessionError InitiatorSession :=
  match lease.verifyForPeer K verifiedAt (localIdentity.publicIdentity K) with
  | .error e => .error (.lease e)
  | .ok () =>
    withChannelBinding K now drawn lease.sessionId factSet mode localIdentity lease.issuerPubkey

section Bound
variable {K : Crates} {verifiedAt now : UInt64} {drawn : Drawn} {factSet : FactSet}
  {mode : IntersectionMode} {localIdentity : PartyIdentity} {s : InitiatorSession}

theorem withChannelBinding_eq_ok_iff {sessionId : String} {expectedPeer : PublicIdentity} :
    withChannelBinding K now drawn sessionId factSet mode localIdentity expectedPeer = .ok s ↔
      factSet.len ≤ maxSetSize ∧
        s = { created now drawn sessionId factSet mode (.withIdentityBinding defaultTtlSecs) with
          channelBinding := some ⟨localIdentity.publicIdentity K, expectedPeer⟩ } := by
  simp only [withChannelBinding, Except.bind_eq_ok_iff, withConfig_eq_ok_iff, Except.pure_eq_ok,
    Except.ok.injEq]
  constructor
  · rintro ⟨s', ⟨hlen, rfl⟩, rfl⟩
    exact ⟨hlen, rfl⟩
  · rintro ⟨hlen, rfl⟩
    exact ⟨_, ⟨hlen, rfl⟩, rfl⟩

theorem withChannelBinding_of_fromInvite {ticket : InviteTicket}
    (h : fromInvite K verifiedAt now drawn ticket factSet mode localIdentity = .ok s) :
    withChannelBinding K now drawn ticket.sessionId factSet mode localIdentity
      ticket.issuerPubkey = .ok s := by
  unfold fromInvite at h
  split at h
  · cases h
  · exact h

theorem withChannelBinding_of_fromLease {lease : SessionLease}
    (h : fromLease K verifiedAt now drawn lease factSet mode localIdentity = .ok s) :
    withChannelBinding K now drawn lease.sessionId factSet mode localIdentity
      lease.issuerPubkey = .ok s := by
  unfold fromLease at h
  split at h
  · cases h
  · exact h

end Bound

/-- Sessions with a given secret are of version 1. -/
def withSecret (now : UInt64) (nonce : SessionNonce) (sessionId : String) (factSet : FactSet)
    (mode : IntersectionMode) (secret : StaticSecret) : Except SessionError InitiatorSession :=
  if factSet.len > maxSetSize then .error (.setTooLarge factSet.len)
  else .ok (created now ⟨secret, nonce⟩ sessionId factSet mode .v1Compatible)

/-! ## Operations -/

/-- The offer of a session, with freshness fields if the session uses them. -/
def offerMessage (K : Crates) (s : InitiatorSession) : MaskedSetOffer :=
  let masked := Session.maskIds K s.secret s.originalIds
  if s.config.useFreshness then .newV2 s.sessionId masked s.nonce s.deadline
  else .new s.sessionId masked

@[simp] theorem offerMessage_sessionId (K : Crates) (s : InitiatorSession) :
    (s.offerMessage K).sessionId = s.sessionId := by
  unfold offerMessage
  split_ifs <;> rfl

@[simp] theorem offerMessage_maskedElements (K : Crates) (s : InitiatorSession) :
    (s.offerMessage K).maskedElements = Session.maskIds K s.secret s.originalIds := by
  unfold offerMessage
  split_ifs <;> rfl

@[simp] theorem offerMessage_hasFreshness (K : Crates) (s : InitiatorSession) :
    (s.offerMessage K).hasFreshness = s.config.useFreshness := by
  unfold offerMessage
  split_ifs with h
  · rw [h]
    rfl
  · rw [Bool.eq_false_of_not_eq_true h]
    rfl

theorem offerMessage_validate (K : Crates) (s : InitiatorSession) :
    (s.offerMessage K).validate = .ok () := by
  unfold offerMessage
  split_ifs
  · exact MaskedSetOffer.validate_newV2 ..
  · exact MaskedSetOffer.validate_new ..

theorem offerMessage_fresh {K : Crates} {s : InitiatorSession}
    (h : s.config.useFreshness = true) :
    s.offerMessage K = .newV2 s.sessionId (Session.maskIds K s.secret s.originalIds) s.nonce
      s.deadline := by
  simp [offerMessage, h]

/-- The masked elements are kept to be counted against the reply. -/
def afterOffer (K : Crates) (s : InitiatorSession) : InitiatorSession :=
  { s with
    maskedElements := some (Session.maskIds K s.secret s.originalIds)
    state := .awaitingReply }

/-- A second offer is refused. -/
def generateOffer (K : Crates) (s : InitiatorSession) :
    Step InitiatorSession (Except SessionError MaskedSetOffer) :=
  if s.state ≠ .created then ⟨.error (.invalidState "Created" (stateName s.state)), s⟩
  else ⟨.ok (s.offerMessage K), s.afterOffer K⟩

/-- Any identity may sign; it is not compared with the bound one. -/
def generateOfferSigned (K : Crates) (identity : PartyIdentity) (s : InitiatorSession) :
    Step InitiatorSession (Except SessionError SignedWireMessage) :=
  (s.generateOffer K).mapOk (fun offer => .sign K (.offer offer) identity)

/-- Whether the freshness fields of a reply are looked at. -/
def seesFreshness (s : InitiatorSession) (reply : MaskedSetReply) : Bool :=
  s.config.useFreshness && reply.hasFreshness

/-- State, session and freshness, in this order, before the session is changed. -/
def checkReply (now : UInt64) (s : InitiatorSession) (reply : MaskedSetReply) :
    Except SessionError Unit :=
  if s.state ≠ .awaitingReply then
    .error (.invalidState "AwaitingReply" (stateName s.state))
  else if reply.sessionId ≠ s.sessionId then
    .error (.sessionIdMismatch s.sessionId reply.sessionId)
  else if s.seesFreshness reply then
    Session.checkEcho now s.nonce reply.initiatorNonce reply.deadline
  else .ok ()

/-- The nonce is stored for the reveal. A reply that is not fresh leaves it as it was. -/
def noteResponderNonce (s : InitiatorSession) (reply : MaskedSetReply) : InitiatorSession :=
  { s with
    responderNonce := if s.seesFreshness reply then reply.responderNonce else s.responderNonce }

/-- How many elements this side has sent. -/
def ourCount (s : InitiatorSession) : ℕ := (s.maskedElements.map List.length).getD 0

/-- The responder's elements are masked again and compared with this side's. -/
def replyResult (K : Crates) (s : InitiatorSession) (reply : MaskedSetReply) : PsiResult :=
  intersectMasked K reply.initiatorDoublyMasked
    (Session.maskReceived K s.secret reply.responderMasked) s.originalIds s.mode

/-- What the reveal needs is kept. -/
def completedBy (s : InitiatorSession) (reply : MaskedSetReply) : InitiatorSession :=
  { s with
    ourDoublyMasked := some reply.initiatorDoublyMasked
    responderMasked := some reply.responderMasked
    state := .complete }

/-- The responder's nonce is stored before the elements are counted. -/
def processReply (K : Crates) (now : UInt64) (s : InitiatorSession) (reply : MaskedSetReply) :
    Step InitiatorSession (Except SessionError PsiResult) :=
  match s.checkReply now reply with
  | .error e => ⟨.error e, s⟩
  | .ok () =>
    let s := s.noteResponderNonce reply
    if reply.initiatorDoublyMasked.length ≠ s.ourCount then
      ⟨.error (.elementCountMismatch s.ourCount reply.initiatorDoublyMasked.length), s⟩
    else ⟨.ok (s.replyResult K reply), s.completedBy reply⟩

/-- A bound session remembers who signed. -/
def noteSigner (s : InitiatorSession) (signed : SignedWireMessage) : InitiatorSession :=
  { s with
    verifiedPeer := if s.channelBinding.isSome then some signed.signerPubkey else s.verifiedPeer }

/-- The signer is remembered before the message is looked at. -/
def processReplySigned (K : Crates) (now : UInt64) (s : InitiatorSession)
    (signed : SignedWireMessage) : Step InitiatorSession (Except SessionError PsiResult) :=
  match Session.checkSigner K s.channelBinding s.config signed with
  | .error e => ⟨.error e, s⟩
  | .ok () =>
    match signed.message with
    | .reply reply => (s.noteSigner signed).processReply K now reply
    | _ => ⟨.error (.invalidState "Reply message" "non-reply message type"), s.noteSigner signed⟩

/-- Without a stored responder nonce the reveal of a fresh session carries a new one. -/
def revealMessage (K : Crates) (now : UInt64) (drawn : SessionNonce) (s : InitiatorSession)
    (responderMasked : List MaskedElement) : IntersectionReveal :=
  let doublyMasked := Session.maskReceived K s.secret responderMasked
  if s.config.useFreshness then
    .newV2 s.sessionId doublyMasked s.nonce (s.responderNonce.getD drawn)
      (.new now s.config.ttlSecs)
  else .new s.sessionId doublyMasked

@[simp] theorem revealMessage_sessionId (K : Crates) (now : UInt64) (drawn : SessionNonce)
    (s : InitiatorSession) (received : List MaskedElement) :
    (s.revealMessage K now drawn received).sessionId = s.sessionId := by
  unfold revealMessage
  split_ifs <;> rfl

@[simp] theorem revealMessage_responderDoublyMasked (K : Crates) (now : UInt64)
    (drawn : SessionNonce) (s : InitiatorSession) (received : List MaskedElement) :
    (s.revealMessage K now drawn received).responderDoublyMasked =
      Session.maskReceived K s.secret received := by
  unfold revealMessage
  split_ifs <;> rfl

@[simp] theorem revealMessage_hasFreshness (K : Crates) (now : UInt64) (drawn : SessionNonce)
    (s : InitiatorSession) (received : List MaskedElement) :
    (s.revealMessage K now drawn received).hasFreshness = s.config.useFreshness := by
  unfold revealMessage
  split_ifs with h
  · rw [h]
    rfl
  · rw [Bool.eq_false_of_not_eq_true h]
    rfl

theorem revealMessage_validate (K : Crates) (now : UInt64) (drawn : SessionNonce)
    (s : InitiatorSession) (received : List MaskedElement) :
    (s.revealMessage K now drawn received).validate = .ok () := by
  unfold revealMessage
  split_ifs
  · exact IntersectionReveal.validate_newV2 ..
  · exact IntersectionReveal.validate_new ..

theorem revealMessage_fresh {K : Crates} {now : UInt64} {drawn : SessionNonce}
    {s : InitiatorSession} {received : List MaskedElement} (h : s.config.useFreshness = true) :
    s.revealMessage K now drawn received =
      .newV2 s.sessionId (Session.maskReceived K s.secret received) s.nonce
        (s.responderNonce.getD drawn) (.new now s.config.ttlSecs) := by
  simp [revealMessage, h]

/-- The reveal is made as often as it is asked for; the session stays complete. -/
def generateReveal (K : Crates) (now : UInt64) (drawn : SessionNonce) (s : InitiatorSession) :
    Except SessionError IntersectionReveal :=
  if s.state ≠ .complete then .error (.invalidState "Complete" (stateName s.state))
  else
    match s.responderMasked with
    | none =>
      .error (.invalidState "Complete with responder data" "missing responder masked elements")
    | some responderMasked => .ok (s.revealMessage K now drawn responderMasked)

def generateRevealSigned (K : Crates) (now : UInt64) (drawn : SessionNonce)
    (identity : PartyIdentity) (s : InitiatorSession) : Except SessionError SignedWireMessage :=
  (s.generateReveal K now drawn).map (fun reveal => .sign K (.reveal reveal) identity)

/-! ## Messages of the bound peer -/

/-- The session after a message of the given peer has been verified. -/
def verified (s : InitiatorSession) (peer : PublicIdentity) : InitiatorSession :=
  { s with verifiedPeer := some peer }

/-- What the bound peer signs is processed like the bare reply, once the signer is noted. -/
theorem processReplySigned_sign {K : Crates} {s : InitiatorSession} {p : PartyIdentity}
    {own : PublicIdentity} (hp : p.Proper K)
    (hs : s.channelBinding = some ⟨own, p.publicIdentity K⟩) (now : UInt64)
    (reply : MaskedSetReply) :
    s.processReplySigned K now (.sign K (.reply reply) p) =
      (s.verified (p.publicIdentity K)).processReply K now reply := by
  have hsigner : Session.checkSigner K s.channelBinding s.config (.sign K (.reply reply) p) =
      .ok () := by
    rw [hs, Session.checkSigner_sign hp]
  have hnoted : s.noteSigner (.sign K (.reply reply) p) = s.verified (p.publicIdentity K) := by
    simp [noteSigner, verified, hs, SignedWireMessage.sign]
  simp only [processReplySigned, hsigner, ← hnoted]
  rfl

end InitiatorSession

/-! ## The session as a machine -/

/-- One operation, with the readings of the clock and the random values it uses. -/
inductive InitiatorOp where
  | generateOffer
  | generateOfferSigned (identity : PartyIdentity)
  | processReply (now : UInt64) (reply : MaskedSetReply)
  | processReplySigned (now : UInt64) (signed : SignedWireMessage)
  | generateReveal (now : UInt64) (drawn : SessionNonce)
  | generateRevealSigned (now : UInt64) (drawn : SessionNonce) (identity : PartyIdentity)

namespace InitiatorSession

/-- Every public operation, as one call of a machine. -/
def machine (K : Crates) : Machine InitiatorSession InitiatorOp (Except SessionError SessionOutput)
  | s, .generateOffer => (s.generateOffer K).mapOk .offer
  | s, .generateOfferSigned identity => (s.generateOfferSigned K identity).mapOk .signed
  | s, .processReply now reply => (s.processReply K now reply).mapOk .result
  | s, .processReplySigned now signed => (s.processReplySigned K now signed).mapOk .result
  | s, .generateReveal now drawn => ⟨(s.generateReveal K now drawn).map .reveal, s⟩
  | s, .generateRevealSigned now drawn identity =>
    ⟨(s.generateRevealSigned K now drawn identity).map .signed, s⟩

/-! ## What the operations can do -/

theorem generateOffer_cases (K : Crates) (s : InitiatorSession) :
    (s.state ≠ .created ∧
      s.generateOffer K = ⟨.error (.invalidState "Created" (stateName s.state)), s⟩) ∨
    (s.state = .created ∧ s.generateOffer K = ⟨.ok (s.offerMessage K), s.afterOffer K⟩) := by
  by_cases h : s.state = .created
  · exact .inr ⟨h, by simp [generateOffer, h]⟩
  · exact .inl ⟨h, by simp [generateOffer, h]⟩

/-- A reply that passes every check before its elements are counted. -/
structure ChecksReply (now : UInt64) (s : InitiatorSession) (reply : MaskedSetReply) : Prop where
  state : s.state = .awaitingReply
  sessionId : reply.sessionId = s.sessionId
  fresh : s.config.useFreshness = true → reply.hasFreshness = true →
    reply.initiatorNonce = some s.nonce ∧ ∃ d, reply.deadline = some d ∧ d.validate now = .ok ()

/-- A reply that completes the session. -/
structure AcceptsReply (now : UInt64) (s : InitiatorSession) (reply : MaskedSetReply) : Prop
    extends ChecksReply now s reply where
  count : reply.initiatorDoublyMasked.length = s.ourCount

theorem checkReply_eq_ok_iff {now : UInt64} {s : InitiatorSession} {reply : MaskedSetReply} :
    s.checkReply now reply = .ok () ↔ s.ChecksReply now reply := by
  unfold checkReply
  split_ifs with hstate hid hsees
  · exact ⟨by simp, fun h => absurd h.state hstate⟩
  · exact ⟨by simp, fun h => absurd h.sessionId hid⟩
  · obtain ⟨hfresh, hhas⟩ := Bool.and_eq_true_iff.mp hsees
    obtain ⟨⟨n, hn⟩, -, d, hd⟩ := MaskedSetReply.exists_of_hasFreshness hhas
    rw [hn, hd, Session.checkEcho_some_eq_ok_iff]
    constructor
    · rintro ⟨rfl, hvalid⟩
      exact ⟨not_not.mp hstate, not_not.mp hid, fun _ _ => ⟨hn, d, hd, hvalid⟩⟩
    · intro h
      obtain ⟨hnonce, d', hd', hvalid⟩ := h.fresh hfresh hhas
      cases hn.symm.trans hnonce
      cases hd.symm.trans hd'
      exact ⟨rfl, hvalid⟩
  · refine ⟨fun _ => ⟨not_not.mp hstate, not_not.mp hid, fun hfresh hhas => ?_⟩, fun _ => rfl⟩
    exact absurd (Bool.and_eq_true_iff.mpr ⟨hfresh, hhas⟩) hsees

/-- The only state a failed check can name is the current one. -/
theorem checkReply_invalidState {now : UInt64} {s : InitiatorSession} {reply : MaskedSetReply}
    {expected actual : String}
    (h : s.checkReply now reply = .error (.invalidState expected actual)) :
    actual = stateName s.state := by
  unfold checkReply at h
  split_ifs at h
  · simp only [Except.error.injEq, SessionError.invalidState.injEq] at h
    exact h.2.symm
  · simp at h
  · exact absurd h (Session.checkEcho_ne_invalidState expected actual)

@[simp] theorem noteResponderNonce_ourCount (s : InitiatorSession) (reply : MaskedSetReply) :
    (s.noteResponderNonce reply).ourCount = s.ourCount := rfl

@[simp] theorem noteResponderNonce_replyResult (K : Crates) (s : InitiatorSession)
    (reply m : MaskedSetReply) :
    (s.noteResponderNonce reply).replyResult K m = s.replyResult K m := rfl

theorem not_checksReply_of_error {now : UInt64} {s : InitiatorSession} {reply : MaskedSetReply}
    {e : SessionError} (h : s.checkReply now reply = .error e) : ¬ s.ChecksReply now reply := by
  intro hc
  simp [checkReply_eq_ok_iff.mpr hc] at h

/-- A reply is refused by a check, or refused by its count after its nonce has been
stored, or it completes the session. -/
theorem processReply_cases (K : Crates) (now : UInt64) (s : InitiatorSession)
    (reply : MaskedSetReply) :
    (∃ e, s.checkReply now reply = .error e ∧ s.processReply K now reply = ⟨.error e, s⟩) ∨
    (s.ChecksReply now reply ∧ reply.initiatorDoublyMasked.length ≠ s.ourCount ∧
      s.processReply K now reply =
        ⟨.error (.elementCountMismatch s.ourCount reply.initiatorDoublyMasked.length),
          s.noteResponderNonce reply⟩) ∨
    (s.AcceptsReply now reply ∧
      s.processReply K now reply =
        ⟨.ok (s.replyResult K reply), (s.noteResponderNonce reply).completedBy reply⟩) := by
  cases hc : s.checkReply now reply with
  | error e => exact .inl ⟨e, rfl, by simp [processReply, hc]⟩
  | ok u =>
    have hchecks := checkReply_eq_ok_iff.mp hc
    by_cases hcount : reply.initiatorDoublyMasked.length = s.ourCount
    · exact .inr (.inr ⟨⟨hchecks, hcount⟩, by simp [processReply, hc, hcount]⟩)
    · exact .inr (.inl ⟨hchecks, hcount, by simp [processReply, hc, hcount]⟩)

theorem processReply_of_accepts {K : Crates} {now : UInt64} {s : InitiatorSession}
    {reply : MaskedSetReply} (h : s.AcceptsReply now reply) :
    s.processReply K now reply =
      ⟨.ok (s.replyResult K reply), (s.noteResponderNonce reply).completedBy reply⟩ := by
  obtain ⟨e, hc, -⟩ | ⟨-, hcount, -⟩ | ⟨-, he⟩ := processReply_cases K now s reply
  · exact absurd h.toChecksReply (not_checksReply_of_error hc)
  · exact absurd h.count hcount
  · exact he

/-- A signed message is refused for its signer, or refused for its type after its
signer has been stored, or handled like an unsigned one. -/
theorem processReplySigned_cases (K : Crates) (now : UInt64) (s : InitiatorSession)
    (signed : SignedWireMessage) :
    (∃ e, Session.checkSigner K s.channelBinding s.config signed = .error e ∧
      s.processReplySigned K now signed = ⟨.error e, s⟩) ∨
    (Session.checkSigner K s.channelBinding s.config signed = .ok () ∧
      (∀ reply, signed.message ≠ .reply reply) ∧
      s.processReplySigned K now signed =
        ⟨.error (.invalidState "Reply message" "non-reply message type"), s.noteSigner signed⟩) ∨
    (Session.checkSigner K s.channelBinding s.config signed = .ok () ∧
      ∃ reply, signed.message = .reply reply ∧
        s.processReplySigned K now signed = (s.noteSigner signed).processReply K now reply) := by
  cases hc : Session.checkSigner K s.channelBinding s.config signed with
  | error e => exact .inl ⟨e, rfl, by simp [processReplySigned, hc]⟩
  | ok u =>
    cases hm : signed.message with
    | reply reply => exact .inr (.inr ⟨rfl, reply, rfl, by simp [processReplySigned, hc, hm]⟩)
    | offer m => exact .inr (.inl ⟨rfl, by simp, by simp [processReplySigned, hc, hm]⟩)
    | reveal m => exact .inr (.inl ⟨rfl, by simp, by simp [processReplySigned, hc, hm]⟩)
    | abort m => exact .inr (.inl ⟨rfl, by simp, by simp [processReplySigned, hc, hm]⟩)

/-- A reveal masks what the responder sent, in a complete session. -/
theorem generateReveal_eq_ok_iff {K : Crates} {now : UInt64} {drawn : SessionNonce}
    {s : InitiatorSession} {m : IntersectionReveal} :
    s.generateReveal K now drawn = .ok m ↔
      s.state = .complete ∧ ∃ received, s.responderMasked = some received ∧
        m = s.revealMessage K now drawn received := by
  unfold generateReveal
  split_ifs with h
  · simp [h]
  · cases hr : s.responderMasked <;> simp [not_not.mp h, eq_comm]

end InitiatorSession

end BlindOverlap
