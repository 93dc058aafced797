import BlindOverlap.Cli

/-!
# The later commands

The second command of each side works with a session that it rebuilds from its state
file. Such a session is of version 1: of a message that reads as one of the right type
it checks the session identifier and the number of elements, and nothing else.
-/
namespace BlindOverlap

namespace Cli

/-! ## What the first commands save -/

/-- The parts of a state file out of which a set and a mode are rebuilt. -/
structure SavedSet (K : Crates) (mode : String) (factIdsHex : List String) (secretHex : String)
    (s : FactSet) (m : IntersectionMode) : Prop where
  mode : parseMode mode = .ok m
  ids : factIdsHex = hexList s.idList
  secret : secretHex = Hex.encode savedSecret.toList
  set : FactSet.fromIds K s.idList = s
  size : s.len ≤ maxSetSize

theorem fromIds_of_loadFactSet {K : Crates} {input : String} {s : FactSet}
    (h : loadFactSet K input = .ok s) : FactSet.fromIds K s.idList = s := by
  obtain ⟨ids, -, hs⟩ := Except.bind_eq_ok_iff.mp h
  obtain rfl := Except.ok.inj hs
  exact FactSet.fromIds_idList K ids

section Save
variable {K : Crates} {s : FactSet} {m : IntersectionMode}

theorem InitiatorState.rebuild_of_saved {state : InitiatorState}
    (h : SavedSet K state.mode state.factIdsHex state.secretHex s m) (now : UInt64)
    (nonce : SessionNonce) :
    state.rebuild K now nonce =
      .ok (.created now ⟨savedSecret, nonce⟩ state.sessionId s m .v1Compatible) := by
  have hwith : InitiatorSession.withSecret now nonce state.sessionId s m savedSecret =
      .ok (.created now ⟨savedSecret, nonce⟩ state.sessionId s m .v1Compatible) :=
    InitiatorSession.withConfig_eq_ok_iff.mpr ⟨h.size, rfl⟩
  simp only [InitiatorState.rebuild, h.mode, h.ids, h.secret, decodeFactIds_hexList,
    decodeSecret_encode, Except.ok_bind, h.set, hwith, Except.mapError_ok]

theorem ResponderState.rebuild_of_saved {state : ResponderState}
    (h : SavedSet K state.mode state.factIdsHex state.secretHex s m) (nonce : SessionNonce) :
    state.rebuild K nonce =
      .ok (.created ⟨savedSecret, nonce⟩ state.sessionId s m .v1Compatible) := by
  have hwith : ResponderSession.withSecret nonce state.sessionId s m savedSecret =
      .ok (.created ⟨savedSecret, nonce⟩ state.sessionId s m .v1Compatible) :=
    ResponderSession.withConfig_eq_ok_iff.mpr ⟨h.size, rfl⟩
  simp only [ResponderState.rebuild, h.mode, h.ids, h.secret, decodeFactIds_hexList,
    decodeSecret_encode, Except.ok_bind, h.set, hwith, Except.mapError_ok]

/-- The session of an offer command, once the set is loaded. -/
def OfferArgs.newSession (args : OfferArgs) (createdAt : UInt64) (drawn : Drawn) (s : FactSet)
    (m : IntersectionMode) : InitiatorSession :=
  .created createdAt drawn args.session s m (.withTtl (args.ttlSecs.getD defaultTtlSecs))

def ReplyArgs.newSession (args : ReplyArgs) (drawn : Drawn) (offer : MaskedSetOffer)
    (s : FactSet) (m : IntersectionMode) : ResponderSession :=
  .created drawn offer.sessionId s m (.withTtl (args.ttlSecs.getD defaultTtlSecs))

/-- What an offer command that succeeds has loaded, padded and written. -/
theorem cmdOnlineOffer_ok {createdAt : UInt64} {drawn : Drawn} {drawnPadding : Bytes 32}
    {args : OfferArgs} {written : Written}
    (h : cmdOnlineOffer K createdAt drawn drawnPadding args = .ok written) :
    ∃ s m identity elements, loadFactSet K args.input = .ok s ∧ parseMode args.mode = .ok m ∧
      s.len ≤ maxSetSize ∧ loadIdentity K args.identity = .ok identity ∧
      padTo K drawnPadding args.padTo args.padSecret
        ((args.newSession createdAt drawn s m).offerMessage K).maskedElements
        (utf8 args.session) = .ok elements ∧
      written.message = writeMessage K identity (.offer (repackOffer args.session
        ((args.newSession createdAt drawn s m).offerMessage K) elements)) ∧
      written.state = K.jsonToStringPretty (initiatorState args s.idList
        ((args.newSession createdAt drawn s m).afterOffer K)
        ((args.newSession createdAt drawn s m).offerMessage K)
        (args.ttlSecs.getD defaultTtlSecs)).toJson := by
  unfold cmdOnlineOffer at h
  obtain ⟨s, hs, h⟩ := Except.bind_eq_ok_iff.mp h
  obtain ⟨m, hm, h⟩ := Except.bind_eq_ok_iff.mp h
  obtain ⟨session, hsession, h⟩ := Except.bind_eq_ok_iff.mp h
  obtain ⟨identity, hidentity, h⟩ := Except.bind_eq_ok_iff.mp h
  obtain ⟨peer, -, h⟩ := Except.bind_eq_ok_iff.mp h
  obtain ⟨offer, hoffer, h⟩ := Except.bind_eq_ok_iff.mp h
  obtain ⟨elements, hpad, h⟩ := Except.bind_eq_ok_iff.mp h
  obtain rfl := Except.ok.inj h
  obtain ⟨hsize, rfl⟩ := InitiatorSession.withConfig_eq_ok_iff.mp
    (Except.mapError_eq_ok_iff.mp hsession)
  obtain rfl := Except.ok.inj hoffer
  exact ⟨s, m, identity, elements, hs, hm, hsize, hidentity, hpad, rfl, rfl⟩

/-- What a reply command that succeeds has loaded, read, padded and written. -/
theorem cmdOnlineReply_ok {checkedAt sentAt : UInt64} {drawn : Drawn}
    {replyNonce : SessionNonce} {drawnPadding : Bytes 32} {args : ReplyArgs} {written : Written}
    (h : cmdOnlineReply K checkedAt sentAt drawn replyNonce drawnPadding args = .ok written) :
    ∃ s m identity peer offer elements, loadFactSet K args.input = .ok s ∧
      parseMode args.mode = .ok m ∧ s.len ≤ maxSetSize ∧
      loadIdentity K args.identity = .ok identity ∧
      parseExpectPeer K args.expectPeer = .ok peer ∧ readOffer K peer args.offer = .ok offer ∧
      padTo K drawnPadding args.padTo args.padSecret
        ((args.newSession drawn offer s m).replyMessage K sentAt replyNonce offer).responderMasked
        (utf8 offer.sessionId) = .ok elements ∧
      written.message = writeMessage K identity (.reply (repackReply offer.sessionId
        ((args.newSession drawn offer s m).replyMessage K sentAt replyNonce offer) elements)) ∧
      written.state = K.jsonToStringPretty (responderState args s.idList
        (((args.newSession drawn offer s m).noteInitiatorNonce offer).afterReply K offer) offer
        ((args.newSession drawn offer s m).replyMessage K sentAt replyNonce offer)
        (args.ttlSecs.getD defaultTtlSecs)).toJson := by
  unfold cmdOnlineReply at h
  obtain ⟨s, hs, h⟩ := Except.bind_eq_ok_iff.mp h
  obtain ⟨identity, hidentity, h⟩ := Except.bind_eq_ok_iff.mp h
  obtain ⟨peer, hpeer, h⟩ := Except.bind_eq_ok_iff.mp h
  obtain ⟨offer, hoffer, h⟩ := Except.bind_eq_ok_iff.mp h
  obtain ⟨m, hm, h⟩ := Except.bind_eq_ok_iff.mp h
  obtain ⟨session, hsession, h⟩ := Except.bind_eq_ok_iff.mp h
  obtain ⟨hsize, rfl⟩ := ResponderSession.withConfig_eq_ok_iff.mp
    (Except.mapError_eq_ok_iff.mp hsession)
  obtain ⟨reply, hreply, h⟩ := Except.bind_eq_ok_iff.mp h
  obtain ⟨elements, hpad, h⟩ := Except.bind_eq_ok_iff.mp h
  obtain rfl := Except.ok.inj h
  obtain ⟨e, -, hnext⟩ | ⟨-, hnext⟩ := ResponderSession.processOfferAndReply_cases K checkedAt
    sentAt replyNonce (args.newSession drawn offer s m) offer
  · rw [ReplyArgs.newSession] at hnext
    rw [hnext] at hreply
    cases hreply
  · rw [ReplyArgs.newSession] at hnext
    rw [hnext] at hreply ⊢
    obtain rfl := Except.ok.inj hreply
    exact ⟨s, m, identity, peer, offer, elements, hs, hm, hsize, hidentity, hpeer, hoffer, hpad,
      rfl, rfl⟩

/-- The offer command saves the set it loaded and the nonce it drew. -/
theorem exists_of_cmdOnlineOffer {createdAt : UInt64} {drawn : Drawn} {drawnPadding : Bytes 32}
    {args : OfferArgs} {written : Written}
    (h : cmdOnlineOffer K createdAt drawn drawnPadding args = .ok written) :
    ∃ s m state, loadFactSet K args.input = .ok s ∧
      SavedSet K state.mode state.factIdsHex state.secretHex s m ∧
      state.sessionId = args.session ∧ state.nonceHex = some drawn.nonce.toHex ∧
      written.state = K.jsonToStringPretty (InitiatorState.toJson state) := by
  obtain ⟨s, m, identity, elements, hs, hm, hsize, -, -, -, hwritten⟩ := cmdOnlineOffer_ok h
  exact ⟨s, m, _, hs, ⟨hm, rfl, rfl, fromIds_of_loadFactSet hs, hsize⟩, rfl, rfl, hwritten⟩

/-- The reply command saves the same, and of a fresh offer its session and nonce. -/
theorem exists_of_cmdOnlineReply {checkedAt sentAt : UInt64} {drawn : Drawn}
    {replyNonce : SessionNonce} {drawnPadding : Bytes 32} {args : ReplyArgs} {written : Written}
    (h : cmdOnlineReply K checkedAt sentAt drawn replyNonce drawnPadding args = .ok written) :
    ∃ s m state peer offer, loadFactSet K args.input = .ok s ∧
      SavedSet K state.mode state.factIdsHex state.secretHex s m ∧
      parseExpectPeer K args.expectPeer = .ok peer ∧ readOffer K peer args.offer = .ok offer ∧
      state.sessionId = offer.sessionId ∧ state.nonceHex = some drawn.nonce.toHex ∧
      (offer.hasFreshness = true →
        state.initiatorNonceHex = offer.nonce.map SessionNonce.toHex) ∧
      written.state = K.jsonToStringPretty (ResponderState.toJson state) := by
  obtain ⟨s, m, identity, peer, offer, elements, hs, hm, hsize, -, hpeer, hoffer, -, -,
    hwritten⟩ := cmdOnlineReply_ok h
  refine ⟨s, m, _, peer, offer, hs, ⟨hm, rfl, rfl, fromIds_of_loadFactSet hs, hsize⟩, hpeer,
    hoffer, rfl, rfl, fun hfresh => ?_, hwritten⟩
  exact congrArg (Option.map SessionNonce.toHex) (if_pos hfresh)

end Save

/-! ## What the second commands check -/

/-- The initiator's session when it takes a reply. -/
def restoredInitiator (K : Crates) (now : UInt64) (nonce : SessionNonce) (sessionId : String)
    (s : FactSet) (m : IntersectionMode) : InitiatorSession :=
  (InitiatorSession.created now ⟨savedSecret, nonce⟩ sessionId s m .v1Compatible).afterOffer K

/-- The responder's session when it takes a reveal. -/
def restoredResponder (K : Crates) (nonce : SessionNonce) (offer : MaskedSetOffer) (s : FactSet)
    (m : IntersectionMode) : ResponderSession :=
  ((ResponderSession.created ⟨savedSecret, nonce⟩ offer.sessionId s m
    .v1Compatible).noteInitiatorNonce offer).afterReply K offer

section Restored
variable {K : Crates} {now : UInt64} {nonce : SessionNonce} {sessionId : String} {s : FactSet}
variable {m : IntersectionMode}

theorem restoredInitiator_checksReply {checkedAt : UInt64} {reply : MaskedSetReply} :
    (restoredInitiator K now nonce sessionId s m).ChecksReply checkedAt reply ↔
      reply.sessionId = sessionId :=
  ⟨fun h => h.sessionId, fun h => ⟨rfl, h, fun hfresh => nomatch hfresh⟩⟩

theorem restoredInitiator_ourCount :
    (restoredInitiator K now nonce sessionId s m).ourCount = s.len :=
  Session.length_maskIds ..

theorem restoredResponder_checksReveal {checkedAt : UInt64} {offer : MaskedSetOffer}
    {reveal : IntersectionReveal} :
    (restoredResponder K nonce offer s m).ChecksReveal checkedAt reveal ↔
      reveal.sessionId = offer.sessionId :=
  ⟨fun h => h.sessionId, fun h => ⟨rfl, h, fun hfresh => nomatch hfresh⟩⟩

theorem restoredResponder_ourCount {offer : MaskedSetOffer} :
    (restoredResponder K nonce offer s m).ourCount = s.len :=
  Session.length_maskIds ..

end Restored

/-- The files and arguments of a completing command, read. -/
structure CompleteArgs.Reads (K : Crates) (args : CompleteArgs) (state : InitiatorState)
    (identity : Option PartyIdentity) (peer : Option PublicIdentity) (reply : MaskedSetReply) :
    Prop where
  readsState : K.fromStr InitiatorState.fromJson args.state = .ok state
  readsIdentity : loadIdentity K args.identity = .ok identity
  readsPeer : parseExpectPeer K args.expectPeer = .ok peer
  readsReply : readReply K peer args.reply = .ok reply

structure RevealArgs.Reads (K : Crates) (args : RevealArgs) (state : ResponderState)
    (peer : Option PublicIdentity) (reveal : IntersectionReveal) : Prop where
  readsState : K.fromStr ResponderState.fromJson args.state = .ok state
  readsPeer : parseExpectPeer K args.expectPeer = .ok peer
  readsReveal : readReveal K peer args.reveal = .ok reveal

section Complete
variable {K : Crates} {createdAt checkedAt revealSentAt : UInt64} {nonce revealNonce : SessionNonce}
variable {args : CompleteArgs} {state : InitiatorState} {identity : Option PartyIdentity}
variable {peer : Option PublicIdentity} {reply : MaskedSetReply} {s : FactSet}
variable {m : IntersectionMode}

/-- What the completing command writes once the reply is accepted. -/
def completedWith (K : Crates) (withReveal : Bool) (identity : Option PartyIdentity)
    (session : InitiatorSession) (reply : MaskedSetReply) : Completed where
  report := report (session.replyResult K reply)
  reveal := if withReveal then
    some (writeMessage K identity (.reveal (.new session.sessionId
      (Session.maskReceived K session.secret reply.responderMasked)))) else none

/-- All that is left to the rebuilt session is to take the reply. -/
theorem cmdOnlineComplete_of_reads (h : args.Reads K state identity peer reply)
    (hsaved : SavedSet K state.mode state.factIdsHex state.secretHex s m) :
    cmdOnlineComplete K createdAt checkedAt revealSentAt nonce revealNonce args = (do
      let completed := (restoredInitiator K createdAt nonce state.sessionId s m).processReply K
        checkedAt reply
      let result ← completed.output.mapError CliError.session
      if args.withReveal then
        let reveal ← (completed.next.generateReveal K revealSentAt revealNonce).mapError
          CliError.session
        return ⟨report result, some (writeMessage K identity (.reveal reveal))⟩
      else return ⟨report result, none⟩) := by
  have hoffer : (InitiatorSession.created createdAt ⟨savedSecret, nonce⟩ state.sessionId s m
      .v1Compatible).generateOffer K =
        ⟨.ok ((InitiatorSession.created createdAt ⟨savedSecret, nonce⟩ state.sessionId s m
          .v1Compatible).offerMessage K),
          restoredInitiator K createdAt nonce state.sessionId s m⟩ := rfl
  simp only [cmdOnlineComplete, h.readsState, h.readsIdentity, h.readsPeer, h.readsReply,
    state.rebuild_of_saved hsaved, hoffer, Except.mapError_ok, Except.ok_bind]

theorem cmdOnlineComplete_of_accepts (h : args.Reads K state identity peer reply)
    (hsaved : SavedSet K state.mode state.factIdsHex state.secretHex s m)
    (hid : reply.sessionId = state.sessionId)
    (hcount : reply.initiatorDoublyMasked.length = s.len) :
    cmdOnlineComplete K createdAt checkedAt revealSentAt nonce revealNonce args =
      .ok (completedWith K args.withReveal identity
        (restoredInitiator K createdAt nonce state.sessionId s m) reply) := by
  have haccepts : (restoredInitiator K createdAt nonce state.sessionId s m).AcceptsReply checkedAt
      reply :=
    ⟨restoredInitiator_checksReply.mpr hid, hcount.trans restoredInitiator_ourCount.symm⟩
  rw [cmdOnlineComplete_of_reads h hsaved, InitiatorSession.processReply_of_accepts haccepts]
  cases hreveal : args.withReveal with
  | true => rfl
  | false => rfl

theorem cmdOnlineComplete_of_miscount (h : args.Reads K state identity peer reply)
    (hsaved : SavedSet K state.mode state.factIdsHex state.secretHex s m)
    (hid : reply.sessionId = state.sessionId)
    (hcount : reply.initiatorDoublyMasked.length ≠ s.len) :
    cmdOnlineComplete K createdAt checkedAt revealSentAt nonce revealNonce args =
      .error (.session (.elementCountMismatch s.len reply.initiatorDoublyMasked.length)) := by
  have hprocess := InitiatorSession.processReply_cases K checkedAt
    (restoredInitiator K createdAt nonce state.sessionId s m) reply
  rw [restoredInitiator_ourCount] at hprocess
  rw [cmdOnlineComplete_of_reads h hsaved]
  obtain ⟨e, he, -⟩ | ⟨-, -, hprocess⟩ | ⟨haccepts, -⟩ := hprocess
  · exact absurd (restoredInitiator_checksReply.mpr hid)
      (InitiatorSession.not_checksReply_of_error he)
  · rw [hprocess]
    rfl
  · exact absurd (haccepts.count.trans restoredInitiator_ourCount) hcount

/-- A completing command that succeeds has read its files and found the reply to be of
its session and count. -/
theorem exists_of_cmdOnlineComplete {completed : Completed}
    (hstate : K.fromStr InitiatorState.fromJson args.state = .ok state)
    (hsaved : SavedSet K state.mode state.factIdsHex state.secretHex s m)
    (h : cmdOnlineComplete K createdAt checkedAt revealSentAt nonce revealNonce args =
      .ok completed) :
    ∃ identity peer reply, args.Reads K state identity peer reply ∧
      reply.sessionId = state.sessionId ∧ reply.initiatorDoublyMasked.length = s.len := by
  have hrun := h
  unfold cmdOnlineComplete at hrun
  rw [hstate, Except.mapError_ok, Except.ok_bind] at hrun
  obtain ⟨identity, hidentity, hrun⟩ := Except.bind_eq_ok_iff.mp hrun
  obtain ⟨peer, hpeer, hrun⟩ := Except.bind_eq_ok_iff.mp hrun
  obtain ⟨reply, hreply, -⟩ := Except.bind_eq_ok_iff.mp hrun
  have hreads : args.Reads K state identity peer reply := ⟨hstate, hidentity, hpeer, hreply⟩
  rw [cmdOnlineComplete_of_reads hreads hsaved] at h
  obtain ⟨result, hresult, -⟩ := Except.bind_eq_ok_iff.mp h
  have hprocess := InitiatorSession.processReply_cases K checkedAt
    (restoredInitiator K createdAt nonce state.sessionId s m) reply
  obtain ⟨e, -, hprocess⟩ | ⟨-, -, hprocess⟩ | ⟨haccepts, -⟩ := hprocess
  · rw [hprocess] at hresult
    cases hresult
  · rw [hprocess] at hresult
    cases hresult
  · exact ⟨identity, peer, reply, hreads, haccepts.sessionId,
      haccepts.count.trans restoredInitiator_ourCount⟩

end Complete

section Reveal
variable {K : Crates} {checkedAt sentAt revealCheckedAt : UInt64}
variable {nonce replyNonce : SessionNonce} {args : RevealArgs} {state : ResponderState}
variable {peer : Option PublicIdentity} {reveal : IntersectionReveal} {s : FactSet}
variable {m : IntersectionMode}

theorem cmdOnlineReveal_of_reads (h : args.Reads K state peer reveal)
    (hsaved : SavedSet K state.mode state.factIdsHex state.secretHex s m) :
    cmdOnlineReveal K checkedAt sentAt revealCheckedAt nonce replyNonce args = (do
      let result ← ((restoredResponder K nonce state.rebuiltOffer s m).processReveal K
        revealCheckedAt reveal).output.mapError CliError.session
      return report result) := by
  have haccepts : (ResponderSession.created ⟨savedSecret, nonce⟩ state.sessionId s m
      .v1Compatible).AcceptsOffer checkedAt state.rebuiltOffer :=
    ⟨rfl, rfl, fun hfresh => nomatch hfresh⟩
  simp only [cmdOnlineReveal, h.readsState, h.readsPeer, h.readsReveal,
    state.rebuild_of_saved hsaved, ResponderSession.processOfferAndReply_of_accepts haccepts,
    Except.mapError_ok, Except.ok_bind]
  rfl

/-- What the revealing command compares once the reveal is accepted: zero points stand in
for the initiator's elements. -/
def revealedWith (K : Crates) (state : ResponderState) (s : FactSet) (m : IntersectionMode)
    (reveal : IntersectionReveal) : PsiResult :=
  intersectMasked K reveal.responderDoublyMasked
    (Session.maskReceived K savedSecret state.rebuiltOffer.maskedElements) s.idList m

theorem cmdOnlineReveal_of_accepts (h : args.Reads K state peer reveal)
    (hsaved : SavedSet K state.mode state.factIdsHex state.secretHex s m)
    (hid : reveal.sessionId = state.sessionId)
    (hcount : reveal.responderDoublyMasked.length = s.len) :
    cmdOnlineReveal K checkedAt sentAt revealCheckedAt nonce replyNonce args =
      .ok (report (revealedWith K state s m reveal)) := by
  have haccepts : (restoredResponder K nonce state.rebuiltOffer s m).AcceptsReveal revealCheckedAt
      reveal :=
    ⟨restoredResponder_checksReveal.mpr hid, hcount.trans restoredResponder_ourCount.symm⟩
  rw [cmdOnlineReveal_of_reads h hsaved, ResponderSession.processReveal_of_accepts haccepts rfl]
  rfl

theorem cmdOnlineReveal_of_miscount (h : args.Reads K state peer reveal)
    (hsaved : SavedSet K state.mode state.factIdsHex state.secretHex s m)
    (hid : reveal.sessionId = state.sessionId)
    (hcount : reveal.responderDoublyMasked.length ≠ s.len) :
    cmdOnlineReveal K checkedAt sentAt revealCheckedAt nonce replyNonce args =
      .error (.session (.elementCountMismatch s.len reveal.responderDoublyMasked.length)) := by
  have hchecks : (restoredResponder K nonce state.rebuiltOffer s m).checkReveal revealCheckedAt
      reveal = .ok () :=
    ResponderSession.checkReveal_eq_ok_iff.mpr (restoredResponder_checksReveal.mpr hid)
  have hprocess := ResponderSession.processReveal_cases K revealCheckedAt
    (restoredResponder K nonce state.rebuiltOffer s m) reveal
  rw [restoredResponder_ourCount] at hprocess
  rw [cmdOnlineReveal_of_reads h hsaved]
  obtain ⟨e, he, -⟩ | ⟨-, -, hprocess⟩ | ⟨haccepts, -⟩ | ⟨haccepts, -⟩ := hprocess
  · cases hchecks.symm.trans he
  · rw [hprocess]
    rfl
  · exact absurd (haccepts.count.trans restoredResponder_ourCount) hcount
  · exact absurd (haccepts.count.trans restoredResponder_ourCount) hcount

/-- A revealing command that succeeds has read its files and found the reveal to be of
its session and count. -/
theorem exists_of_cmdOnlineReveal {text : String}
    (hstate : K.fromStr ResponderState.fromJson args.state = .ok state)
    (hsaved : SavedSet K state.mode state.factIdsHex state.secretHex s m)
    (h : cmdOnlineReveal K checkedAt sentAt revealCheckedAt nonce replyNonce args = .ok text) :
    ∃ peer reveal, args.Reads K state peer reveal ∧
      reveal.sessionId = state.sessionId ∧ reveal.responderDoublyMasked.length = s.len := by
  have hrun := h
  unfold cmdOnlineReveal at hrun
  rw [hstate, Except.mapError_ok, Except.ok_bind] at hrun
  obtain ⟨peer, hpeer, hrun⟩ := Except.bind_eq_ok_iff.mp hrun
  obtain ⟨reveal, hreveal, -⟩ := Except.bind_eq_ok_iff.mp hrun
  have hreads : args.Reads K state peer reveal := ⟨hstate, hpeer, hreveal⟩
  rw [cmdOnlineReveal_of_reads hreads hsaved] at h
  obtain ⟨result, hresult, -⟩ := Except.bind_eq_ok_iff.mp h
  have hprocess := ResponderSession.processReveal_cases K revealCheckedAt
    (restoredResponder K nonce state.rebuiltOffer s m) reveal
  obtain ⟨e, -, hprocess⟩ | ⟨-, -, hprocess⟩ | ⟨-, -, hprocess⟩ | ⟨haccepts, -⟩ := hprocess
  · rw [hprocess] at hresult
    cases hresult
  · rw [hprocess] at hresult
    cases hresult
  · rw [hprocess] at hresult
    cases hresult
  · exact ⟨peer, reveal, hreads, haccepts.sessionId,
      haccepts.count.trans restoredResponder_ourCount⟩

end Reveal

end Cli

end BlindOverlap
