import BlindOverlap.Incoming

/-!
# What a failed call leaves behind

A session keeps every field when an operation fails, up to two. The signer of a
message is stored as soon as the signature holds, and the responder's nonce before
the elements of the reply are counted.
-/
namespace BlindOverlap

namespace InitiatorSession

/-- A failed call against the session before it: which fields may differ, and why. -/
structure FailsSparing (K : Crates) (s : InitiatorSession) (op : InitiatorOp) : Prop where
  frame : { (machine K s op).next with
    verifiedPeer := s.verifiedPeer, responderNonce := s.responderNonce } = s
  verifiedPeer : (machine K s op).next.verifiedPeer = s.verifiedPeer ∨
    ∃ binding, s.channelBinding = some binding ∧ op.AuthenticatedBy K binding ∧
      (machine K s op).next.verifiedPeer = some binding.peerPubkey
  responderNonce : (machine K s op).next.responderNonce = s.responderNonce ∨
    ∃ now reply, op.reply? = some (now, reply) ∧ s.ChecksReply now reply ∧
      reply.initiatorDoublyMasked.length ≠ s.ourCount ∧
      (machine K s op).next.responderNonce = reply.responderNonce

theorem failsSparing_of_unchanged {K : Crates} {s : InitiatorSession} {op : InitiatorOp}
    (h : (machine K s op).next = s) : FailsSparing K s op := by
  constructor
  · rw [h]
  · exact .inl (congrArg _ h)
  · exact .inl (congrArg _ h)

theorem noteResponderNonce_responderNonce (s : InitiatorSession) (reply : MaskedSetReply) :
    (s.noteResponderNonce reply).responderNonce = s.responderNonce ∨
      (s.noteResponderNonce reply).responderNonce = reply.responderNonce := by
  unfold noteResponderNonce
  split_ifs
  · exact .inr rfl
  · exact .inl rfl

theorem noteSigner_verifiedPeer {K : Crates} {s : InitiatorSession} {signed : SignedWireMessage}
    (hc : Session.checkSigner K s.channelBinding s.config signed = .ok ()) :
    (s.noteSigner signed).verifiedPeer = s.verifiedPeer ∨
      ∃ binding, s.channelBinding = some binding ∧
        (signed.signerPubkey = binding.peerPubkey ∧ signed.verifySignature K = .ok ()) ∧
        (s.noteSigner signed).verifiedPeer = some binding.peerPubkey := by
  cases hb : s.channelBinding with
  | none => exact .inl (by simp [noteSigner, hb])
  | some binding =>
    rw [hb] at hc
    have hsigned := Session.checkSigner_bound hc
    exact .inr ⟨binding, rfl, hsigned, by simp [noteSigner, hb, hsigned.1]⟩

/-- A reply is refused without a trace, or for its count after its nonce is stored. -/
theorem processReply_fails {K : Crates} {now : UInt64} {s : InitiatorSession}
    {reply : MaskedSetReply} {e : SessionError}
    (h : (s.processReply K now reply).output = .error e) :
    (s.processReply K now reply).next = s ∨
      s.ChecksReply now reply ∧ reply.initiatorDoublyMasked.length ≠ s.ourCount ∧
        (s.processReply K now reply).next = s.noteResponderNonce reply := by
  obtain ⟨e, -, he⟩ | ⟨hchecks, hcount, he⟩ | ⟨-, he⟩ := processReply_cases K now s reply
  · exact .inl (congrArg _ he)
  · exact .inr ⟨hchecks, hcount, congrArg _ he⟩
  · rw [he] at h
    cases h

theorem processReply_failsSparing {K : Crates} {now : UInt64} {s : InitiatorSession}
    {reply : MaskedSetReply} {e : SessionError}
    (h : (s.processReply K now reply).output = .error e) :
    FailsSparing K s (.processReply now reply) := by
  obtain hsame | ⟨hchecks, hcount, hnext⟩ := processReply_fails h
  · exact failsSparing_of_unchanged hsame
  · replace hnext : (machine K s (.processReply now reply)).next = s.noteResponderNonce reply :=
      hnext
    constructor
    · rw [hnext]
      rfl
    · rw [hnext]
      exact .inl rfl
    · rw [hnext]
      refine (noteResponderNonce_responderNonce s reply).imp_right fun hn => ?_
      exact ⟨now, reply, rfl, hchecks, hcount, hn⟩

theorem processReplySigned_failsSparing {K : Crates} {now : UInt64} {s : InitiatorSession}
    {signed : SignedWireMessage} {e : SessionError}
    (h : (s.processReplySigned K now signed).output = .error e) :
    FailsSparing K s (.processReplySigned now signed) := by
  have hnext : (machine K s (.processReplySigned now signed)).next =
      (s.processReplySigned K now signed).next := rfl
  obtain ⟨e, -, he⟩ | ⟨hc, -, he⟩ | ⟨hc, reply, hm, he⟩ := processReplySigned_cases K now s signed
  · exact failsSparing_of_unchanged (hnext.trans (congrArg _ he))
  · rw [he] at hnext
    constructor
    · rw [hnext]
      rfl
    · rw [hnext]
      exact noteSigner_verifiedPeer hc
    · rw [hnext]
      exact .inl rfl
  · rw [he] at hnext h
    obtain hsame | ⟨hchecks, hcount, hnoted⟩ := processReply_fails h
    · rw [hsame] at hnext
      constructor
      · rw [hnext]
        rfl
      · rw [hnext]
        exact noteSigner_verifiedPeer hc
      · rw [hnext]
        exact .inl rfl
    · rw [hnoted] at hnext
      constructor
      · rw [hnext]
        rfl
      · rw [hnext]
        exact noteSigner_verifiedPeer hc
      · rw [hnext]
        refine (noteResponderNonce_responderNonce (s.noteSigner signed) reply).imp_right
          (fun hn => ?_)
        exact ⟨now, reply, by simp [InitiatorOp.reply?, hm],
          ⟨hchecks.state, hchecks.sessionId, hchecks.fresh⟩, hcount, hn⟩

theorem machine_failsSparing {K : Crates} {s : InitiatorSession} {op : InitiatorOp}
    {e : SessionError} (h : (machine K s op).output = .error e) : FailsSparing K s op := by
  have hoffer : (s.generateOffer K).next = s ∨ ∃ m, (s.generateOffer K).output = .ok m := by
    obtain ⟨-, he⟩ | ⟨-, he⟩ := generateOffer_cases K s
    · exact .inl (congrArg _ he)
    · exact .inr ⟨_, congrArg _ he⟩
  cases op with
  | generateOffer =>
    obtain hsame | ⟨m, hm⟩ := hoffer
    · exact failsSparing_of_unchanged hsame
    · simp [machine, hm, Except.map] at h
  | generateOfferSigned identity =>
    obtain hsame | ⟨m, hm⟩ := hoffer
    · exact failsSparing_of_unchanged hsame
    · simp [machine, generateOfferSigned, hm, Except.map] at h
  | processReply now reply => exact processReply_failsSparing (Except.map_eq_error_iff.mp h)
  | processReplySigned now signed =>
    exact processReplySigned_failsSparing (Except.map_eq_error_iff.mp h)
  | generateReveal now drawn => exact failsSparing_of_unchanged rfl
  | generateRevealSigned now drawn identity => exact failsSparing_of_unchanged rfl

end InitiatorSession

namespace ResponderSession

/-- A failed call against the session before it. The signer of a reveal is not stored. -/
structure FailsSparing (K : Crates) (s : ResponderSession) (op : ResponderOp) : Prop where
  frame : { (machine K s op).next with verifiedPeer := s.verifiedPeer } = s
  verifiedPeer : (machine K s op).next.verifiedPeer = s.verifiedPeer ∨
    ∃ binding, s.channelBinding = some binding ∧ op.AuthenticatedBy K binding ∧
      op.reveal? = none ∧ (machine K s op).next.verifiedPeer = some binding.peerPubkey

theorem failsSparing_of_unchanged {K : Crates} {s : ResponderSession} {op : ResponderOp}
    (h : (machine K s op).next = s) : FailsSparing K s op := by
  constructor
  · rw [h]
  · exact .inl (congrArg _ h)

theorem processOfferAndReply_fails {K : Crates} {now sentAt : UInt64} {drawn : SessionNonce}
    {s : ResponderSession} {offer : MaskedSetOffer} {e : SessionError}
    (h : (s.processOfferAndReply K now sentAt drawn offer).output = .error e) :
    (s.processOfferAndReply K now sentAt drawn offer).next = s := by
  obtain ⟨e, -, he⟩ | ⟨-, he⟩ := processOfferAndReply_cases K now sentAt drawn s offer
  · exact congrArg _ he
  · rw [he] at h
    cases h

theorem processReveal_fails {K : Crates} {now : UInt64} {s : ResponderSession}
    {reveal : IntersectionReveal} {e : SessionError}
    (h : (s.processReveal K now reveal).output = .error e) :
    (s.processReveal K now reveal).next = s := by
  obtain ⟨e, -, he⟩ | ⟨-, -, he⟩ | ⟨-, -, he⟩ | ⟨-, theirs, -, he⟩ :=
    processReveal_cases K now s reveal
  · exact congrArg _ he
  · exact congrArg _ he
  · exact congrArg _ he
  · rw [he] at h
    cases h

theorem processOfferAndReplySigned_failsSparing {K : Crates} {now sentAt : UInt64}
    {drawn : SessionNonce} {identity : PartyIdentity} {s : ResponderSession}
    {signed : SignedWireMessage} {e : SessionError}
    (h : (s.processOfferAndReplySigned K now sentAt drawn identity signed).output = .error e) :
    FailsSparing K s (.processOfferAndReplySigned now sentAt drawn identity signed) := by
  set op : ResponderOp := .processOfferAndReplySigned now sentAt drawn identity signed
  have hnext : (machine K s op).next =
      (s.processOfferAndReplySigned K now sentAt drawn identity signed).next := rfl
  have hnoted : Session.checkSigner K s.channelBinding s.config signed = .ok () →
      (machine K s op).next = s.noteSigner signed → FailsSparing K s op := by
    intro hc hn
    constructor
    · rw [hn]
      rfl
    · rw [hn]
      cases hb : s.channelBinding with
      | none => exact .inl (by simp [noteSigner, hb])
      | some binding =>
        rw [hb] at hc
        have hsigned := Session.checkSigner_bound hc
        exact .inr ⟨binding, rfl, hsigned, rfl, by simp [noteSigner, hb, hsigned.1]⟩
  obtain ⟨e, -, he⟩ | ⟨hc, -, he⟩ | ⟨hc, offer, hm, he⟩ :=
    processOfferAndReplySigned_cases K now sentAt drawn identity s signed
  · exact failsSparing_of_unchanged (hnext.trans (congrArg _ he))
  · exact hnoted hc (hnext.trans (congrArg _ he))
  · rw [he] at hnext h
    have hsame := processOfferAndReply_fails (Except.map_eq_error_iff.mp h)
    exact hnoted hc (hnext.trans hsame)

theorem machine_failsSparing {K : Crates} {s : ResponderSession} {op : ResponderOp}
    {e : SessionError} (h : (machine K s op).output = .error e) : FailsSparing K s op := by
  cases op with
  | processOfferAndReply now sentAt drawn offer =>
    exact failsSparing_of_unchanged (processOfferAndReply_fails (Except.map_eq_error_iff.mp h))
  | processOfferAndReplySigned now sentAt drawn identity signed =>
    exact processOfferAndReplySigned_failsSparing (Except.map_eq_error_iff.mp h)
  | processReveal now reveal =>
    exact failsSparing_of_unchanged (processReveal_fails (Except.map_eq_error_iff.mp h))
  | processRevealSigned now signed =>
    refine failsSparing_of_unchanged ?_
    have hout := Except.map_eq_error_iff.mp h
    change (s.processRevealSigned K now signed).next = s
    obtain ⟨e, -, he⟩ | ⟨-, -, he⟩ | ⟨-, reveal, -, he⟩ := processRevealSigned_cases K now s signed
    · exact congrArg _ he
    · exact congrArg _ he
    · rw [he] at hout ⊢
      exact processReveal_fails hout

end ResponderSession

/-- A failed call of either role changes nothing but the verified peer, to the bound
peer whose signature was checked, and the responder's nonce, for a reply that fails
only in its count. -/
theorem failed_calls_spare_the_session (K : Crates) :
    (∀ (s : InitiatorSession) op e, (InitiatorSession.machine K s op).output = .error e →
      InitiatorSession.FailsSparing K s op) ∧
    ∀ (s : ResponderSession) op e, (ResponderSession.machine K s op).output = .error e →
      ResponderSession.FailsSparing K s op :=
  ⟨fun _ _ _ h => InitiatorSession.machine_failsSparing h,
    fun _ _ _ h => ResponderSession.machine_failsSparing h⟩

/-- An abort that the initiator's peer has signed. -/
def signedAbort (identity : PartyIdentity) : SignedWireMessage :=
  .sign .reference (.abort (.new 1000 "sample" "changed my mind")) identity

/-- A reply to the sample offer in everything but its count. -/
def miscountedReply : MaskedSetReply :=
  .newV2 "sample" [] [] boundInitiator.nonce ⟨filled 9⟩ ⟨1000, 2000⟩

theorem checkSigner_signedAbort {binding : ChannelBinding} {config : SessionConfig}
    {identity : PartyIdentity} (h : binding.peerPubkey = identity.publicIdentity .reference) :
    Session.checkSigner .reference (some binding) config (signedAbort identity) = .ok () := by
  have hpeer : (signedAbort identity).verifyPeer .reference binding.peerPubkey = .ok () :=
    SignedWireMessage.verifyPeer_eq_ok_iff.mpr
      ⟨h.symm, SignedWireMessage.verifySignature_sign (Crates.reference_proper identity) _⟩
  simp [Session.checkSigner, hpeer]

theorem processReplySigned_signedAbort :
    boundInitiator.processReplySigned .reference 1001 (signedAbort sampleIdentityB) =
      ⟨.error (.invalidState "Reply message" "non-reply message type"),
        boundInitiator.noteSigner (signedAbort sampleIdentityB)⟩ := by
  have hc : Session.checkSigner .reference boundInitiator.channelBinding boundInitiator.config
      (signedAbort sampleIdentityB) = .ok () := checkSigner_signedAbort rfl
  rw [InitiatorSession.processReplySigned, hc]
  rfl

theorem processOfferAndReplySigned_signedAbort :
    boundResponder.processOfferAndReplySigned .reference 1001 1001 ⟨filled 9⟩ sampleIdentityB
        (signedAbort sampleIdentityA) =
      ⟨.error (.invalidState "Offer message" "non-offer message type"),
        boundResponder.noteSigner (signedAbort sampleIdentityA)⟩ := by
  have hc : Session.checkSigner .reference boundResponder.channelBinding boundResponder.config
      (signedAbort sampleIdentityA) = .ok () := checkSigner_signedAbort rfl
  rw [ResponderSession.processOfferAndReplySigned, hc]
  rfl

theorem failed_calls_spare_the_session_sample :
    InitiatorSession.FailsSparing .reference boundInitiator
        (.processReplySigned 1001 (signedAbort sampleIdentityB)) ∧
      ResponderSession.FailsSparing .reference boundResponder
        (.processOfferAndReplySigned 1001 1001 ⟨filled 9⟩ sampleIdentityB
          (signedAbort sampleIdentityA)) := by
  refine ⟨(failed_calls_spare_the_session .reference).1 _ _
    (.invalidState "Reply message" "non-reply message type") ?_,
    (failed_calls_spare_the_session .reference).2 _ _
    (.invalidState "Offer message" "non-offer message type") ?_⟩
  · rw [InitiatorSession.machine, processReplySigned_signedAbort]
    rfl
  · rw [ResponderSession.machine, processOfferAndReplySigned_signedAbort]
    rfl

theorem miscountedReply_checks :
    (boundInitiator.afterOffer .reference).ChecksReply 1001 miscountedReply :=
  ⟨rfl, rfl, fun _ _ => ⟨rfl, _, rfl, rfl⟩⟩

/-- Both fields do change in failed calls, on a signed message of the wrong type and
on a reply with the wrong number of elements. -/
theorem failed_calls_change_the_session :
    (InitiatorSession.Bound .reference boundInitiator ∧
      (∃ e, (boundInitiator.processReplySigned .reference 1001
        (signedAbort sampleIdentityB)).output = .error e) ∧
      (boundInitiator.processReplySigned .reference 1001
        (signedAbort sampleIdentityB)).next ≠ boundInitiator) ∧
    (ResponderSession.Bound .reference boundResponder ∧
      (∃ e, (boundResponder.processOfferAndReplySigned .reference 1001 1001 ⟨filled 9⟩
        sampleIdentityB (signedAbort sampleIdentityA)).output = .error e) ∧
      (boundResponder.processOfferAndReplySigned .reference 1001 1001 ⟨filled 9⟩
        sampleIdentityB (signedAbort sampleIdentityA)).next ≠ boundResponder) ∧
    (∃ e, ((boundInitiator.generateOffer .reference).next.processReply .reference 1001
      miscountedReply).output = .error e) ∧
    ((boundInitiator.generateOffer .reference).next.processReply .reference 1001
      miscountedReply).next ≠ (boundInitiator.generateOffer .reference).next := by
  refine ⟨⟨boundInitiator_bound, ⟨_, congrArg _ processReplySigned_signedAbort⟩, ?_⟩,
    ⟨boundResponder_bound, ⟨_, congrArg _ processOfferAndReplySigned_signedAbort⟩, ?_⟩, ?_⟩
  · rw [processReplySigned_signedAbort]
    intro h
    cases congrArg InitiatorSession.verifiedPeer h
  · rw [processOfferAndReplySigned_signedAbort]
    intro h
    cases congrArg ResponderSession.verifiedPeer h
  · have hcount : miscountedReply.initiatorDoublyMasked.length ≠
        (boundInitiator.afterOffer .reference).ourCount := by
      have hlen : samplePartyA.factSet.idList.length = 2 := by decide +kernel
      change 0 ≠ (Session.maskIds _ _ samplePartyA.factSet.idList).length
      simp [hlen]
    change (∃ e, ((boundInitiator.afterOffer .reference).processReply .reference 1001
      miscountedReply).output = .error e) ∧ ((boundInitiator.afterOffer .reference).processReply
        .reference 1001 miscountedReply).next ≠ boundInitiator.afterOffer .reference
    obtain ⟨e, hc, -⟩ | ⟨-, -, he⟩ | ⟨ha, -⟩ := InitiatorSession.processReply_cases .reference 1001
      (boundInitiator.afterOffer .reference) miscountedReply
    · exact absurd miscountedReply_checks (InitiatorSession.not_checksReply_of_error hc)
    · rw [he]
      exact ⟨⟨_, rfl⟩, fun h => nomatch congrArg InitiatorSession.responderNonce h⟩
    · exact absurd ha.count hcount

end BlindOverlap
