import BlindOverlap.Lifecycle

/-!
# Which messages move a session

A session leaves a waiting state on a message it accepts, through a signed or an
unsigned handler. From this follow what channel binding and freshness guarantee
along a run, and what they do not.
-/
namespace BlindOverlap

namespace InitiatorOp

/-- The reply an operation hands to the session, with the clock reading it is
checked at. -/
def reply? : InitiatorOp → Option (UInt64 × MaskedSetReply)
  | .processReply now reply => some (now, reply)
  | .processReplySigned now signed =>
    match signed.message with
    | .reply reply => some (now, reply)
    | _ => none
  | _ => none

/-- A call with a message that the bound peer has signed. -/
def AuthenticatedBy (K : Crates) (binding : ChannelBinding) : InitiatorOp → Prop
  | .processReplySigned _ signed =>
    signed.signerPubkey = binding.peerPubkey ∧ signed.verifySignature K = .ok ()
  | _ => False

end InitiatorOp

namespace InitiatorSession

/-- The only ways to complete. -/
theorem machine_completes {K : Crates} {s : InitiatorSession} {op : InitiatorOp}
    (hs : s.state ≠ .complete) (hn : (machine K s op).next.state = .complete) :
    (∃ now reply, op = .processReply now reply ∧ s.AcceptsReply now reply) ∨
    ∃ now signed reply, op = .processReplySigned now signed ∧
      Session.checkSigner K s.channelBinding s.config signed = .ok () ∧
      signed.message = .reply reply ∧ s.AcceptsReply now reply := by
  have hoffer : (s.generateOffer K).next.state ≠ .complete := by
    obtain ⟨-, he⟩ | ⟨-, he⟩ := generateOffer_cases K s
    · rw [he]
      exact hs
    · rw [he]
      simp [afterOffer]
  cases op with
  | generateOffer => exact absurd hn hoffer
  | generateOfferSigned identity => exact absurd hn hoffer
  | processReply now reply =>
    refine .inl ⟨now, reply, rfl, ?_⟩
    change (s.processReply K now reply).next.state = .complete at hn
    obtain ⟨e, -, he⟩ | ⟨-, -, he⟩ | ⟨ha, -⟩ := processReply_cases K now s reply
    · rw [he] at hn
      exact absurd hn hs
    · rw [he] at hn
      exact absurd hn hs
    · exact ha
  | processReplySigned now signed =>
    change (s.processReplySigned K now signed).next.state = .complete at hn
    obtain ⟨e, -, he⟩ | ⟨-, -, he⟩ | ⟨hc, reply, hm, he⟩ := processReplySigned_cases K now s signed
    · rw [he] at hn
      exact absurd hn hs
    · rw [he] at hn
      exact absurd hn hs
    · refine .inr ⟨now, signed, reply, rfl, hc, hm, ?_⟩
      rw [he] at hn
      obtain ⟨e, -, he⟩ | ⟨-, -, he⟩ | ⟨ha, -⟩ :=
        processReply_cases K now (s.noteSigner signed) reply
      · rw [he] at hn
        exact absurd hn hs
      · rw [he] at hn
        exact absurd hn hs
      · exact ⟨⟨ha.state, ha.sessionId, ha.fresh⟩, ha.count⟩
  | generateReveal now drawn => exact absurd hn hs
  | generateRevealSigned now drawn identity => exact absurd hn hs

/-- A session completes on a reply that it accepts. -/
theorem machine_completes_on {K : Crates} {s : InitiatorSession} {op : InitiatorOp}
    (hs : s.state ≠ .complete) (hn : (machine K s op).next.state = .complete) :
    ∃ now reply, op.reply? = some (now, reply) ∧ s.AcceptsReply now reply := by
  obtain ⟨now, reply, rfl, ha⟩ | ⟨now, signed, reply, rfl, -, hm, ha⟩ := machine_completes hs hn
  · exact ⟨now, reply, rfl, ha⟩
  · exact ⟨now, reply, by simp [InitiatorOp.reply?, hm], ha⟩

/-- The sessions of the constructors that bind a peer. -/
inductive Bound (K : Crates) (s : InitiatorSession) : Prop where
  | withChannelBinding {now drawn sessionId factSet mode identity peer}
      (h : InitiatorSession.withChannelBinding K now drawn sessionId factSet mode identity peer =
        .ok s)
  | fromInvite {verifiedAt now drawn ticket factSet mode identity}
      (h : InitiatorSession.fromInvite K verifiedAt now drawn ticket factSet mode identity = .ok s)
  | fromLease {verifiedAt now drawn lease factSet mode identity}
      (h : InitiatorSession.fromLease K verifiedAt now drawn lease factSet mode identity = .ok s)

theorem Bound.constructed {K : Crates} {s : InitiatorSession} (h : Bound K s) :
    Constructed K s := by
  cases h with
  | withChannelBinding h => exact .withChannelBinding h
  | fromInvite h => exact .fromInvite h
  | fromLease h => exact .fromLease h

theorem Bound.exists_binding {K : Crates} {s : InitiatorSession} (h : Bound K s) :
    ∃ binding, s.channelBinding = some binding := by
  have hbound : ∀ {now drawn sessionId factSet mode identity peer s},
      InitiatorSession.withChannelBinding K now drawn sessionId factSet mode identity peer = .ok s →
        ∃ binding, s.channelBinding = some binding := by
    intro now drawn sessionId factSet mode identity peer s h
    rw [(withChannelBinding_eq_ok_iff.mp h).2]
    exact ⟨_, rfl⟩
  cases h with
  | withChannelBinding h => exact hbound h
  | fromInvite h => exact hbound (withChannelBinding_of_fromInvite h)
  | fromLease h => exact hbound (withChannelBinding_of_fromLease h)

/-- Every step of a run that completes the session is a message of the bound peer. -/
def KeepsBinding (K : Crates) (s : InitiatorSession) (ops : List InitiatorOp) : Prop :=
  ∀ binding ∈ s.channelBinding, ∀ e ∈ (machine K).trace s ops,
    e.before.state ≠ .complete → e.after.state = .complete → e.input.AuthenticatedBy K binding

/-- No unsigned handler is given a message that it accepts. -/
def AcceptsNoUnsigned (K : Crates) (s : InitiatorSession) (ops : List InitiatorOp) : Prop :=
  ∀ e ∈ (machine K).trace s ops, ∀ now reply, e.input = .processReply now reply →
    ¬ e.before.AcceptsReply now reply

theorem authenticated_iff {K : Crates} {binding : ChannelBinding} {s : InitiatorSession}
    (hb : s.channelBinding = some binding) (op : InitiatorOp) :
    (s.state ≠ .complete → (machine K s op).next.state = .complete → op.AuthenticatedBy K binding) ↔
      ∀ now reply, op = .processReply now reply → ¬ s.AcceptsReply now reply := by
  constructor
  · rintro h now reply rfl ha
    have hs : s.state ≠ .complete := by simp [ha.state]
    refine h hs ?_
    change (s.processReply K now reply).next.state = .complete
    rw [processReply_of_accepts ha]
    rfl
  · intro h hs hn
    obtain ⟨now, reply, rfl, ha⟩ | ⟨now, signed, reply, rfl, hc, -, -⟩ := machine_completes hs hn
    · exact absurd ha (h now reply rfl)
    · rw [hb] at hc
      exact Session.checkSigner_bound hc

theorem keepsBinding_iff {K : Crates} {s : InitiatorSession} (h : Bound K s)
    (ops : List InitiatorOp) : s.KeepsBinding K ops ↔ s.AcceptsNoUnsigned K ops := by
  obtain ⟨binding, hb⟩ := h.exists_binding
  have hkeep : ∀ (t : InitiatorSession) op, t.channelBinding = some binding →
      (machine K t op).next.channelBinding = some binding :=
    fun t op ht => (machine_orderly K t op).basis.channelBinding.trans ht
  have hiff : ∀ e ∈ (machine K).trace s ops,
      (e.before.state ≠ .complete → e.after.state = .complete →
        e.input.AuthenticatedBy K binding) ↔
      ∀ now reply, e.input = .processReply now reply → ¬ e.before.AcceptsReply now reply :=
    (machine K).trace_forall hkeep (fun _ op ht => authenticated_iff ht op) hb ops
  constructor
  · intro hk e he
    exact (hiff e he).mp (hk binding hb e he)
  · intro hn binding' hb' e he
    cases hb.symm.trans hb'
    exact (hiff e he).mpr (hn e he)

end InitiatorSession

namespace ResponderOp

/-- The offer an operation hands to the session, with its clock reading. -/
def offer? : ResponderOp → Option (UInt64 × MaskedSetOffer)
  | .processOfferAndReply now _ _ offer => some (now, offer)
  | .processOfferAndReplySigned now _ _ _ signed =>
    match signed.message with
    | .offer offer => some (now, offer)
    | _ => none
  | _ => none

/-- The reveal an operation hands to the session, with its clock reading. -/
def reveal? : ResponderOp → Option (UInt64 × IntersectionReveal)
  | .processReveal now reveal => some (now, reveal)
  | .processRevealSigned now signed =>
    match signed.message with
    | .reveal reveal => some (now, reveal)
    | _ => none
  | _ => none

/-- A call with a message that the bound peer has signed. -/
def AuthenticatedBy (K : Crates) (binding : ChannelBinding) : ResponderOp → Prop
  | .processOfferAndReplySigned _ _ _ _ signed =>
    signed.signerPubkey = binding.peerPubkey ∧ signed.verifySignature K = .ok ()
  | .processRevealSigned _ signed =>
    signed.signerPubkey = binding.peerPubkey ∧ signed.verifySignature K = .ok ()
  | _ => False

end ResponderOp

namespace ResponderSession

theorem processOfferAndReply_moves {K : Crates} {now sentAt : UInt64} {drawn : SessionNonce}
    {s : ResponderSession} {offer : MaskedSetOffer}
    (hn : (s.processOfferAndReply K now sentAt drawn offer).next.state ≠ s.state) :
    s.AcceptsOffer now offer := by
  obtain ⟨e, -, he⟩ | ⟨ha, -⟩ := processOfferAndReply_cases K now sentAt drawn s offer
  · rw [he] at hn
    exact absurd rfl hn
  · exact ha

theorem processReveal_moves {K : Crates} {now : UInt64} {s : ResponderSession}
    {reveal : IntersectionReveal} (hn : (s.processReveal K now reveal).next.state ≠ s.state) :
    s.AcceptsReveal now reveal := by
  obtain ⟨e, -, he⟩ | ⟨-, -, he⟩ | ⟨-, -, he⟩ | ⟨ha, -, -, -⟩ := processReveal_cases K now s reveal
  · rw [he] at hn
    exact absurd rfl hn
  · rw [he] at hn
    exact absurd rfl hn
  · rw [he] at hn
    exact absurd rfl hn
  · exact ha

/-- The only ways to move, each on a message that the session accepts. -/
theorem machine_moves {K : Crates} {s : ResponderSession} {op : ResponderOp}
    (hn : (machine K s op).next.state ≠ s.state) :
    (∃ now sentAt drawn offer, op = .processOfferAndReply now sentAt drawn offer ∧
      s.AcceptsOffer now offer) ∨
    (∃ now sentAt drawn identity signed offer,
      op = .processOfferAndReplySigned now sentAt drawn identity signed ∧
      Session.checkSigner K s.channelBinding s.config signed = .ok () ∧
      signed.message = .offer offer ∧ s.AcceptsOffer now offer) ∨
    (∃ now reveal, op = .processReveal now reveal ∧ s.AcceptsReveal now reveal) ∨
    ∃ now signed reveal, op = .processRevealSigned now signed ∧
      Session.checkSigner K s.channelBinding s.config signed = .ok () ∧
      signed.message = .reveal reveal ∧ s.AcceptsReveal now reveal := by
  cases op with
  | processOfferAndReply now sentAt drawn offer =>
    exact .inl ⟨now, sentAt, drawn, offer, rfl, processOfferAndReply_moves hn⟩
  | processOfferAndReplySigned now sentAt drawn identity signed =>
    change (s.processOfferAndReplySigned K now sentAt drawn identity signed).next.state ≠ _ at hn
    obtain ⟨e, -, he⟩ | ⟨-, -, he⟩ | ⟨hc, offer, hm, he⟩ :=
      processOfferAndReplySigned_cases K now sentAt drawn identity s signed
    · rw [he] at hn
      exact absurd rfl hn
    · rw [he] at hn
      exact absurd rfl hn
    · rw [he] at hn
      have ha : (s.noteSigner signed).AcceptsOffer now offer := processOfferAndReply_moves hn
      exact .inr (.inl ⟨now, sentAt, drawn, identity, signed, offer, rfl, hc, hm,
        ha.state, ha.sessionId, ha.fresh⟩)
  | processReveal now reveal =>
    exact .inr (.inr (.inl ⟨now, reveal, rfl, processReveal_moves hn⟩))
  | processRevealSigned now signed =>
    change (s.processRevealSigned K now signed).next.state ≠ _ at hn
    obtain ⟨e, -, he⟩ | ⟨-, -, he⟩ | ⟨hc, reveal, hm, he⟩ :=
      processRevealSigned_cases K now s signed
    · rw [he] at hn
      exact absurd rfl hn
    · rw [he] at hn
      exact absurd rfl hn
    · rw [he] at hn
      exact .inr (.inr (.inr ⟨now, signed, reveal, rfl, hc, hm, processReveal_moves hn⟩))

/-- A session leaves its first state on an offer that it accepts. -/
theorem machine_replies_to {K : Crates} {s : ResponderSession} {op : ResponderOp}
    (hs : s.state = .created) (hn : (machine K s op).next.state ≠ .created) :
    ∃ now offer, op.offer? = some (now, offer) ∧ s.AcceptsOffer now offer := by
  rw [← hs] at hn
  obtain ⟨now, _, _, offer, rfl, ha⟩ | ⟨now, _, _, _, signed, offer, rfl, -, hm, ha⟩ |
    ⟨now, reveal, rfl, ha⟩ | ⟨now, signed, reveal, rfl, -, -, ha⟩ := machine_moves hn
  · exact ⟨now, offer, rfl, ha⟩
  · exact ⟨now, offer, by simp [ResponderOp.offer?, hm], ha⟩
  · simp [ha.state] at hs
  · simp [ha.state] at hs

/-- A session completes on a reveal that it accepts. -/
theorem machine_completes_on {K : Crates} {s : ResponderSession} {op : ResponderOp}
    (hs : s.state ≠ .complete) (hn : (machine K s op).next.state = .complete) :
    ∃ now reveal, op.reveal? = some (now, reveal) ∧ s.AcceptsReveal now reveal := by
  have hreply : ∀ {K now sentAt drawn offer} {t : ResponderSession}, t.AcceptsOffer now offer →
      (t.processOfferAndReply K now sentAt drawn offer).next.state = .replySent := by
    intro K now sentAt drawn offer t ha
    rw [processOfferAndReply_of_accepts ha]
    rfl
  have hmoves : (machine K s op).next.state ≠ s.state := fun he => hs (he ▸ hn)
  obtain ⟨now, _, _, offer, rfl, ha⟩ |
    ⟨now, sentAt, drawn, identity, signed, offer, rfl, hc, hm, ha⟩ | ⟨now, reveal, rfl, ha⟩ |
    ⟨now, signed, reveal, rfl, -, hm, ha⟩ := machine_moves hmoves
  · rw [machine, Step.mapOk_next, hreply ha] at hn
    cases hn
  · have hnoted : (s.noteSigner signed).AcceptsOffer now offer := ⟨ha.state, ha.sessionId, ha.fresh⟩
    obtain ⟨e, he, -⟩ | ⟨-, hne, -⟩ | ⟨-, offer', hm', he⟩ :=
      processOfferAndReplySigned_cases K now sentAt drawn identity s signed
    · simp [hc] at he
    · exact absurd hm (hne offer)
    · cases hm.symm.trans hm'
      rw [machine, Step.mapOk_next, he, Step.mapOk_next, hreply hnoted] at hn
      cases hn
  · exact ⟨now, reveal, rfl, ha⟩
  · exact ⟨now, reveal, by simp [ResponderOp.reveal?, hm], ha⟩

/-- The sessions of the constructors that bind a peer. -/
inductive Bound (K : Crates) (s : ResponderSession) : Prop where
  | withChannelBinding {drawn sessionId factSet mode identity peer}
      (h : ResponderSession.withChannelBinding K drawn sessionId factSet mode identity peer = .ok s)
  | fromInvite {verifiedAt matchedAt drawn ticket factSet mode identity}
      (h : ResponderSession.fromInvite K verifiedAt matchedAt drawn ticket factSet mode identity =
        .ok s)
  | fromLease {verifiedAt drawn lease factSet mode identity}
      (h : ResponderSession.fromLease K verifiedAt drawn lease factSet mode identity = .ok s)

theorem Bound.constructed {K : Crates} {s : ResponderSession} (h : Bound K s) :
    Constructed K s := by
  cases h with
  | withChannelBinding h => exact .withChannelBinding h
  | fromInvite h => exact .fromInvite h
  | fromLease h => exact .fromLease h

theorem Bound.exists_binding {K : Crates} {s : ResponderSession} (h : Bound K s) :
    ∃ binding, s.channelBinding = some binding := by
  have hbound : ∀ {drawn sessionId factSet mode identity peer s},
      ResponderSession.withChannelBinding K drawn sessionId factSet mode identity peer = .ok s →
        ∃ binding, s.channelBinding = some binding := by
    intro drawn sessionId factSet mode identity peer s h
    rw [(withChannelBinding_eq_ok_iff.mp h).2]
    exact ⟨_, rfl⟩
  cases h with
  | withChannelBinding h => exact hbound h
  | fromInvite h => exact hbound (withChannelBinding_of_fromInvite h)
  | fromLease h => exact hbound (withChannelBinding_of_fromLease h)

/-- Every step of a run that moves the session is a message of the bound peer. -/
def KeepsBinding (K : Crates) (s : ResponderSession) (ops : List ResponderOp) : Prop :=
  ∀ binding ∈ s.channelBinding, ∀ e ∈ (machine K).trace s ops,
    e.after.state ≠ e.before.state → e.input.AuthenticatedBy K binding

/-- No unsigned handler is given a message that it accepts. -/
def AcceptsNoUnsigned (K : Crates) (s : ResponderSession) (ops : List ResponderOp) : Prop :=
  ∀ e ∈ (machine K).trace s ops,
    (∀ now sentAt drawn offer, e.input = .processOfferAndReply now sentAt drawn offer →
      ¬ e.before.AcceptsOffer now offer) ∧
    ∀ now reveal, e.input = .processReveal now reveal → ¬ e.before.AcceptsReveal now reveal

theorem authenticated_iff {K : Crates} {binding : ChannelBinding} {s : ResponderSession}
    (hb : s.channelBinding = some binding) (hw : s.WellFormed) (op : ResponderOp) :
    ((machine K s op).next.state ≠ s.state → op.AuthenticatedBy K binding) ↔
      (∀ now sentAt drawn offer, op = .processOfferAndReply now sentAt drawn offer →
        ¬ s.AcceptsOffer now offer) ∧
      ∀ now reveal, op = .processReveal now reveal → ¬ s.AcceptsReveal now reveal := by
  constructor
  · intro h
    constructor
    · rintro now sentAt drawn offer rfl ha
      refine h ?_
      change (s.processOfferAndReply K now sentAt drawn offer).next.state ≠ s.state
      rw [processOfferAndReply_of_accepts ha, ha.state]
      simp [afterReply]
    · rintro now reveal rfl ha
      obtain ⟨-, theirs, htheirs⟩ := hw.offer_some (by simp [ha.state])
      refine h ?_
      change (s.processReveal K now reveal).next.state ≠ s.state
      rw [processReveal_of_accepts ha htheirs, ha.state]
      simp [completed]
  · rintro ⟨hoffer, hreveal⟩ hn
    obtain ⟨now, _, _, offer, rfl, ha⟩ | ⟨now, _, _, _, signed, offer, rfl, hc, -, -⟩ |
      ⟨now, reveal, rfl, ha⟩ | ⟨now, signed, reveal, rfl, hc, -, -⟩ := machine_moves hn
    · exact absurd ha (hoffer _ _ _ _ rfl)
    · rw [hb] at hc
      exact Session.checkSigner_bound hc
    · exact absurd ha (hreveal _ _ rfl)
    · rw [hb] at hc
      exact Session.checkSigner_bound hc

theorem keepsBinding_iff {K : Crates} {s : ResponderSession} (h : Bound K s)
    (ops : List ResponderOp) : s.KeepsBinding K ops ↔ s.AcceptsNoUnsigned K ops := by
  obtain ⟨binding, hb⟩ := h.exists_binding
  have hkeep : ∀ (t : ResponderSession) op, t.channelBinding = some binding ∧ t.WellFormed →
      (machine K t op).next.channelBinding = some binding ∧ (machine K t op).next.WellFormed :=
    fun t op ht => ⟨(machine_orderly K t op).basis.channelBinding.trans ht.1, ht.2.machine K op⟩
  have hiff : ∀ e ∈ (machine K).trace s ops,
      (e.after.state ≠ e.before.state → e.input.AuthenticatedBy K binding) ↔
      (∀ now sentAt drawn offer, e.input = .processOfferAndReply now sentAt drawn offer →
        ¬ e.before.AcceptsOffer now offer) ∧
      ∀ now reveal, e.input = .processReveal now reveal → ¬ e.before.AcceptsReveal now reveal :=
    (machine K).trace_forall hkeep (fun _ op ht => authenticated_iff ht.1 ht.2 op)
      ⟨hb, h.constructed.wellFormed⟩ ops
  constructor
  · intro hk e he
    exact (hiff e he).mp (hk binding hb e he)
  · intro hn binding' hb' e he
    cases hb.symm.trans hb'
    exact (hiff e he).mpr (hn e he)

end ResponderSession

/-! ## Channel binding -/

/-- A bound session is moved by the bound peer's signed messages only, exactly in
the runs whose unsigned handlers accept nothing: they do not look at the binding. -/
theorem channel_binding_iff (K : Crates) :
    (∀ s, InitiatorSession.Bound K s → ∀ ops,
      s.KeepsBinding K ops ↔ s.AcceptsNoUnsigned K ops) ∧
    ∀ s, ResponderSession.Bound K s → ∀ ops, s.KeepsBinding K ops ↔ s.AcceptsNoUnsigned K ops :=
  ⟨fun _ h ops => InitiatorSession.keepsBinding_iff h ops,
    fun _ h ops => ResponderSession.keepsBinding_iff h ops⟩

def sampleIdentityA : PartyIdentity := .fromSeed (filled 41)

def sampleIdentityB : PartyIdentity := .fromSeed (filled 42)

def boundInitiator : InitiatorSession :=
  { samplePartyA.initiator sampleReadings "sample" with
    config := .withIdentityBinding defaultTtlSecs
    channelBinding := some
      ⟨sampleIdentityA.publicIdentity .reference, sampleIdentityB.publicIdentity .reference⟩ }

def boundResponder : ResponderSession :=
  { samplePartyB.responder "sample" with
    config := .withIdentityBinding defaultTtlSecs
    channelBinding := some
      ⟨sampleIdentityB.publicIdentity .reference, sampleIdentityA.publicIdentity .reference⟩ }

theorem withChannelBinding_boundInitiator :
    InitiatorSession.withChannelBinding .reference sampleReadings.createdAt samplePartyA.drawn
      "sample" samplePartyA.factSet samplePartyA.mode sampleIdentityA
      (sampleIdentityB.publicIdentity .reference) = .ok boundInitiator := by
  have hlen : ¬ samplePartyA.factSet.len > maxSetSize := by decide +kernel
  simp only [InitiatorSession.withChannelBinding, InitiatorSession.withConfig, if_neg hlen]
  rfl

theorem boundInitiator_bound : InitiatorSession.Bound .reference boundInitiator :=
  .withChannelBinding withChannelBinding_boundInitiator

theorem boundResponder_bound : ResponderSession.Bound .reference boundResponder := by
  have hlen : ¬ samplePartyB.factSet.len > maxSetSize := by decide +kernel
  have h : ResponderSession.withChannelBinding .reference samplePartyB.drawn "sample"
      samplePartyB.factSet samplePartyB.mode sampleIdentityB
      (sampleIdentityA.publicIdentity .reference) = .ok boundResponder := by
    simp only [ResponderSession.withChannelBinding, ResponderSession.withConfig, if_neg hlen]
    rfl
  exact .withChannelBinding h

/-- A version 1 reply of nobody in particular, to an offer of two elements. -/
def unsignedReply : MaskedSetReply := .new "sample" [] [filled 0, filled 0]

theorem unsignedReply_accepted {s : InitiatorSession}
    (h : s.originalIds = samplePartyA.factSet.idList) (hid : s.sessionId = "sample")
    (now : UInt64) : (s.afterOffer .reference).AcceptsReply now unsignedReply where
  state := rfl
  sessionId := hid.symm
  fresh := fun _ hfresh => absurd hfresh (by decide)
  count := by
    have hlen : samplePartyA.factSet.idList.length = 2 := by decide +kernel
    simp [InitiatorSession.ourCount, InitiatorSession.afterOffer, h, hlen, unsignedReply,
      MaskedSetReply.new]

/-- Messages of version 2 for the two sessions, each dated and answered in time. -/
def freshOffer : MaskedSetOffer :=
  .newV2 "sample" [filled 0, filled 0] ⟨filled 18⟩ (.new 1000 300)

def freshReply : MaskedSetReply :=
  .newV2 "sample" [filled 0] [filled 0, filled 0] boundInitiator.nonce ⟨filled 34⟩ (.new 1002 300)

def freshReveal : IntersectionReveal :=
  .newV2 "sample" [filled 0] ⟨filled 18⟩ boundResponder.nonce (.new 1004 300)

/-- A run of the initiator that ends on a reply signed by its peer. -/
def signedInitiatorRun : List InitiatorOp :=
  [.generateOffer, .processReplySigned 1003 (.sign .reference (.reply freshReply) sampleIdentityB)]

/-- A run of the responder on an offer and a reveal signed by its peer. -/
def signedResponderRun : List ResponderOp :=
  [.processOfferAndReplySigned 1001 1002 ⟨filled 1⟩ sampleIdentityB
      (.sign .reference (.offer freshOffer) sampleIdentityA),
    .processRevealSigned 1005 (.sign .reference (.reveal freshReveal) sampleIdentityA)]

theorem signedInitiatorRun_completes :
    ((InitiatorSession.machine .reference).final boundInitiator signedInitiatorRun).state =
      .complete := by
  have ha : ((boundInitiator.afterOffer .reference).verified
      (sampleIdentityB.publicIdentity .reference)).AcceptsReply 1003 freshReply :=
    { state := rfl
      sessionId := rfl
      fresh := fun _ _ => ⟨rfl, _, rfl, rfl⟩
      count := (unsignedReply_accepted (s := boundInitiator) rfl rfl 1003).count }
  have hbound : (boundInitiator.afterOffer .reference).channelBinding = some
      ⟨sampleIdentityA.publicIdentity .reference, sampleIdentityB.publicIdentity .reference⟩ := rfl
  have hcall := InitiatorSession.processReplySigned_sign (Crates.reference_proper _) hbound 1003
    freshReply
  rw [InitiatorSession.processReply_of_accepts ha] at hcall
  have hoffered : (InitiatorSession.machine .reference boundInitiator .generateOffer).next =
      boundInitiator.afterOffer .reference := rfl
  rw [signedInitiatorRun, Machine.final_cons, hoffered, Machine.final_cons,
    InitiatorSession.machine, Step.mapOk_next, hcall]
  rfl

theorem signedResponderRun_completes :
    ((ResponderSession.machine .reference).final boundResponder signedResponderRun).state =
      .complete := by
  have hlen : samplePartyB.factSet.idList.length = 1 := by decide +kernel
  let noted := boundResponder.verified (sampleIdentityA.publicIdentity .reference)
  let answered := (noted.noteInitiatorNonce freshOffer).afterReply .reference freshOffer
  have ho : noted.AcceptsOffer 1001 freshOffer := ⟨rfl, rfl, fun _ _ => ⟨_, rfl, rfl⟩⟩
  have hr : answered.AcceptsReveal 1005 freshReveal :=
    { state := rfl
      sessionId := rfl
      fresh := fun _ _ => ⟨rfl, _, rfl, rfl⟩
      count := by
        change 1 = (Session.maskIds .reference sampleSecretB samplePartyB.factSet.idList).length
        rw [Session.maskIds, List.length_map, hlen] }
  have hbound : ∀ s : ResponderSession, s.channelBinding = boundResponder.channelBinding →
      s.channelBinding = some ⟨sampleIdentityB.publicIdentity .reference,
        sampleIdentityA.publicIdentity .reference⟩ := fun _ h => h
  have hoffer := ResponderSession.processOfferAndReplySigned_sign (Crates.reference_proper _)
    (hbound boundResponder rfl) 1001 1002 ⟨filled 1⟩ sampleIdentityB freshOffer
  rw [ResponderSession.processOfferAndReply_of_accepts ho] at hoffer
  have hreveal := ResponderSession.processRevealSigned_sign (Crates.reference_proper _)
    (hbound answered rfl) 1005 freshReveal
  rw [ResponderSession.processReveal_of_accepts hr rfl] at hreveal
  rw [signedResponderRun, Machine.final_cons, ResponderSession.machine, Step.mapOk_next, hoffer,
    Step.mapOk_next, Machine.final_cons, ResponderSession.machine, Step.mapOk_next, hreveal]
  rfl

/-- What the peer has signed moves the sessions, and nothing else did. -/
theorem channel_binding_iff_sample :
    (boundInitiator.KeepsBinding .reference signedInitiatorRun ∧
      ((InitiatorSession.machine .reference).final boundInitiator signedInitiatorRun).state =
        .complete) ∧
    boundResponder.KeepsBinding .reference signedResponderRun ∧
      ((ResponderSession.machine .reference).final boundResponder signedResponderRun).state =
        .complete := by
  refine ⟨⟨?_, signedInitiatorRun_completes⟩, ?_, signedResponderRun_completes⟩
  · refine ((channel_binding_iff .reference).1 _ boundInitiator_bound _).mpr ?_
    intro e he now reply hop
    have hmem := Machine.input_mem_of_mem_trace _ he
    simp [hop, signedInitiatorRun] at hmem
  · refine ((channel_binding_iff .reference).2 _ boundResponder_bound _).mpr ?_
    intro e he
    have hmem := Machine.input_mem_of_mem_trace _ he
    constructor
    · intro now sentAt drawn offer hop
      simp [hop, signedResponderRun] at hmem
    · intro now reveal hop
      simp [hop, signedResponderRun] at hmem

/-- A bound initiator completes on a reply that nobody signed. -/
theorem unsigned_reply_completes_bound_session :
    InitiatorSession.Bound .reference boundInitiator ∧
      ¬ boundInitiator.KeepsBinding .reference
        [.generateOffer, .processReply 1001 unsignedReply] := by
  refine ⟨boundInitiator_bound, fun hkeeps => ?_⟩
  have hnone := (InitiatorSession.keepsBinding_iff boundInitiator_bound _).mp hkeeps
  exact hnone _ (List.mem_cons_of_mem _ List.mem_cons_self) 1001 unsignedReply rfl
    (unsignedReply_accepted rfl rfl 1001)

/-! ## Freshness -/

/-- An echo of a nonce on a message that has not expired. -/
def Echoes (own : SessionNonce) (now : UInt64) (echoed : Option SessionNonce)
    (deadline : Option SessionDeadline) : Prop :=
  echoed = some own ∧ ∃ d, deadline = some d ∧ d.isExpired now = false

theorem isExpired_of_validate {now : UInt64} {d : SessionDeadline}
    (h : d.validate now = .ok ()) : d.isExpired now = false := by
  obtain ⟨-, hnow⟩ := SessionDeadline.validate_eq_ok_iff.mp h
  simp [SessionDeadline.isExpired, hnow]

/-- A run completes on a fresh reply or on one of version 1, as far as replies are valid. -/
def InitiatorSession.CompletesFresh (K : Crates) (s : InitiatorSession)
    (ops : List InitiatorOp) : Prop :=
  ∀ e ∈ (machine K).trace s ops, e.before.state ≠ .complete → e.after.state = .complete →
    ∃ now reply, e.input.reply? = some (now, reply) ∧ (reply.validate = .ok () →
      reply.version = 1 ∨ Echoes s.nonce now reply.initiatorNonce reply.deadline)

theorem InitiatorSession.AcceptsReply.echoes {now : UInt64} {s : InitiatorSession}
    {reply : MaskedSetReply} (ha : s.AcceptsReply now reply)
    (hfresh : s.config.useFreshness = true) (hvalid : reply.validate = .ok ()) :
    reply.version = 1 ∨ Echoes s.nonce now reply.initiatorNonce reply.deadline := by
  obtain ⟨-, hv | ⟨hv, -⟩⟩ := validateMessage_eq_ok_iff.mp hvalid
  · exact .inl hv
  · have hhas := MaskedSetReply.hasFreshness_of_validate hvalid hv
    obtain ⟨hnonce, d, hd, hd'⟩ := ha.fresh hfresh hhas
    exact .inr ⟨hnonce, d, hd, isExpired_of_validate hd'⟩

theorem InitiatorSession.completesFresh (K : Crates) {s : InitiatorSession}
    (h : s.config.useFreshness = true) (ops : List InitiatorOp) : s.CompletesFresh K ops := by
  refine trace_forall_sameBasis K ?_ ops
  intro t op ht hbefore hafter
  obtain ⟨now, reply, hr, ha⟩ := machine_completes_on hbefore hafter
  refine ⟨now, reply, hr, fun hvalid => ?_⟩
  rw [← ht.nonce]
  exact ha.echoes (ht.config ▸ h) hvalid

namespace ResponderSession

/-- A run answers a fresh offer or one of version 1, as far as offers are valid. -/
def AnswersFresh (K : Crates) (s : ResponderSession) (ops : List ResponderOp) : Prop :=
  ∀ e ∈ (machine K).trace s ops, e.before.state = .created → e.after.state ≠ .created →
    ∃ now offer, e.input.offer? = some (now, offer) ∧ (offer.validate = .ok () →
      offer.version = 1 ∨ ∃ nonce, Echoes nonce now offer.nonce offer.deadline)

/-- A run completes on a fresh reveal or on one of version 1, as far as reveals are valid. -/
def CompletesFresh (K : Crates) (s : ResponderSession) (ops : List ResponderOp) : Prop :=
  ∀ e ∈ (machine K).trace s ops, e.before.state ≠ .complete → e.after.state = .complete →
    ∃ now reveal, e.input.reveal? = some (now, reveal) ∧ (reveal.validate = .ok () →
      reveal.version = 1 ∨ Echoes s.nonce now reveal.responderNonce reveal.deadline)

theorem AcceptsOffer.echoes {now : UInt64} {s : ResponderSession} {offer : MaskedSetOffer}
    (ha : s.AcceptsOffer now offer) (hfresh : s.config.useFreshness = true)
    (hvalid : offer.validate = .ok ()) :
    offer.version = 1 ∨ ∃ nonce, Echoes nonce now offer.nonce offer.deadline := by
  obtain ⟨-, hv | ⟨hv, -⟩⟩ := validateMessage_eq_ok_iff.mp hvalid
  · exact .inl hv
  · have hhas := MaskedSetOffer.hasFreshness_of_validate hvalid hv
    obtain ⟨⟨nonce, hn⟩, -⟩ := MaskedSetOffer.exists_of_hasFreshness hhas
    obtain ⟨d, hd, hd'⟩ := ha.fresh hfresh hhas
    exact .inr ⟨nonce, hn, d, hd, isExpired_of_validate hd'⟩

theorem AcceptsReveal.echoes {now : UInt64} {s : ResponderSession} {reveal : IntersectionReveal}
    (ha : s.AcceptsReveal now reveal) (hfresh : s.config.useFreshness = true)
    (hvalid : reveal.validate = .ok ()) :
    reveal.version = 1 ∨ Echoes s.nonce now reveal.responderNonce reveal.deadline := by
  obtain ⟨-, hv | ⟨hv, -⟩⟩ := validateMessage_eq_ok_iff.mp hvalid
  · exact .inl hv
  · have hhas := IntersectionReveal.hasFreshness_of_validate hvalid hv
    obtain ⟨hnonce, d, hd, hd'⟩ := ha.fresh hfresh hhas
    exact .inr ⟨hnonce, d, hd, isExpired_of_validate hd'⟩

theorem answersFresh (K : Crates) {s : ResponderSession} (h : s.config.useFreshness = true)
    (ops : List ResponderOp) : s.AnswersFresh K ops := by
  refine trace_forall_sameBasis K ?_ ops
  intro t op ht hbefore hafter
  obtain ⟨now, offer, ho, ha⟩ := machine_replies_to hbefore hafter
  exact ⟨now, offer, ho, ha.echoes (ht.config ▸ h)⟩

theorem completesFresh (K : Crates) {s : ResponderSession} (h : s.config.useFreshness = true)
    (ops : List ResponderOp) : s.CompletesFresh K ops := by
  refine trace_forall_sameBasis K ?_ ops
  intro t op ht hbefore hafter
  obtain ⟨now, reveal, hr, ha⟩ := machine_completes_on hbefore hafter
  refine ⟨now, reveal, hr, fun hvalid => ?_⟩
  rw [← ht.nonce]
  exact ha.echoes (ht.config ▸ h) hvalid

end ResponderSession

/-- Sessions of version 2 hold valid messages of version 2 to their nonces and
deadlines, and let messages of version 1 pass. -/
theorem fresh_unless_version_one (K : Crates) :
    (∀ s : InitiatorSession, s.config.useFreshness = true → ∀ ops, s.CompletesFresh K ops) ∧
    ∀ s : ResponderSession, s.config.useFreshness = true → ∀ ops,
      s.AnswersFresh K ops ∧ s.CompletesFresh K ops :=
  ⟨fun _ h ops => InitiatorSession.completesFresh K h ops,
    fun _ h ops => ⟨ResponderSession.answersFresh K h ops,
      ResponderSession.completesFresh K h ops⟩⟩

theorem fresh_unless_version_one_sample :
    boundInitiator.CompletesFresh .reference signedInitiatorRun ∧
      boundResponder.AnswersFresh .reference signedResponderRun ∧
        boundResponder.CompletesFresh .reference signedResponderRun :=
  ⟨(fresh_unless_version_one .reference).1 boundInitiator rfl _,
    (fresh_unless_version_one .reference).2 boundResponder rfl _⟩

/-- A session of version 2 completes on a valid reply without nonce and deadline. -/
theorem version_one_reply_completes_fresh_session :
    InitiatorSession.Constructed .reference boundInitiator ∧
      boundInitiator.config.useFreshness = true ∧ unsignedReply.validate = .ok () ∧
      ((InitiatorSession.machine .reference).final boundInitiator
        [.generateOffer, .processReply 1001 unsignedReply]).state = .complete ∧
      unsignedReply.initiatorNonce = none ∧ unsignedReply.deadline = none := by
  refine ⟨boundInitiator_bound.constructed, rfl, by decide, ?_, rfl, rfl⟩
  have haccepted := unsignedReply_accepted (s := boundInitiator) rfl rfl 1001
  change ((boundInitiator.afterOffer .reference).processReply .reference 1001
    unsignedReply).next.state = .complete
  rw [InitiatorSession.processReply_of_accepts haccepted]
  rfl

end BlindOverlap
