import BlindOverlap.Calls
import BlindOverlap.Incoming

/-!
# The limit on elements

A session is refused for a set of more than 4096 identifiers, and what it masks of its own is
as long as that set. What it receives is not counted against the limit: an offer is answered,
and a reply accepted, whatever the length of the peer's own list in it.
-/
namespace BlindOverlap

/-- Lists that are no longer than a set may be. -/
def WithinLimit (lists : List (List MaskedElement)) : Prop :=
  ∀ elements ∈ lists, elements.length ≤ maxSetSize

/-- The lists of elements in a message. -/
def WireMessage.elementLists : WireMessage → List (List MaskedElement)
  | .offer m => [m.maskedElements]
  | .reply m => [m.responderMasked, m.initiatorDoublyMasked]
  | .reveal m => [m.responderDoublyMasked]
  | .abort _ => []

namespace InitiatorSession
variable {K : Crates} {s : InitiatorSession} {op : InitiatorOp}

/-- The lists of elements that a session stores. -/
def elementLists (s : InitiatorSession) : List (List MaskedElement) :=
  s.maskedElements.toList ++ s.responderMasked.toList ++ s.ourDoublyMasked.toList

/-- A call hands in a reply that the checks of the session let pass. -/
def Admits (K : Crates) (s : InitiatorSession) (op : InitiatorOp) (reply : MaskedSetReply) :
    Prop :=
  ∃ now, s.AcceptsReply now reply ∧ (op = .processReply now reply ∨
    ∃ signed, op = .processReplySigned now signed ∧ signed.message = .reply reply ∧
      Session.checkSigner K s.channelBinding s.config signed = .ok ())

/-- Within the limit: what the session stores and sends after a call, and a reply it takes. -/
structure KeepsLimit (e : Event InitiatorSession InitiatorOp (Except SessionError SessionOutput)) :
    Prop where
  stored : WithinLimit e.after.elementLists
  sent : ∀ m, (effectOf e.output).sent = some m → WithinLimit m.elementLists
  rejected : ∀ now reply, e.input.reply? = some (now, reply) →
    ¬ WithinLimit (WireMessage.reply reply).elementLists → ∃ error, e.output = .error error

/-- The state of a session that keeps to the limit. -/
structure Limited (s : InitiatorSession) : Prop where
  wellFormed : s.WellFormed
  own : s.originalIds.length ≤ maxSetSize
  received : ∀ elements ∈ s.responderMasked, elements.length ≤ maxSetSize

/-- The two lists that the session makes of its own set are never too long. -/
theorem withinLimit_elementLists (hw : s.WellFormed) (hown : s.originalIds.length ≤ maxSetSize) :
    WithinLimit s.elementLists ↔ ∀ elements ∈ s.responderMasked, elements.length ≤ maxSetSize := by
  have hmasked : ∀ elements ∈ s.maskedElements, elements.length ≤ maxSetSize := by
    intro elements he
    by_cases hs : s.state = .created
    · simp [hw.masked_none hs] at he
    · obtain ⟨m, hm, hlen⟩ := hw.masked_some hs
      cases hm.symm.trans he
      exact hlen ▸ hown
  have hdoubly : ∀ elements ∈ s.ourDoublyMasked, elements.length ≤ maxSetSize := by
    intro elements he
    by_cases hs : s.state = .complete
    · obtain ⟨m, hm, hlen⟩ := (hw.reply_some hs).2
      cases hm.symm.trans he
      exact hlen ▸ hown
    · simp [(hw.reply_none hs).2] at he
  simp only [WithinLimit, elementLists, List.mem_append, Option.mem_toList]
  constructor
  · exact fun h elements he => h elements (.inl (.inr he))
  · rintro h elements ((he | he) | he)
    · exact hmasked elements he
    · exact h elements he
    · exact hdoubly elements he

theorem admits_of_completes (hs : s.state ≠ .complete)
    (hn : (machine K s op).next.state = .complete) : ∃ reply, s.Admits K op reply := by
  obtain ⟨now, reply, hop, ha⟩ | ⟨now, signed, reply, hop, hc, hm, ha⟩ := machine_completes hs hn
  · exact ⟨reply, now, ha, .inl hop⟩
  · exact ⟨reply, now, ha, .inr ⟨signed, hop, hm, hc⟩⟩

/-- A reply that is let pass is stored. -/
theorem Admits.next_responderMasked {reply : MaskedSetReply} (h : s.Admits K op reply) :
    (machine K s op).next.responderMasked = some reply.responderMasked := by
  obtain ⟨now, ha, rfl | ⟨signed, rfl, hm, hc⟩⟩ := h
  · rw [machine, Step.mapOk_next, processReply_of_accepts ha]
    rfl
  · have hnoted : (s.noteSigner signed).AcceptsReply now reply :=
      ⟨⟨ha.state, ha.sessionId, ha.fresh⟩, ha.count⟩
    simp only [machine, Step.mapOk_next, processReplySigned, hc, hm,
      processReply_of_accepts hnoted]
    rfl

/-- The peer's list changes only when a reply is let pass. -/
theorem next_responderMasked (hw : s.WellFormed) (K : Crates) (op : InitiatorOp) :
    (machine K s op).next.responderMasked = s.responderMasked ∨
      ∃ reply, s.Admits K op reply := by
  cases machine_callCases K s op with
  | quiet _ _ hmasked _ => exact .inl hmasked
  | offers _ hstate _ hnext =>
    have hbefore := (hw.reply_none (by simp [hstate])).1
    have hafter := ((hw.machine K op).reply_none (by simp [hnext])).1
    exact .inl (hafter.trans hbefore.symm)
  | accepts now reply _ haccepts _ hnext _ _ =>
    exact .inr (admits_of_completes (by simp [haccepts.state]) hnext)
  | reveals _ _ _ _ _ _ _ hnext => exact .inl (by rw [hnext])

theorem admits_of_ok {now : UInt64} {reply : MaskedSetReply} {output : SessionOutput}
    (hop : op.reply? = some (now, reply)) (hok : (machine K s op).output = .ok output) :
    s.Admits K op reply := by
  cases op with
  | processReply now' reply' =>
    cases hop
    cases hout : (s.processReply K now reply).output with
    | error e => simp [machine, hout, Except.map] at hok
    | ok r => exact ⟨now, (processReply_ok hout).1, .inl rfl⟩
  | processReplySigned now' signed =>
    cases hout : (s.processReplySigned K now' signed).output with
    | error e => simp [machine, hout, Except.map] at hok
    | ok r =>
      obtain ⟨hc, reply', hm, ha, -⟩ := processReplySigned_ok hout
      simp only [InitiatorOp.reply?, hm, Option.some.injEq, Prod.mk.injEq] at hop
      obtain ⟨rfl, rfl⟩ := hop
      exact ⟨now', ha, .inr ⟨signed, rfl, hm, hc⟩⟩
  | _ => cases hop

theorem Limited.next (h : s.Limited)
    (hcond : ∀ reply, s.Admits K op reply → reply.responderMasked.length ≤ maxSetSize) :
    (machine K s op).next.Limited := by
  refine ⟨h.wellFormed.machine K op, ?_, ?_⟩
  · rw [(machine_orderly K s op).basis.originalIds]
    exact h.own
  · intro elements he
    rcases next_responderMasked h.wellFormed K op with hsame | ⟨reply, hadmits⟩
    · exact h.received elements (hsame ▸ he)
    · cases hadmits.next_responderMasked.symm.trans he
      exact hcond reply hadmits

/-- What is sent is as long as the own set, or as the list of the peer. -/
theorem Limited.sent (h : s.Limited) {m : WireMessage}
    (hm : (effectOf (machine K s op).output).sent = some m) : WithinLimit m.elementLists := by
  cases machine_callCases K s op with
  | quiet heffect _ _ _ => simp [heffect, Effect.silent] at hm
  | offers _ _ heffect _ =>
    simp only [heffect, Effect.sends, Option.some.injEq] at hm
    subst hm
    simpa [WithinLimit, WireMessage.elementLists] using h.own
  | accepts _ _ _ _ heffect _ _ _ => simp [heffect, Effect.reports] at hm
  | reveals now drawn received _ _ hmasked heffect _ =>
    simp only [heffect, Effect.sends, Option.some.injEq] at hm
    subst hm
    simpa [WithinLimit, WireMessage.elementLists] using h.received received hmasked

/-- A call keeps to the limit exactly if the reply that it lets pass does. -/
theorem Limited.keepsLimit_iff (h : s.Limited) (op : InitiatorOp) :
    KeepsLimit ((machine K).fire s op) ↔
      ∀ reply, s.Admits K op reply → reply.responderMasked.length ≤ maxSetSize := by
  constructor
  · intro hkeeps reply hadmits
    have hnext := h.wellFormed.machine K op
    have hown : (machine K s op).next.originalIds.length ≤ maxSetSize :=
      (machine_orderly K s op).basis.originalIds ▸ h.own
    exact (withinLimit_elementLists hnext hown).mp hkeeps.stored _ hadmits.next_responderMasked
  · intro hcond
    have hnext := h.next hcond
    refine ⟨(withinLimit_elementLists hnext.wellFormed hnext.own).mpr hnext.received,
      fun m hm => h.sent hm, fun now reply hop hlong => ?_⟩
    change ∃ error, (machine K s op).output = .error error
    cases hout : (machine K s op).output with
    | error e => exact ⟨e, rfl⟩
    | ok output =>
      have hadmits := admits_of_ok hop hout
      have hlen := hcond reply hadmits
      obtain ⟨now', ha, -⟩ := hadmits
      have hcount : reply.initiatorDoublyMasked.length ≤ maxSetSize := by
        rw [ha.count, h.wellFormed.ourCount (by simp [ha.state])]
        exact h.own
      refine absurd ?_ hlong
      simpa [WithinLimit, WireMessage.elementLists] using And.intro hlen hcount

theorem Constructed.limited (h : Constructed K s) : s.Limited := by
  refine ⟨h.wellFormed, ?_, ?_⟩
  · obtain ⟨_, _, _, factSet, _, _, _, hlen, rfl⟩ := h.exists_created
    exact hlen
  · obtain ⟨_, _, _, _, _, _, _, -, rfl⟩ := h.exists_created
    exact fun elements he => absurd he (Option.not_mem_none elements)

end InitiatorSession

namespace ResponderSession
variable {K : Crates} {s : ResponderSession} {op : ResponderOp}

/-- The lists of elements that a session stores. -/
def elementLists (s : ResponderSession) : List (List MaskedElement) :=
  s.maskedElements.toList ++ s.initiatorDoublyMasked.toList

/-- A call hands in an offer that the checks of the session let pass. -/
def Admits (K : Crates) (s : ResponderSession) (op : ResponderOp) (offer : MaskedSetOffer) :
    Prop :=
  ∃ now sentAt drawn, s.AcceptsOffer now offer ∧
    (op = .processOfferAndReply now sentAt drawn offer ∨
      ∃ identity signed, op = .processOfferAndReplySigned now sentAt drawn identity signed ∧
        signed.message = .offer offer ∧
        Session.checkSigner K s.channelBinding s.config signed = .ok ())

/-- Within the limit: what the session stores and sends after a call, and an offer it takes. -/
structure KeepsLimit (e : Event ResponderSession ResponderOp (Except SessionError SessionOutput)) :
    Prop where
  stored : WithinLimit e.after.elementLists
  sent : ∀ m, (effectOf e.output).sent = some m → WithinLimit m.elementLists
  rejected : ∀ now offer, e.input.offer? = some (now, offer) →
    ¬ WithinLimit (WireMessage.offer offer).elementLists → ∃ error, e.output = .error error

/-- The state of a session that keeps to the limit. -/
structure Limited (s : ResponderSession) : Prop where
  wellFormed : s.WellFormed
  own : s.originalIds.length ≤ maxSetSize
  received : ∀ elements ∈ s.initiatorDoublyMasked, elements.length ≤ maxSetSize

theorem withinLimit_elementLists (hw : s.WellFormed) (hown : s.originalIds.length ≤ maxSetSize) :
    WithinLimit s.elementLists ↔
      ∀ elements ∈ s.initiatorDoublyMasked, elements.length ≤ maxSetSize := by
  have hmasked : ∀ elements ∈ s.maskedElements, elements.length ≤ maxSetSize := by
    intro elements he
    by_cases hs : s.state = .created
    · simp [(hw.offer_none hs).1] at he
    · obtain ⟨m, hm, hlen⟩ := (hw.offer_some hs).1
      cases hm.symm.trans he
      exact hlen ▸ hown
  simp only [WithinLimit, elementLists, List.mem_append, Option.mem_toList]
  constructor
  · exact fun h elements he => h elements (.inr he)
  · rintro h elements (he | he)
    · exact hmasked elements he
    · exact h elements he

theorem admits_of_leaves (hs : s.state = .created)
    (hn : (machine K s op).next.state ≠ .created) : ∃ offer, s.Admits K op offer := by
  rw [← hs] at hn
  obtain ⟨now, sentAt, drawn, offer, hop, ha⟩ |
    ⟨now, sentAt, drawn, identity, signed, offer, hop, hc, hm, ha⟩ | ⟨now, reveal, -, ha⟩ |
    ⟨now, signed, reveal, -, -, -, ha⟩ := machine_moves hn
  · exact ⟨offer, now, sentAt, drawn, ha, .inl hop⟩
  · exact ⟨offer, now, sentAt, drawn, ha, .inr ⟨identity, signed, hop, hm, hc⟩⟩
  · simp [ha.state] at hs
  · simp [ha.state] at hs

/-- An offer that is let pass is masked and stored. -/
theorem Admits.next_initiatorDoublyMasked {offer : MaskedSetOffer} (h : s.Admits K op offer) :
    (machine K s op).next.initiatorDoublyMasked =
      some (Session.maskReceived K s.secret offer.maskedElements) := by
  obtain ⟨now, sentAt, drawn, ha, rfl | ⟨identity, signed, rfl, hm, hc⟩⟩ := h
  · rw [machine, Step.mapOk_next, processOfferAndReply_of_accepts ha]
    rfl
  · have hnoted : (s.noteSigner signed).AcceptsOffer now offer :=
      ⟨ha.state, ha.sessionId, ha.fresh⟩
    simp only [machine, Step.mapOk_next, processOfferAndReplySigned, hc, hm,
      processOfferAndReply_of_accepts hnoted]
    rfl

theorem next_initiatorDoublyMasked (K : Crates) (s : ResponderSession) (op : ResponderOp) :
    (machine K s op).next.initiatorDoublyMasked = s.initiatorDoublyMasked ∨
      ∃ offer, s.Admits K op offer := by
  cases machine_callCases K s op with
  | quiet _ _ hmasked => exact .inl hmasked
  | replies _ _ _ _ _ haccepts _ hnext _ =>
    exact .inr (admits_of_leaves haccepts.state (by simp [hnext]))
  | completes _ _ _ _ _ _ _ hnext => exact .inl (by rw [hnext]; rfl)

theorem admits_of_ok {now : UInt64} {offer : MaskedSetOffer} {output : SessionOutput}
    (hop : op.offer? = some (now, offer)) (hok : (machine K s op).output = .ok output) :
    s.Admits K op offer := by
  cases op with
  | processOfferAndReply now' sentAt drawn offer' =>
    cases hop
    cases hout : (s.processOfferAndReply K now sentAt drawn offer).output with
    | error e => simp [machine, hout, Except.map] at hok
    | ok r => exact ⟨now, sentAt, drawn, (processOfferAndReply_ok hout).1, .inl rfl⟩
  | processOfferAndReplySigned now' sentAt drawn identity signed =>
    cases hout : (s.processOfferAndReplySigned K now' sentAt drawn identity signed).output with
    | error e => simp [machine, hout, Except.map] at hok
    | ok r =>
      obtain ⟨hc, offer', hm, ha, -⟩ := processOfferAndReplySigned_ok hout
      simp only [ResponderOp.offer?, hm, Option.some.injEq, Prod.mk.injEq] at hop
      obtain ⟨rfl, rfl⟩ := hop
      exact ⟨now', sentAt, drawn, ha, .inr ⟨identity, signed, rfl, hm, hc⟩⟩
  | _ => cases hop

theorem Limited.next (h : s.Limited)
    (hcond : ∀ offer, s.Admits K op offer → offer.maskedElements.length ≤ maxSetSize) :
    (machine K s op).next.Limited := by
  refine ⟨h.wellFormed.machine K op, ?_, ?_⟩
  · rw [(machine_orderly K s op).basis.originalIds]
    exact h.own
  · intro elements he
    rcases next_initiatorDoublyMasked K s op with hsame | ⟨offer, hadmits⟩
    · exact h.received elements (hsame ▸ he)
    · cases hadmits.next_initiatorDoublyMasked.symm.trans he
      rw [Session.length_maskReceived]
      exact hcond offer hadmits

/-- What is sent is as long as the own set, or as the list of the peer. -/
theorem Limited.sent (h : s.Limited)
    (hcond : ∀ offer, s.Admits K op offer → offer.maskedElements.length ≤ maxSetSize)
    {m : WireMessage} (hm : (effectOf (machine K s op).output).sent = some m) :
    WithinLimit m.elementLists := by
  have hnext := h.next hcond
  cases machine_callCases K s op with
  | quiet heffect _ _ => simp [heffect, Effect.silent] at hm
  | replies _ _ _ offer _ _ heffect _ hmasked =>
    simp only [heffect, Effect.sends, Option.some.injEq] at hm
    subst hm
    have hlen := hnext.received _ hmasked
    simpa [WithinLimit, WireMessage.elementLists] using And.intro h.own hlen
  | completes _ _ _ _ _ _ heffect _ => simp [heffect, Effect.reports] at hm

/-- A call keeps to the limit exactly if the offer that it lets pass does. -/
theorem Limited.keepsLimit_iff (h : s.Limited) (op : ResponderOp) :
    KeepsLimit ((machine K).fire s op) ↔
      ∀ offer, s.Admits K op offer → offer.maskedElements.length ≤ maxSetSize := by
  constructor
  · intro hkeeps offer hadmits
    have hnext := h.wellFormed.machine K op
    have hown : (machine K s op).next.originalIds.length ≤ maxSetSize :=
      (machine_orderly K s op).basis.originalIds ▸ h.own
    have hlen := (withinLimit_elementLists hnext hown).mp hkeeps.stored _
      hadmits.next_initiatorDoublyMasked
    rwa [Session.length_maskReceived] at hlen
  · intro hcond
    have hnext := h.next hcond
    refine ⟨(withinLimit_elementLists hnext.wellFormed hnext.own).mpr hnext.received,
      fun m hm => h.sent hcond hm, fun now offer hop hlong => ?_⟩
    change ∃ error, (machine K s op).output = .error error
    cases hout : (machine K s op).output with
    | error e => exact ⟨e, rfl⟩
    | ok output =>
      have hlen := hcond offer (admits_of_ok hop hout)
      refine absurd ?_ hlong
      simpa [WithinLimit, WireMessage.elementLists] using hlen

theorem Constructed.limited (h : Constructed K s) : s.Limited := by
  refine ⟨h.wellFormed, ?_, ?_⟩
  · obtain ⟨_, _, factSet, _, _, _, hlen, rfl⟩ := h.exists_created
    exact hlen
  · obtain ⟨_, _, _, _, _, _, -, rfl⟩ := h.exists_created
    exact fun elements he => absurd he (Option.not_mem_none elements)

end ResponderSession

/-- Along every run of a session everything stored and sent keeps to the limit, and longer
offers and replies are rejected, exactly if no longer list of the peer's own elements passes
the checks of the session, which do not count them. -/
theorem element_limit_iff (K : Crates) :
    (∀ s, InitiatorSession.Constructed K s → WithinLimit s.elementLists ∧ ∀ ops,
      (∀ e ∈ (InitiatorSession.machine K).trace s ops, InitiatorSession.KeepsLimit e) ↔
        ∀ e ∈ (InitiatorSession.machine K).trace s ops, ∀ reply,
          e.before.Admits K e.input reply → reply.responderMasked.length ≤ maxSetSize) ∧
    ∀ s, ResponderSession.Constructed K s → WithinLimit s.elementLists ∧ ∀ ops,
      (∀ e ∈ (ResponderSession.machine K).trace s ops, ResponderSession.KeepsLimit e) ↔
        ∀ e ∈ (ResponderSession.machine K).trace s ops, ∀ offer,
          e.before.Admits K e.input offer → offer.maskedElements.length ≤ maxSetSize := by
  constructor
  · intro s hs
    have h := hs.limited
    refine ⟨(InitiatorSession.withinLimit_elementLists h.wellFormed h.own).mpr h.received,
      fun ops => ?_⟩
    exact (InitiatorSession.machine K).trace_forall_iff (fun _ _ ht hcond => ht.next hcond)
      (fun _ op ht => ht.keepsLimit_iff op) h ops
  · intro s hs
    have h := hs.limited
    refine ⟨(ResponderSession.withinLimit_elementLists h.wellFormed h.own).mpr h.received,
      fun ops => ?_⟩
    exact (ResponderSession.machine K).trace_forall_iff (fun _ _ ht hcond => ht.next hcond)
      (fun _ op ht => ht.keepsLimit_iff op) h ops

/-- Runs that end on messages with short lists. -/
theorem element_limit_iff_sample :
    (∀ e ∈ (InitiatorSession.machine .reference).trace boundInitiator signedInitiatorRun,
      InitiatorSession.KeepsLimit e) ∧
    ∀ e ∈ (ResponderSession.machine .reference).trace boundResponder signedResponderRun,
      ResponderSession.KeepsLimit e := by
  obtain ⟨hinitiator, hresponder⟩ := element_limit_iff .reference
  constructor
  · refine ((hinitiator boundInitiator boundInitiator_bound.constructed).2 _).mpr ?_
    rintro e he reply ⟨now, -, hop⟩
    have hmem := Machine.input_mem_of_mem_trace _ he
    have hreply : reply = freshReply := by
      rcases hop with hop | ⟨signed, hop, hm, -⟩
      · simp [hop, signedInitiatorRun] at hmem
      · simp only [hop, signedInitiatorRun, List.mem_cons, List.not_mem_nil, or_false,
          reduceCtorEq, false_or, InitiatorOp.processReplySigned.injEq] at hmem
        rw [hmem.2] at hm
        exact (WireMessage.reply.inj hm).symm
    rw [hreply]
    decide
  · refine ((hresponder boundResponder boundResponder_bound.constructed).2 _).mpr ?_
    rintro e he offer ⟨now, sentAt, drawn, -, hop⟩
    have hmem := Machine.input_mem_of_mem_trace _ he
    have hoffer : offer = freshOffer := by
      rcases hop with hop | ⟨identity, signed, hop, hm, -⟩
      · simp [hop, signedResponderRun] at hmem
      · simp only [hop, signedResponderRun, List.mem_cons, List.not_mem_nil, or_false,
          reduceCtorEq, ResponderOp.processOfferAndReplySigned.injEq] at hmem
        rw [hmem.2.2.2.2] at hm
        exact (WireMessage.offer.inj hm).symm
    rw [hoffer]
    decide

/-- A version 1 reply with more elements of the peer's own than a set may have. -/
def oversizedReply : MaskedSetReply :=
  .new "sample" (List.replicate 4097 (filled 0)) [filled 0, filled 0]

/-- A session stores a list that is longer than its own set may be. -/
theorem oversized_reply_stored :
    InitiatorSession.Constructed .reference boundInitiator ∧ oversizedReply.validate = .ok () ∧
      ¬ WithinLimit ((InitiatorSession.machine .reference).final boundInitiator
        [.generateOffer, .processReply 1001 oversizedReply]).elementLists := by
  refine ⟨boundInitiator_bound.constructed, rfl, fun hwithin => ?_⟩
  have haccepted := unsignedReply_accepted (s := boundInitiator) rfl rfl 1001
  have hlegacy : oversizedReply.hasFreshness = false := rfl
  have ha : (boundInitiator.afterOffer .reference).AcceptsReply 1001 oversizedReply :=
    { state := haccepted.state, sessionId := haccepted.sessionId, count := haccepted.count
      fresh := fun _ hfresh => absurd hfresh (by rw [hlegacy]; decide) }
  have hstored : ((boundInitiator.afterOffer .reference).processReply .reference 1001
      oversizedReply).next.responderMasked = some oversizedReply.responderMasked := by
    rw [InitiatorSession.processReply_of_accepts ha]
    rfl
  have hlen := hwithin oversizedReply.responderMasked (by
    simp only [InitiatorSession.elementLists, List.mem_append, Option.mem_toList]
    exact .inl (.inr hstored))
  rw [oversizedReply, MaskedSetReply.new, List.length_replicate] at hlen
  exact absurd hlen (by decide)

end BlindOverlap
