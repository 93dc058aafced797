import BlindOverlap.InitiatorSession

/-!
# The life of an initiator's session

Which optional fields the session holds in which state, and that every operation
keeps to this on any message.
-/
namespace BlindOverlap

namespace InitiatorState

/-- The moves of an initiator's session. -/
inductive Moves : InitiatorState → InitiatorState → Prop where
  | offer : Moves .created .awaitingReply
  | reply : Moves .awaitingReply .complete

theorem Moves.ne_created {a b : InitiatorState} (h : a.Moves b) : b ≠ .created := by
  cases h <;> simp

theorem Moves.ne_complete {a b : InitiatorState} (h : a.Moves b) : a ≠ .complete := by
  cases h <;> simp

end InitiatorState

namespace InitiatorSession

/-- The sessions that the constructors return. -/
inductive Constructed (K : Crates) (s : InitiatorSession) : Prop where
  | new {now drawn sessionId factSet mode}
      (h : InitiatorSession.new now drawn sessionId factSet mode = .ok s)
  | withConfig {now drawn sessionId factSet mode config}
      (h : InitiatorSession.withConfig now drawn sessionId factSet mode config = .ok s)
  | withChannelBinding {now drawn sessionId factSet mode identity peer}
      (h : InitiatorSession.withChannelBinding K now drawn sessionId factSet mode identity peer =
        .ok s)
  | fromInvite {verifiedAt now drawn ticket factSet mode identity}
      (h : InitiatorSession.fromInvite K verifiedAt now drawn ticket factSet mode identity = .ok s)
  | fromLease {verifiedAt now drawn lease factSet mode identity}
      (h : InitiatorSession.fromLease K verifiedAt now drawn lease factSet mode identity = .ok s)
  | withSecret {now nonce sessionId factSet mode secret}
      (h : InitiatorSession.withSecret now nonce sessionId factSet mode secret = .ok s)

/-- The fields that no operation may change. -/
structure SameBasis (s t : InitiatorSession) : Prop where
  sessionId : t.sessionId = s.sessionId
  secret : t.secret = s.secret
  factSet : t.factSet = s.factSet
  originalIds : t.originalIds = s.originalIds
  mode : t.mode = s.mode
  config : t.config = s.config
  nonce : t.nonce = s.nonce
  deadline : t.deadline = s.deadline
  channelBinding : t.channelBinding = s.channelBinding

theorem SameBasis.refl (s : InitiatorSession) : SameBasis s s :=
  ⟨rfl, rfl, rfl, rfl, rfl, rfl, rfl, rfl, rfl⟩

theorem SameBasis.trans {s t u : InitiatorSession} (h : SameBasis s t) (h' : SameBasis t u) :
    SameBasis s u where
  sessionId := h'.sessionId.trans h.sessionId
  secret := h'.secret.trans h.secret
  factSet := h'.factSet.trans h.factSet
  originalIds := h'.originalIds.trans h.originalIds
  mode := h'.mode.trans h.mode
  config := h'.config.trans h.config
  nonce := h'.nonce.trans h.nonce
  deadline := h'.deadline.trans h.deadline
  channelBinding := h'.channelBinding.trans h.channelBinding

/-- Which optional fields are present in which state, and how long they are. -/
structure WellFormed (s : InitiatorSession) : Prop where
  masked_none : s.state = .created → s.maskedElements = none
  masked_some : s.state ≠ .created →
    ∃ m, s.maskedElements = some m ∧ m.length = s.originalIds.length
  reply_none : s.state ≠ .complete → s.responderMasked = none ∧ s.ourDoublyMasked = none
  reply_some : s.state = .complete → (∃ m, s.responderMasked = some m) ∧
    ∃ m, s.ourDoublyMasked = some m ∧ m.length = s.originalIds.length

/-- The sessions that the constructors return, by the clock reading they start from. -/
inductive ConstructedAt (K : Crates) (now : UInt64) (s : InitiatorSession) : Prop where
  | new {drawn sessionId factSet mode}
      (h : InitiatorSession.new now drawn sessionId factSet mode = .ok s)
  | withConfig {drawn sessionId factSet mode config}
      (h : InitiatorSession.withConfig now drawn sessionId factSet mode config = .ok s)
  | withChannelBinding {drawn sessionId factSet mode identity peer}
      (h : InitiatorSession.withChannelBinding K now drawn sessionId factSet mode identity peer =
        .ok s)
  | fromInvite {verifiedAt drawn ticket factSet mode identity}
      (h : InitiatorSession.fromInvite K verifiedAt now drawn ticket factSet mode identity = .ok s)
  | fromLease {verifiedAt drawn lease factSet mode identity}
      (h : InitiatorSession.fromLease K verifiedAt now drawn lease factSet mode identity = .ok s)
  | withSecret {nonce sessionId factSet mode secret}
      (h : InitiatorSession.withSecret now nonce sessionId factSet mode secret = .ok s)

theorem Constructed.exists_at {K : Crates} {s : InitiatorSession} (h : Constructed K s) :
    ∃ now, ConstructedAt K now s := by
  cases h with
  | new h => exact ⟨_, .new h⟩
  | withConfig h => exact ⟨_, .withConfig h⟩
  | withChannelBinding h => exact ⟨_, .withChannelBinding h⟩
  | fromInvite h => exact ⟨_, .fromInvite h⟩
  | fromLease h => exact ⟨_, .fromLease h⟩
  | withSecret h => exact ⟨_, .withSecret h⟩

/-- Every constructor starts from the first state, with a deadline from its clock reading. -/
theorem ConstructedAt.exists_created {K : Crates} {now : UInt64} {s : InitiatorSession}
    (h : ConstructedAt K now s) :
    ∃ drawn sessionId factSet mode config binding, factSet.len ≤ maxSetSize ∧
      s = { created now drawn sessionId factSet mode config with channelBinding := binding } := by
  have hbound : ∀ {drawn sessionId factSet mode identity peer},
      InitiatorSession.withChannelBinding K now drawn sessionId factSet mode identity peer = .ok s →
        ∃ drawn sessionId factSet mode config binding, factSet.len ≤ maxSetSize ∧
          s = { created now drawn sessionId factSet mode config with
            channelBinding := binding } := by
    intro drawn sessionId factSet mode identity peer h
    exact ⟨_, _, _, _, _, _, withChannelBinding_eq_ok_iff.mp h⟩
  cases h with
  | new h =>
    obtain ⟨hlen, rfl⟩ := withConfig_eq_ok_iff.mp h
    exact ⟨_, _, _, _, _, none, hlen, rfl⟩
  | withConfig h =>
    obtain ⟨hlen, rfl⟩ := withConfig_eq_ok_iff.mp h
    exact ⟨_, _, _, _, _, none, hlen, rfl⟩
  | withChannelBinding h => exact hbound h
  | fromInvite h => exact hbound (withChannelBinding_of_fromInvite h)
  | fromLease h => exact hbound (withChannelBinding_of_fromLease h)
  | @withSecret nonce sessionId factSet mode secret h =>
    unfold InitiatorSession.withSecret at h
    split_ifs at h with hlen
    exact ⟨⟨secret, nonce⟩, sessionId, factSet, mode, _, none, not_lt.mp hlen,
      (Except.ok.inj h).symm⟩

theorem Constructed.exists_created {K : Crates} {s : InitiatorSession} (h : Constructed K s) :
    ∃ now drawn sessionId factSet mode config binding, factSet.len ≤ maxSetSize ∧
      s = { created now drawn sessionId factSet mode config with channelBinding := binding } := by
  obtain ⟨now, hat⟩ := h.exists_at
  exact ⟨now, hat.exists_created⟩

theorem Constructed.wellFormed {K : Crates} {s : InitiatorSession} (h : Constructed K s) :
    s.WellFormed := by
  obtain ⟨_, _, _, _, _, _, _, -, rfl⟩ := h.exists_created
  exact ⟨fun _ => rfl, fun h => absurd rfl h, fun _ => ⟨rfl, rfl⟩, fun h => nomatch h⟩

theorem WellFormed.noteSigner {s : InitiatorSession} (h : s.WellFormed)
    (signed : SignedWireMessage) : (s.noteSigner signed).WellFormed :=
  ⟨h.masked_none, h.masked_some, h.reply_none, h.reply_some⟩

theorem WellFormed.ourCount {s : InitiatorSession} (h : s.WellFormed) (hs : s.state ≠ .created) :
    s.ourCount = s.originalIds.length := by
  obtain ⟨m, hm, hlen⟩ := h.masked_some hs
  simp [InitiatorSession.ourCount, hm, hlen]

/-- One call handling a reply keeps the invariant. -/
theorem WellFormed.processReply {s : InitiatorSession} (h : s.WellFormed) (K : Crates)
    (now : UInt64) (reply : MaskedSetReply) : (s.processReply K now reply).next.WellFormed := by
  obtain ⟨e, -, he⟩ | ⟨-, -, he⟩ | ⟨ha, he⟩ := processReply_cases K now s reply
  · rw [he]
    exact h
  · rw [he]
    exact ⟨h.masked_none, h.masked_some, h.reply_none, h.reply_some⟩
  · have hs : s.state ≠ .created := by simp [ha.state]
    rw [he]
    exact ⟨fun hn => (nomatch hn), fun _ => h.masked_some hs, fun hn => absurd rfl hn,
      fun _ => ⟨⟨_, rfl⟩, _, rfl, ha.count.trans (h.ourCount hs)⟩⟩

theorem WellFormed.machine {s : InitiatorSession} (h : s.WellFormed) (K : Crates)
    (op : InitiatorOp) : (machine K s op).next.WellFormed := by
  have hoffer : (s.generateOffer K).next.WellFormed := by
    obtain ⟨-, he⟩ | ⟨hs, he⟩ := generateOffer_cases K s
    · rw [he]
      exact h
    · rw [he]
      exact ⟨fun hn => (nomatch hn), fun _ => ⟨_, rfl, Session.length_maskIds ..⟩,
        fun _ => h.reply_none (by simp [hs]), fun hn => nomatch hn⟩
  cases op with
  | generateOffer => exact hoffer
  | generateOfferSigned identity => exact hoffer
  | processReply now reply => exact h.processReply K now reply
  | processReplySigned now signed =>
    change (s.processReplySigned K now signed).next.WellFormed
    obtain ⟨e, -, he⟩ | ⟨-, -, he⟩ | ⟨-, reply, -, he⟩ := processReplySigned_cases K now s signed
    · rw [he]
      exact h
    · rw [he]
      exact h.noteSigner signed
    · rw [he]
      exact (h.noteSigner signed).processReply K now reply
  | generateReveal now drawn => exact h
  | generateRevealSigned now drawn identity => exact h

/-- What a call does to the state, whatever the message. -/
structure Orderly (s t : InitiatorSession) : Prop where
  moves : t.state = s.state ∨ s.state.Moves t.state
  basis : SameBasis s t

theorem processReply_orderly (K : Crates) (now : UInt64) (s : InitiatorSession)
    (reply : MaskedSetReply) : Orderly s (s.processReply K now reply).next := by
  obtain ⟨e, -, he⟩ | ⟨-, -, he⟩ | ⟨ha, he⟩ := processReply_cases K now s reply
  · rw [he]
    exact ⟨.inl rfl, .refl s⟩
  · rw [he]
    exact ⟨.inl rfl, ⟨rfl, rfl, rfl, rfl, rfl, rfl, rfl, rfl, rfl⟩⟩
  · rw [he]
    exact ⟨.inr (ha.state ▸ .reply), ⟨rfl, rfl, rfl, rfl, rfl, rfl, rfl, rfl, rfl⟩⟩

theorem machine_orderly (K : Crates) (s : InitiatorSession) (op : InitiatorOp) :
    Orderly s (machine K s op).next := by
  have hoffer : Orderly s (s.generateOffer K).next := by
    obtain ⟨-, he⟩ | ⟨hs, he⟩ := generateOffer_cases K s
    · rw [he]
      exact ⟨.inl rfl, .refl s⟩
    · rw [he]
      exact ⟨.inr (hs ▸ .offer), ⟨rfl, rfl, rfl, rfl, rfl, rfl, rfl, rfl, rfl⟩⟩
  cases op with
  | generateOffer => exact hoffer
  | generateOfferSigned identity => exact hoffer
  | processReply now reply => exact processReply_orderly K now s reply
  | processReplySigned now signed =>
    change Orderly s (s.processReplySigned K now signed).next
    have hnoted : SameBasis s (s.noteSigner signed) :=
      ⟨rfl, rfl, rfl, rfl, rfl, rfl, rfl, rfl, rfl⟩
    obtain ⟨e, -, he⟩ | ⟨-, -, he⟩ | ⟨-, reply, -, he⟩ := processReplySigned_cases K now s signed
    · rw [he]
      exact ⟨.inl rfl, .refl s⟩
    · rw [he]
      exact ⟨.inl rfl, hnoted⟩
    · rw [he]
      have h := processReply_orderly K now (s.noteSigner signed) reply
      exact ⟨h.moves, hnoted.trans h.basis⟩
  | generateReveal now drawn => exact ⟨.inl rfl, .refl s⟩
  | generateRevealSigned now drawn identity => exact ⟨.inl rfl, .refl s⟩

theorem generateOffer_ok {K : Crates} {s : InitiatorSession} {m : MaskedSetOffer}
    (h : (s.generateOffer K).output = .ok m) :
    s.state = .created ∧ (s.generateOffer K).next.state = .awaitingReply := by
  obtain ⟨-, he⟩ | ⟨hs, he⟩ := generateOffer_cases K s
  · simp [he] at h
  · exact ⟨hs, by rw [he]; rfl⟩

theorem processReply_ok {K : Crates} {now : UInt64} {s : InitiatorSession} {reply : MaskedSetReply}
    {r : PsiResult} (h : (s.processReply K now reply).output = .ok r) :
    s.AcceptsReply now reply ∧ (s.processReply K now reply).next.state = .complete := by
  obtain ⟨e, -, he⟩ | ⟨-, -, he⟩ | ⟨ha, he⟩ := processReply_cases K now s reply
  · simp [he] at h
  · simp [he] at h
  · exact ⟨ha, by rw [he]; rfl⟩

theorem processReplySigned_ok {K : Crates} {now : UInt64} {s : InitiatorSession}
    {signed : SignedWireMessage} {r : PsiResult}
    (h : (s.processReplySigned K now signed).output = .ok r) :
    Session.checkSigner K s.channelBinding s.config signed = .ok () ∧
      ∃ reply, signed.message = .reply reply ∧ s.AcceptsReply now reply ∧
        (s.processReplySigned K now signed).next.state = .complete := by
  obtain ⟨e, -, he⟩ | ⟨-, -, he⟩ | ⟨hc, reply, hm, he⟩ := processReplySigned_cases K now s signed
  · simp [he] at h
  · simp [he] at h
  · rw [he] at h ⊢
    obtain ⟨ha, hn⟩ := processReply_ok h
    exact ⟨hc, reply, hm, ⟨⟨ha.state, ha.sessionId, ha.fresh⟩, ha.count⟩, hn⟩

/-- An offer is made in the first state only, which it leaves. -/
theorem machine_offer {K : Crates} {s : InitiatorSession} {op : InitiatorOp}
    (h : (succeeded SessionOutput.offer? (machine K s op).output).isSome = true) :
    s.state = .created ∧ (machine K s op).next.state = .awaitingReply := by
  cases op with
  | generateOffer =>
    obtain ⟨m, hm, -⟩ := succeeded_map_isSome h
    exact generateOffer_ok hm
  | generateOfferSigned identity =>
    obtain ⟨m, hm, -⟩ := succeeded_map_isSome h
    cases ho : (s.generateOffer K).output with
    | error e => simp [generateOfferSigned, ho, Except.map] at hm
    | ok m => exact generateOffer_ok ho
  | processReply now reply =>
    obtain ⟨m, -, hm⟩ := succeeded_map_isSome h
    cases hm
  | processReplySigned now signed =>
    obtain ⟨m, -, hm⟩ := succeeded_map_isSome h
    cases hm
  | generateReveal now drawn =>
    obtain ⟨m, -, hm⟩ := succeeded_map_isSome h
    cases hm
  | generateRevealSigned now drawn identity =>
    obtain ⟨m, hok, hm⟩ := succeeded_map_isSome h
    cases hr : s.generateReveal K now drawn with
    | error e => simp [generateRevealSigned, hr, Except.map] at hok
    | ok reveal =>
      simp only [generateRevealSigned, hr, Except.map, Except.ok.injEq] at hok
      subst hok
      cases hm

/-- A result is given while a reply is awaited only. -/
theorem machine_result {K : Crates} {s : InitiatorSession} {op : InitiatorOp}
    (h : (succeeded SessionOutput.result? (machine K s op).output).isSome = true) :
    s.state = .awaitingReply ∧ (machine K s op).next.state = .complete := by
  cases op with
  | processReply now reply =>
    obtain ⟨r, hr, -⟩ := succeeded_map_isSome h
    obtain ⟨ha, hn⟩ := processReply_ok hr
    exact ⟨ha.state, hn⟩
  | processReplySigned now signed =>
    obtain ⟨r, hr, -⟩ := succeeded_map_isSome h
    obtain ⟨-, reply, -, ha, hn⟩ := processReplySigned_ok hr
    exact ⟨ha.state, hn⟩
  | generateOffer =>
    obtain ⟨m, -, hm⟩ := succeeded_map_isSome h
    cases hm
  | generateOfferSigned identity =>
    obtain ⟨m, -, hm⟩ := succeeded_map_isSome h
    cases hm
  | generateReveal now drawn =>
    obtain ⟨m, -, hm⟩ := succeeded_map_isSome h
    cases hm
  | generateRevealSigned now drawn identity =>
    obtain ⟨m, -, hm⟩ := succeeded_map_isSome h
    cases hm

theorem stateName_ne_missing (state : InitiatorState) :
    stateName state ≠ "missing responder masked elements" := by
  cases state <;> decide

theorem generateOffer_not_namesState (K : Crates) (s : InitiatorSession) :
    ¬ NamesState "missing responder masked elements" (s.generateOffer K).output := by
  obtain ⟨-, he⟩ | ⟨-, he⟩ := generateOffer_cases K s
  · rw [he]
    exact stateName_ne_missing s.state
  · rw [he]
    exact not_namesState_ok

theorem processReply_not_namesState (K : Crates) (s : InitiatorSession) (now : UInt64)
    (reply : MaskedSetReply) :
    ¬ NamesState "missing responder masked elements" (s.processReply K now reply).output := by
  obtain ⟨e, hc, he⟩ | ⟨-, -, he⟩ | ⟨-, he⟩ := processReply_cases K now s reply
  · rw [he, namesState_error]
    rintro ⟨expected, rfl⟩
    exact stateName_ne_missing s.state (checkReply_invalidState hc).symm
  · rw [he]
    exact id
  · rw [he]
    exact not_namesState_ok

theorem WellFormed.generateReveal_not_namesState {s : InitiatorSession} (h : s.WellFormed)
    (K : Crates) (now : UInt64) (drawn : SessionNonce) :
    ¬ NamesState "missing responder masked elements" (s.generateReveal K now drawn) := by
  unfold generateReveal
  split_ifs with hs
  · exact stateName_ne_missing s.state
  · obtain ⟨⟨m, hm⟩, -⟩ := h.reply_some (not_not.mp hs)
    rw [hm]
    exact not_namesState_ok

/-- No well-formed session is found complete without the responder's elements. -/
theorem WellFormed.not_namesState {s : InitiatorSession} (h : s.WellFormed) (K : Crates)
    (op : InitiatorOp) :
    ¬ NamesState "missing responder masked elements" (InitiatorSession.machine K s op).output := by
  cases op with
  | generateOffer => exact namesState_map.not.mpr (generateOffer_not_namesState K s)
  | generateOfferSigned identity =>
    exact namesState_map.not.mpr (namesState_map.not.mpr (generateOffer_not_namesState K s))
  | processReply now reply =>
    exact namesState_map.not.mpr (processReply_not_namesState K s now reply)
  | processReplySigned now signed =>
    refine namesState_map.not.mpr ?_
    obtain ⟨e, hc, he⟩ | ⟨-, -, he⟩ | ⟨-, reply, -, he⟩ := processReplySigned_cases K now s signed
    · rw [he, namesState_error]
      rintro ⟨expected, rfl⟩
      exact Session.checkSigner_ne_invalidState expected _ hc
    · rw [he, namesState_error]
      simp
    · rw [he]
      exact processReply_not_namesState K (s.noteSigner signed) now reply
  | generateReveal now drawn =>
    exact namesState_map.not.mpr (h.generateReveal_not_namesState K now drawn)
  | generateRevealSigned now drawn identity =>
    exact namesState_map.not.mpr
      (namesState_map.not.mpr (h.generateReveal_not_namesState K now drawn))

end InitiatorSession

end BlindOverlap
