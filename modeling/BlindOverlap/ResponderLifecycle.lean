import BlindOverlap.ResponderSession

/-!
# The life of a responder's session
-/
namespace BlindOverlap

namespace ResponderState

/-- The moves of a responder's session. -/
inductive Moves : ResponderState → ResponderState → Prop where
  | offer : Moves .created .replySent
  | reveal : Moves .replySent .complete

theorem Moves.ne_created {a b : ResponderState} (h : a.Moves b) : b ≠ .created := by
  cases h <;> simp

theorem Moves.ne_complete {a b : ResponderState} (h : a.Moves b) : a ≠ .complete := by
  cases h <;> simp

end ResponderState

namespace ResponderSession

/-- The sessions that the constructors return. -/
inductive Constructed (K : Crates) (s : ResponderSession) : Prop where
  | new {drawn sessionId factSet mode}
      (h : ResponderSession.new drawn sessionId factSet mode = .ok s)
  | withConfig {drawn sessionId factSet mode config}
      (h : ResponderSession.withConfig drawn sessionId factSet mode config = .ok s)
  | withChannelBinding {drawn sessionId factSet mode identity peer}
      (h : ResponderSession.withChannelBinding K drawn sessionId factSet mode identity peer = .ok s)
  | fromInvite {verifiedAt matchedAt drawn ticket factSet mode identity}
      (h : ResponderSession.fromInvite K verifiedAt matchedAt drawn ticket factSet mode identity =
        .ok s)
  | fromLease {verifiedAt drawn lease factSet mode identity}
      (h : ResponderSession.fromLease K verifiedAt drawn lease factSet mode identity = .ok s)
  | withSecret {nonce sessionId factSet mode secret}
      (h : ResponderSession.withSecret nonce sessionId factSet mode secret = .ok s)

/-- The fields that no operation may change. -/
structure SameBasis (s t : ResponderSession) : Prop where
  sessionId : t.sessionId = s.sessionId
  secret : t.secret = s.secret
  factSet : t.factSet = s.factSet
  originalIds : t.originalIds = s.originalIds
  mode : t.mode = s.mode
  config : t.config = s.config
  nonce : t.nonce = s.nonce
  channelBinding : t.channelBinding = s.channelBinding

theorem SameBasis.refl (s : ResponderSession) : SameBasis s s :=
  ⟨rfl, rfl, rfl, rfl, rfl, rfl, rfl, rfl⟩

theorem SameBasis.trans {s t u : ResponderSession} (h : SameBasis s t) (h' : SameBasis t u) :
    SameBasis s u where
  sessionId := h'.sessionId.trans h.sessionId
  secret := h'.secret.trans h.secret
  factSet := h'.factSet.trans h.factSet
  originalIds := h'.originalIds.trans h.originalIds
  mode := h'.mode.trans h.mode
  config := h'.config.trans h.config
  nonce := h'.nonce.trans h.nonce
  channelBinding := h'.channelBinding.trans h.channelBinding

structure WellFormed (s : ResponderSession) : Prop where
  offer_none : s.state = .created → s.maskedElements = none ∧ s.initiatorDoublyMasked = none
  offer_some : s.state ≠ .created →
    (∃ m, s.maskedElements = some m ∧ m.length = s.originalIds.length) ∧
      ∃ m, s.initiatorDoublyMasked = some m

theorem Constructed.exists_created {K : Crates} {s : ResponderSession} (h : Constructed K s) :
    ∃ drawn sessionId factSet mode config binding, factSet.len ≤ maxSetSize ∧
      s = { created drawn sessionId factSet mode config with channelBinding := binding } := by
  have hbound : ∀ {drawn sessionId factSet mode identity peer s},
      ResponderSession.withChannelBinding K drawn sessionId factSet mode identity peer = .ok s →
        ∃ drawn sessionId factSet mode config binding, factSet.len ≤ maxSetSize ∧
          s = { created drawn sessionId factSet mode config with channelBinding := binding } := by
    intro drawn sessionId factSet mode identity peer s h
    exact ⟨_, _, _, _, _, _, withChannelBinding_eq_ok_iff.mp h⟩
  cases h with
  | new h =>
    obtain ⟨hlen, rfl⟩ := withConfig_eq_ok_iff.mp h
    exact ⟨_, _, _, _, _, none, hlen, rfl⟩
  | withConfig h =>
    obtain ⟨hlen, rfl⟩ := withConfig_eq_ok_iff.mp h
    exact ⟨_, _, _, _, _, none, hlen, rfl⟩
  | withChannelBinding h => exact hbound h
  | fromInvite h => exact hbound (withChannelBinding_of_fromInvite h)
  | fromLease h => exact hbound (withChannelBinding_of_fromLease h)
  | @withSecret nonce sessionId factSet mode secret h =>
    unfold ResponderSession.withSecret at h
    split_ifs at h with hlen
    exact ⟨⟨secret, nonce⟩, sessionId, factSet, mode, _, none, not_lt.mp hlen,
      (Except.ok.inj h).symm⟩

theorem Constructed.wellFormed {K : Crates} {s : ResponderSession} (h : Constructed K s) :
    s.WellFormed := by
  obtain ⟨_, _, _, _, _, _, -, rfl⟩ := h.exists_created
  exact ⟨fun _ => ⟨rfl, rfl⟩, fun h => absurd rfl h⟩

theorem WellFormed.noteSigner {s : ResponderSession} (h : s.WellFormed)
    (signed : SignedWireMessage) : (s.noteSigner signed).WellFormed :=
  ⟨h.offer_none, h.offer_some⟩

theorem WellFormed.processOfferAndReply {s : ResponderSession} (h : s.WellFormed) (K : Crates)
    (now sentAt : UInt64) (drawn : SessionNonce) (offer : MaskedSetOffer) :
    (s.processOfferAndReply K now sentAt drawn offer).next.WellFormed := by
  obtain ⟨e, -, he⟩ | ⟨ha, he⟩ := processOfferAndReply_cases K now sentAt drawn s offer
  · rw [he]
    exact h
  · rw [he]
    exact ⟨fun hn => (nomatch hn), fun _ => ⟨⟨_, rfl, Session.length_maskIds ..⟩, _, rfl⟩⟩

theorem WellFormed.processReveal {s : ResponderSession} (h : s.WellFormed) (K : Crates)
    (now : UInt64) (reveal : IntersectionReveal) :
    (s.processReveal K now reveal).next.WellFormed := by
  obtain ⟨e, -, he⟩ | ⟨-, -, he⟩ | ⟨-, -, he⟩ | ⟨ha, theirs, -, he⟩ :=
    processReveal_cases K now s reveal
  · rw [he]
    exact h
  · rw [he]
    exact h
  · rw [he]
    exact h
  · rw [he]
    exact ⟨fun hn => (nomatch hn), fun _ => h.offer_some (by simp [ha.state])⟩

theorem WellFormed.machine {s : ResponderSession} (h : s.WellFormed) (K : Crates)
    (op : ResponderOp) : (machine K s op).next.WellFormed := by
  cases op with
  | processOfferAndReply now sentAt drawn offer =>
    exact h.processOfferAndReply K now sentAt drawn offer
  | processOfferAndReplySigned now sentAt drawn identity signed =>
    change (s.processOfferAndReplySigned K now sentAt drawn identity signed).next.WellFormed
    obtain ⟨e, -, he⟩ | ⟨-, -, he⟩ | ⟨-, offer, -, he⟩ :=
      processOfferAndReplySigned_cases K now sentAt drawn identity s signed
    · rw [he]
      exact h
    · rw [he]
      exact h.noteSigner signed
    · rw [he]
      exact (h.noteSigner signed).processOfferAndReply K now sentAt drawn offer
  | processReveal now reveal => exact h.processReveal K now reveal
  | processRevealSigned now signed =>
    change (s.processRevealSigned K now signed).next.WellFormed
    obtain ⟨e, -, he⟩ | ⟨-, -, he⟩ | ⟨-, reveal, -, he⟩ := processRevealSigned_cases K now s signed
    · rw [he]
      exact h
    · rw [he]
      exact h
    · rw [he]
      exact h.processReveal K now reveal

/-- What a call does to the state, whatever the message. -/
structure Orderly (s t : ResponderSession) : Prop where
  moves : t.state = s.state ∨ s.state.Moves t.state
  basis : SameBasis s t

theorem processOfferAndReply_orderly (K : Crates) (now sentAt : UInt64) (drawn : SessionNonce)
    (s : ResponderSession) (offer : MaskedSetOffer) :
    Orderly s (s.processOfferAndReply K now sentAt drawn offer).next := by
  obtain ⟨e, -, he⟩ | ⟨ha, he⟩ := processOfferAndReply_cases K now sentAt drawn s offer
  · rw [he]
    exact ⟨.inl rfl, .refl s⟩
  · rw [he]
    exact ⟨.inr (ha.state ▸ .offer), ⟨rfl, rfl, rfl, rfl, rfl, rfl, rfl, rfl⟩⟩

theorem processReveal_orderly (K : Crates) (now : UInt64) (s : ResponderSession)
    (reveal : IntersectionReveal) : Orderly s (s.processReveal K now reveal).next := by
  obtain ⟨e, -, he⟩ | ⟨-, -, he⟩ | ⟨-, -, he⟩ | ⟨ha, theirs, -, he⟩ :=
    processReveal_cases K now s reveal
  · rw [he]
    exact ⟨.inl rfl, .refl s⟩
  · rw [he]
    exact ⟨.inl rfl, .refl s⟩
  · rw [he]
    exact ⟨.inl rfl, .refl s⟩
  · rw [he]
    exact ⟨.inr (ha.state ▸ .reveal), ⟨rfl, rfl, rfl, rfl, rfl, rfl, rfl, rfl⟩⟩

theorem machine_orderly (K : Crates) (s : ResponderSession) (op : ResponderOp) :
    Orderly s (machine K s op).next := by
  cases op with
  | processOfferAndReply now sentAt drawn offer =>
    exact processOfferAndReply_orderly K now sentAt drawn s offer
  | processOfferAndReplySigned now sentAt drawn identity signed =>
    change Orderly s (s.processOfferAndReplySigned K now sentAt drawn identity signed).next
    have hnoted : SameBasis s (s.noteSigner signed) := ⟨rfl, rfl, rfl, rfl, rfl, rfl, rfl, rfl⟩
    obtain ⟨e, -, he⟩ | ⟨-, -, he⟩ | ⟨-, offer, -, he⟩ :=
      processOfferAndReplySigned_cases K now sentAt drawn identity s signed
    · rw [he]
      exact ⟨.inl rfl, .refl s⟩
    · rw [he]
      exact ⟨.inl rfl, hnoted⟩
    · rw [he]
      have h := processOfferAndReply_orderly K now sentAt drawn (s.noteSigner signed) offer
      exact ⟨h.moves, hnoted.trans h.basis⟩
  | processReveal now reveal => exact processReveal_orderly K now s reveal
  | processRevealSigned now signed =>
    change Orderly s (s.processRevealSigned K now signed).next
    obtain ⟨e, -, he⟩ | ⟨-, -, he⟩ | ⟨-, reveal, -, he⟩ := processRevealSigned_cases K now s signed
    · rw [he]
      exact ⟨.inl rfl, .refl s⟩
    · rw [he]
      exact ⟨.inl rfl, .refl s⟩
    · rw [he]
      exact processReveal_orderly K now s reveal

theorem processOfferAndReply_ok {K : Crates} {now sentAt : UInt64} {drawn : SessionNonce}
    {s : ResponderSession} {offer : MaskedSetOffer} {m : MaskedSetReply}
    (h : (s.processOfferAndReply K now sentAt drawn offer).output = .ok m) :
    s.AcceptsOffer now offer ∧
      (s.processOfferAndReply K now sentAt drawn offer).next.state = .replySent := by
  obtain ⟨e, -, he⟩ | ⟨ha, he⟩ := processOfferAndReply_cases K now sentAt drawn s offer
  · simp [he] at h
  · exact ⟨ha, by rw [he]; rfl⟩

theorem processOfferAndReplySigned_ok {K : Crates} {now sentAt : UInt64} {drawn : SessionNonce}
    {identity : PartyIdentity} {s : ResponderSession} {signed m : SignedWireMessage}
    (h : (s.processOfferAndReplySigned K now sentAt drawn identity signed).output = .ok m) :
    Session.checkSigner K s.channelBinding s.config signed = .ok () ∧
      ∃ offer, signed.message = .offer offer ∧ s.AcceptsOffer now offer ∧
        (s.processOfferAndReplySigned K now sentAt drawn identity signed).next.state =
          .replySent := by
  obtain ⟨e, -, he⟩ | ⟨-, -, he⟩ | ⟨hc, offer, hm, he⟩ :=
    processOfferAndReplySigned_cases K now sentAt drawn identity s signed
  · simp [he] at h
  · simp [he] at h
  · rw [he] at h ⊢
    cases ho : ((s.noteSigner signed).processOfferAndReply K now sentAt drawn offer).output with
    | error e => simp [ho, Except.map] at h
    | ok reply =>
      obtain ⟨ha, hn⟩ := processOfferAndReply_ok ho
      exact ⟨hc, offer, hm, ⟨ha.state, ha.sessionId, ha.fresh⟩, hn⟩

theorem processReveal_ok {K : Crates} {now : UInt64} {s : ResponderSession}
    {reveal : IntersectionReveal} {r : PsiResult}
    (h : (s.processReveal K now reveal).output = .ok r) :
    s.AcceptsReveal now reveal ∧ (s.processReveal K now reveal).next.state = .complete := by
  obtain ⟨e, -, he⟩ | ⟨-, -, he⟩ | ⟨-, -, he⟩ | ⟨ha, theirs, -, he⟩ :=
    processReveal_cases K now s reveal
  · simp [he] at h
  · simp [he] at h
  · simp [he] at h
  · exact ⟨ha, by rw [he]; rfl⟩

theorem processRevealSigned_ok {K : Crates} {now : UInt64} {s : ResponderSession}
    {signed : SignedWireMessage} {r : PsiResult}
    (h : (s.processRevealSigned K now signed).output = .ok r) :
    Session.checkSigner K s.channelBinding s.config signed = .ok () ∧
      ∃ reveal, signed.message = .reveal reveal ∧ s.AcceptsReveal now reveal ∧
        (s.processRevealSigned K now signed).next.state = .complete := by
  obtain ⟨e, -, he⟩ | ⟨-, -, he⟩ | ⟨hc, reveal, hm, he⟩ := processRevealSigned_cases K now s signed
  · simp [he] at h
  · simp [he] at h
  · rw [he] at h ⊢
    obtain ⟨ha, hn⟩ := processReveal_ok h
    exact ⟨hc, reveal, hm, ha, hn⟩

/-- A reply is made in the first state only, which it leaves. -/
theorem machine_reply {K : Crates} {s : ResponderSession} {op : ResponderOp}
    (h : (succeeded SessionOutput.reply? (machine K s op).output).isSome = true) :
    s.state = .created ∧ (machine K s op).next.state = .replySent := by
  cases op with
  | processOfferAndReply now sentAt drawn offer =>
    obtain ⟨m, hm, -⟩ := succeeded_map_isSome h
    obtain ⟨ha, hn⟩ := processOfferAndReply_ok hm
    exact ⟨ha.state, hn⟩
  | processOfferAndReplySigned now sentAt drawn identity signed =>
    obtain ⟨m, hm, -⟩ := succeeded_map_isSome h
    obtain ⟨-, offer, -, ha, hn⟩ := processOfferAndReplySigned_ok hm
    exact ⟨ha.state, hn⟩
  | processReveal now reveal =>
    obtain ⟨m, -, hm⟩ := succeeded_map_isSome h
    cases hm
  | processRevealSigned now signed =>
    obtain ⟨m, -, hm⟩ := succeeded_map_isSome h
    cases hm

/-- A result is given while a reveal is awaited only. -/
theorem machine_result {K : Crates} {s : ResponderSession} {op : ResponderOp}
    (h : (succeeded SessionOutput.result? (machine K s op).output).isSome = true) :
    s.state = .replySent ∧ (machine K s op).next.state = .complete := by
  cases op with
  | processOfferAndReply now sentAt drawn offer =>
    obtain ⟨m, -, hm⟩ := succeeded_map_isSome h
    cases hm
  | processOfferAndReplySigned now sentAt drawn identity signed =>
    obtain ⟨m, -, hm⟩ := succeeded_map_isSome h
    cases hm
  | processReveal now reveal =>
    obtain ⟨r, hr, -⟩ := succeeded_map_isSome h
    obtain ⟨ha, hn⟩ := processReveal_ok hr
    exact ⟨ha.state, hn⟩
  | processRevealSigned now signed =>
    obtain ⟨r, hr, -⟩ := succeeded_map_isSome h
    obtain ⟨-, reveal, -, ha, hn⟩ := processRevealSigned_ok hr
    exact ⟨ha.state, hn⟩

theorem responderStateName_ne_missing (state : ResponderState) :
    responderStateName state ≠ "missing initiator doubly masked" := by
  cases state <;> decide

theorem processOfferAndReply_not_namesState (K : Crates) (s : ResponderSession)
    (now sentAt : UInt64) (drawn : SessionNonce) (offer : MaskedSetOffer) :
    ¬ NamesState "missing initiator doubly masked"
      (s.processOfferAndReply K now sentAt drawn offer).output := by
  obtain ⟨e, hc, he⟩ | ⟨-, he⟩ := processOfferAndReply_cases K now sentAt drawn s offer
  · rw [he, namesState_error]
    rintro ⟨expected, rfl⟩
    exact responderStateName_ne_missing s.state (checkOffer_invalidState hc).symm
  · rw [he]
    exact not_namesState_ok

theorem WellFormed.processReveal_not_namesState {s : ResponderSession} (h : s.WellFormed)
    (K : Crates) (now : UInt64) (reveal : IntersectionReveal) :
    ¬ NamesState "missing initiator doubly masked" (s.processReveal K now reveal).output := by
  obtain ⟨e, hc, he⟩ | ⟨-, -, he⟩ | ⟨ha, hnone, -⟩ | ⟨-, theirs, -, he⟩ :=
    processReveal_cases K now s reveal
  · rw [he, namesState_error]
    rintro ⟨expected, rfl⟩
    exact responderStateName_ne_missing s.state (checkReveal_invalidState hc).symm
  · rw [he]
    exact id
  · obtain ⟨-, theirs, htheirs⟩ := h.offer_some (by simp [ha.state])
    simp [hnone] at htheirs
  · rw [he]
    exact not_namesState_ok

/-- No well-formed session is found waiting without the initiator's elements. -/
theorem WellFormed.not_namesState {s : ResponderSession} (h : s.WellFormed) (K : Crates)
    (op : ResponderOp) :
    ¬ NamesState "missing initiator doubly masked" (ResponderSession.machine K s op).output := by
  cases op with
  | processOfferAndReply now sentAt drawn offer =>
    exact namesState_map.not.mpr
      (processOfferAndReply_not_namesState K s now sentAt drawn offer)
  | processOfferAndReplySigned now sentAt drawn identity signed =>
    refine namesState_map.not.mpr ?_
    obtain ⟨e, hc, he⟩ | ⟨-, -, he⟩ | ⟨-, offer, -, he⟩ :=
      processOfferAndReplySigned_cases K now sentAt drawn identity s signed
    · rw [he, namesState_error]
      rintro ⟨expected, rfl⟩
      exact Session.checkSigner_ne_invalidState expected _ hc
    · rw [he, namesState_error]
      simp
    · rw [he]
      exact namesState_map.not.mpr
        (processOfferAndReply_not_namesState K (s.noteSigner signed) now sentAt drawn offer)
  | processReveal now reveal =>
    exact namesState_map.not.mpr (h.processReveal_not_namesState K now reveal)
  | processRevealSigned now signed =>
    refine namesState_map.not.mpr ?_
    obtain ⟨e, hc, he⟩ | ⟨-, -, he⟩ | ⟨-, reveal, -, he⟩ := processRevealSigned_cases K now s signed
    · rw [he, namesState_error]
      rintro ⟨expected, rfl⟩
      exact Session.checkSigner_ne_invalidState expected _ hc
    · rw [he, namesState_error]
      simp
    · rw [he]
      exact h.processReveal_not_namesState K now reveal

end ResponderSession

end BlindOverlap
