import BlindOverlap.Incoming

/-!
# Whose deadline counts

A session holds what it receives to the deadline in the message. Its own deadline goes out
with its messages and is not looked at again: it binds the session only as far as the replies
keep to it.
-/
namespace BlindOverlap

/-- A message without freshness, or one from before the time that its sender has set. -/
def Unlapsed (now : UInt64) (hasFreshness : Bool) (deadline : Option SessionDeadline) : Prop :=
  hasFreshness = true → ∃ d, deadline = some d ∧ d.issuedAt < d.expiresAt ∧ now < d.expiresAt

namespace InitiatorSession
variable {K : Crates} {s : InitiatorSession}

theorem AcceptsReply.unlapsed {now : UInt64} {reply : MaskedSetReply}
    (ha : s.AcceptsReply now reply) (hfresh : s.config.useFreshness = true) :
    Unlapsed now reply.hasFreshness reply.deadline := by
  intro hhas
  obtain ⟨-, d, hd, hvalid⟩ := ha.fresh hfresh hhas
  exact ⟨d, hd, SessionDeadline.validate_eq_ok_iff.mp hvalid⟩

/-- A call that completes the session does so on a reply that has not lapsed, and from the
deadline of the session on only if the reply has none or a later one. -/
def CompletesUnlapsed
    (e : Event InitiatorSession InitiatorOp (Except SessionError SessionOutput)) : Prop :=
  e.before.state ≠ .complete → e.after.state = .complete →
    ∃ now reply, e.input.reply? = some (now, reply) ∧
      Unlapsed now reply.hasFreshness reply.deadline ∧
      (e.before.deadline.expiresAt ≤ now → reply.hasFreshness = true →
        ∃ d, reply.deadline = some d ∧ e.before.deadline.expiresAt < d.expiresAt)

theorem machine_completesUnlapsed (hfresh : s.config.useFreshness = true) (op : InitiatorOp) :
    CompletesUnlapsed ((machine K).fire s op) := by
  intro hbefore hafter
  obtain ⟨now, reply, hr, ha⟩ := machine_completes_on hbefore hafter
  have hunlapsed := ha.unlapsed hfresh
  refine ⟨now, reply, hr, hunlapsed, fun hpast hhas => ?_⟩
  obtain ⟨d, hd, -, hnow⟩ := hunlapsed hhas
  exact ⟨d, hd, UInt64.lt_of_le_of_lt hpast hnow⟩

theorem ConstructedAt.deadline {now : UInt64} (h : ConstructedAt K now s) :
    s.deadline = .new now s.config.ttlSecs := by
  obtain ⟨_, _, _, _, _, _, -, rfl⟩ := h.exists_created
  rfl

end InitiatorSession

namespace ResponderSession
variable {K : Crates} {s : ResponderSession}

theorem AcceptsOffer.unlapsed {now : UInt64} {offer : MaskedSetOffer}
    (ha : s.AcceptsOffer now offer) (hfresh : s.config.useFreshness = true) :
    Unlapsed now offer.hasFreshness offer.deadline := by
  intro hhas
  obtain ⟨d, hd, hvalid⟩ := ha.fresh hfresh hhas
  exact ⟨d, hd, SessionDeadline.validate_eq_ok_iff.mp hvalid⟩

theorem AcceptsReveal.unlapsed {now : UInt64} {reveal : IntersectionReveal}
    (ha : s.AcceptsReveal now reveal) (hfresh : s.config.useFreshness = true) :
    Unlapsed now reveal.hasFreshness reveal.deadline := by
  intro hhas
  obtain ⟨-, d, hd, hvalid⟩ := ha.fresh hfresh hhas
  exact ⟨d, hd, SessionDeadline.validate_eq_ok_iff.mp hvalid⟩

/-- A call that answers an offer, or completes the session, does so on a message that has not
lapsed. -/
structure MovesUnlapsed
    (e : Event ResponderSession ResponderOp (Except SessionError SessionOutput)) : Prop where
  offer : e.before.state = .created → e.after.state ≠ .created →
    ∃ now offer, e.input.offer? = some (now, offer) ∧
      Unlapsed now offer.hasFreshness offer.deadline
  reveal : e.before.state ≠ .complete → e.after.state = .complete →
    ∃ now reveal, e.input.reveal? = some (now, reveal) ∧
      Unlapsed now reveal.hasFreshness reveal.deadline

theorem machine_movesUnlapsed (hfresh : s.config.useFreshness = true) (op : ResponderOp) :
    MovesUnlapsed ((machine K).fire s op) where
  offer hbefore hafter := by
    obtain ⟨now, offer, ho, ha⟩ := machine_replies_to hbefore hafter
    exact ⟨now, offer, ho, ha.unlapsed hfresh⟩
  reveal hbefore hafter := by
    obtain ⟨now, reveal, hr, ha⟩ := machine_completes_on hbefore hafter
    exact ⟨now, reveal, hr, ha.unlapsed hfresh⟩

end ResponderSession

/-- Sessions of version 2 accept no message with freshness that has lapsed. An initiator
completes past its own deadline, which stays as it was made, only on a reply that has no
freshness or sets a later one. -/
theorem message_deadlines_kept (K : Crates) :
    (∀ t₀ s, InitiatorSession.ConstructedAt K t₀ s → s.config.useFreshness = true → ∀ ops,
      ∀ e ∈ (InitiatorSession.machine K).trace s ops,
        e.before.deadline.expiresAt = saturatingAdd t₀ s.config.ttlSecs ∧
          InitiatorSession.CompletesUnlapsed e) ∧
    ∀ s : ResponderSession, s.config.useFreshness = true → ∀ ops,
      ∀ e ∈ (ResponderSession.machine K).trace s ops, ResponderSession.MovesUnlapsed e := by
  constructor
  · intro t₀ s hs hfresh ops
    refine InitiatorSession.trace_forall_sameBasis K (fun t op ht => ⟨?_, ?_⟩) ops
    · change t.deadline.expiresAt = _
      rw [ht.deadline, hs.deadline]
      rfl
    · exact InitiatorSession.machine_completesUnlapsed (ht.config ▸ hfresh) op
  · intro s hfresh ops
    exact ResponderSession.trace_forall_sameBasis K
      (fun t op ht => ResponderSession.machine_movesUnlapsed (ht.config ▸ hfresh) op) ops

/-- A reply dated ahead of its receiver, with a lifetime of its own choice. -/
def postdatedReply : MaskedSetReply :=
  .newV2 "sample" [] [filled 0, filled 0] boundInitiator.nonce ⟨filled 9⟩ ⟨5000, 100000⟩

theorem message_deadlines_kept_sample :
    ∀ e ∈ (InitiatorSession.machine .reference).trace boundInitiator
        [.generateOffer, .processReply 2000 postdatedReply],
      e.before.deadline.expiresAt = saturatingAdd 1000 300 ∧
        InitiatorSession.CompletesUnlapsed e :=
  (message_deadlines_kept .reference).1 1000 boundInitiator
    (.withChannelBinding withChannelBinding_boundInitiator) rfl _

/-- A session of 300 seconds from reading 1000 completes at reading 2000. -/
theorem postdated_reply_outlives_session :
    InitiatorSession.ConstructedAt .reference 1000 boundInitiator ∧
      boundInitiator.config = .withIdentityBinding 300 ∧
      boundInitiator.config.useFreshness = true ∧ postdatedReply.validate = .ok () ∧
      saturatingAdd 1000 300 ≤ 2000 ∧ postdatedReply.deadline = some ⟨5000, 100000⟩ ∧
      ((InitiatorSession.machine .reference).final boundInitiator
        [.generateOffer, .processReply 2000 postdatedReply]).state = .complete := by
  refine ⟨.withChannelBinding withChannelBinding_boundInitiator, rfl, rfl, rfl, by decide, rfl, ?_⟩
  have ha : (boundInitiator.afterOffer .reference).AcceptsReply 2000 postdatedReply :=
    { state := rfl
      sessionId := rfl
      fresh := fun _ _ => ⟨rfl, _, rfl, rfl⟩
      count := (unsignedReply_accepted (s := boundInitiator) rfl rfl 2000).count }
  change ((boundInitiator.afterOffer .reference).processReply .reference 2000
    postdatedReply).next.state = .complete
  rw [InitiatorSession.processReply_of_accepts ha]
  rfl

end BlindOverlap
