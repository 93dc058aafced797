import BlindOverlap.Network
import BlindOverlap.SignedExchange
import BlindOverlap.TamperEvidence

/-!
# Bound sessions under attack

The network of signed sessions belongs to an attacker, who can hand any envelope to any
session and is held back by one thing only: what verifies under an owner's key repeats what
that owner signed. Sessions that are bound to each other's owners then end in pairs.
-/
namespace BlindOverlap

/-- A fleet with owners. Every session is bound to its owner's key and to the key of another
owner, so that no session wants to talk to the attacker. -/
structure BoundFleet (K : Crates) (ι ρ : Type) extends Fleet K ι ρ where
  owner : ι ⊕ ρ → PartyIdentity
  initiatorPeer : ι → PublicIdentity
  responderPeer : ρ → PublicIdentity
  initiator_bound : ∀ i, (initiator i).channelBinding =
    some ⟨(owner (.inl i)).publicIdentity K, initiatorPeer i⟩
  responder_bound : ∀ j, (responder j).channelBinding =
    some ⟨(owner (.inr j)).publicIdentity K, responderPeer j⟩
  initiatorPeer_owns : ∀ i, ∃ s, (owner s).publicIdentity K = initiatorPeer i
  responderPeer_owns : ∀ j, ∃ s, (owner s).publicIdentity K = responderPeer j

/-- What an owner does with a session: signed operations, with the owner's own key. -/
inductive SignedCall (ι ρ : Type) where
  | offer (i : ι)
  | reply (j : ρ) (now sentAt : UInt64) (drawn : SessionNonce) (envelope : SignedWireMessage)
  | complete (i : ι) (now : UInt64) (envelope : SignedWireMessage)
  | reveal (i : ι) (now : UInt64) (drawn : SessionNonce)
  | finish (j : ρ) (now : UInt64) (envelope : SignedWireMessage)

/-- What the attacker hands over for a call. -/
def SignedCall.envelope? {ι ρ : Type} : SignedCall ι ρ → Option SignedWireMessage
  | .offer _ => none
  | .reply _ _ _ _ envelope => some envelope
  | .complete _ _ envelope => some envelope
  | .reveal _ _ _ => none
  | .finish _ _ envelope => some envelope

namespace World
variable {ι ρ : Type}

/-- The world after a call that left nothing but its record. -/
def passedOver (w : World ι ρ) (session : ι ⊕ ρ) (received : Option WireMessage) : World ι ρ :=
  { w with calls := ⟨session, received, .silent⟩ :: w.calls }

theorem callInitiator_of_error {K : Crates} [DecidableEq ι] {w : World ι ρ} {i : ι}
    {op : InitiatorOp} {e : SessionError}
    (h : InitiatorSession.machine K (w.initiators i) op = ⟨.error e, w.initiators i⟩) :
    w.callInitiator K i op = w.passedOver (.inl i) op.received? := by
  simp [callInitiator, passedOver, h]

theorem callResponder_of_error {K : Crates} [DecidableEq ρ] {w : World ι ρ} {j : ρ}
    {op : ResponderOp} {e : SessionError}
    (h : ResponderSession.machine K (w.responders j) op = ⟨.error e, w.responders j⟩) :
    w.callResponder K j op = w.passedOver (.inr j) op.received? := by
  simp [callResponder, passedOver, h]

@[simp] theorem callInitiator_self {K : Crates} [DecidableEq ι] (w : World ι ρ) (i : ι)
    (op : InitiatorOp) :
    (w.callInitiator K i op).initiators i = (InitiatorSession.machine K (w.initiators i) op).next :=
  Function.update_self ..

@[simp] theorem callResponder_self {K : Crates} [DecidableEq ρ] (w : World ι ρ) (j : ρ)
    (op : ResponderOp) :
    (w.callResponder K j op).responders j = (ResponderSession.machine K (w.responders j) op).next :=
  Function.update_self ..

end World

/-- A silent record changes nothing that is consistent. -/
theorem Fleet.Consistent.passedOver {K : Crates} {ι ρ : Type} {f : Fleet K ι ρ} {w : World ι ρ}
    (h : f.Consistent w) (session : ι ⊕ ρ) (received : Option WireMessage) :
    f.Consistent (w.passedOver session received) := by
  have hsub : w.calls ⊆ (w.passedOver session received).calls := List.subset_cons_self _ _
  constructor
  · exact h.initiatorBasis
  · exact h.responderBasis
  · intro r hr
    rcases List.mem_cons.mp hr with rfl | hr
    · exact .silent session received
    · exact (h.explained r hr).mono hsub
  · intro i hs
    obtain ⟨j, sentAt, ha, hrest⟩ := h.complete i hs
    exact ⟨j, sentAt, hsub ha, hrest⟩
  · intro i reply result ha
    rcases List.mem_cons.mp ha with he | ha
    · cases he
    · exact h.accepted i reply result ha
  · intro j offer reply hr
    rcases List.mem_cons.mp hr with he | hr
    · cases he
    · exact h.replied j offer reply hr
  · intro j hs
    obtain ⟨i, sentAt, hc⟩ := h.responderComplete j hs
    exact ⟨i, sentAt, hsub hc⟩

namespace BoundFleet
variable {K : Crates} {ι ρ : Type}

def key (f : BoundFleet K ι ρ) (s : ι ⊕ ρ) : PublicIdentity := (f.owner s).publicIdentity K

/-- A message that a session whose owner has the given key put on the network. -/
def SentBy (f : BoundFleet K ι ρ) (w : World ι ρ) (key : PublicIdentity) (m : WireMessage) : Prop :=
  ∃ r ∈ w.calls, r.effect.sent = some m ∧ f.key r.session = key

/-- Ideal signatures and an ideal hash: an envelope that verifies under an owner's key repeats
the payload of a message that this owner signed, and no other message has that payload. -/
def Unforged (f : BoundFleet K ι ρ) (w : World ι ρ) (envelope : SignedWireMessage) : Prop :=
  envelope.verifySignature K = .ok () → (∃ s, f.key s = envelope.signerPubkey) →
    ∃ m, f.SentBy w envelope.signerPubkey m ∧
      m.signingPayload K = envelope.message.signingPayload K ∧
      K.CollisionFree {m.bodyBytes K, envelope.message.bodyBytes K}

section Attack
variable [DecidableEq ι] [DecidableEq ρ]

def step (f : BoundFleet K ι ρ) (w : World ι ρ) : SignedCall ι ρ → World ι ρ
  | .offer i => w.callInitiator K i (.generateOfferSigned (f.owner (.inl i)))
  | .reply j now sentAt drawn envelope => w.callResponder K j
      (.processOfferAndReplySigned now sentAt drawn (f.owner (.inr j)) envelope)
  | .complete i now envelope => w.callInitiator K i (.processReplySigned now envelope)
  | .reveal i now drawn =>
    w.callInitiator K i (.generateRevealSigned now drawn (f.owner (.inl i)))
  | .finish j now envelope => w.callResponder K j (.processRevealSigned now envelope)

/-- The worlds that an attacker can bring about. -/
inductive Attacked (f : BoundFleet K ι ρ) : World ι ρ → Prop where
  | start : Attacked f f.start
  | call {w : World ι ρ} (h : Attacked f w) (c : SignedCall ι ρ)
      (hc : ∀ envelope ∈ c.envelope?, f.Unforged w envelope) : Attacked f (f.step w c)

end Attack

/-! ## What signed operations leave behind -/

end BoundFleet

/-- A signer that passed the check is remembered, whatever becomes of the message. -/
theorem InitiatorSession.processReplySigned_verifiedPeer {K : Crates} {s : InitiatorSession}
    {now : UInt64} {envelope : SignedWireMessage} {binding : ChannelBinding}
    (hbound : s.channelBinding = some binding)
    (hsigner : Session.checkSigner K s.channelBinding s.config envelope = .ok ()) :
    (s.processReplySigned K now envelope).next.verifiedPeer = some envelope.signerPubkey := by
  have hnoted : (s.noteSigner envelope).verifiedPeer = some envelope.signerPubkey := by
    simp [noteSigner, hbound]
  obtain ⟨e, he, -⟩ | ⟨-, -, he⟩ | ⟨-, reply, -, he⟩ := processReplySigned_cases K now s envelope
  · cases hsigner.symm.trans he
  · rw [he]
    exact hnoted
  · rw [he]
    obtain ⟨e, -, he⟩ | ⟨-, -, he⟩ | ⟨-, he⟩ :=
      processReply_cases K now (s.noteSigner envelope) reply
    all_goals
      rw [he]
      exact hnoted

theorem ResponderSession.processOfferAndReplySigned_verifiedPeer {K : Crates}
    {s : ResponderSession} {now sentAt : UInt64} {drawn : SessionNonce} {identity : PartyIdentity}
    {envelope : SignedWireMessage} {binding : ChannelBinding}
    (hbound : s.channelBinding = some binding)
    (hsigner : Session.checkSigner K s.channelBinding s.config envelope = .ok ()) :
    (s.processOfferAndReplySigned K now sentAt drawn identity envelope).next.verifiedPeer =
      some envelope.signerPubkey := by
  have hnoted : (s.noteSigner envelope).verifiedPeer = some envelope.signerPubkey := by
    simp [noteSigner, hbound]
  obtain ⟨e, he, -⟩ | ⟨-, -, he⟩ | ⟨-, offer, -, he⟩ :=
    processOfferAndReplySigned_cases K now sentAt drawn identity s envelope
  · cases hsigner.symm.trans he
  · rw [he]
    exact hnoted
  · rw [he]
    obtain ⟨e, -, he⟩ | ⟨-, he⟩ :=
      processOfferAndReply_cases K now sentAt drawn (s.noteSigner envelope) offer
    all_goals
      rw [he]
      exact hnoted

/-- Finishing leaves the signer of the offer in place. -/
theorem ResponderSession.processRevealSigned_next (K : Crates) (now : UInt64)
    (s : ResponderSession) (envelope : SignedWireMessage) :
    (s.processRevealSigned K now envelope).next = s ∨
      s.state = .replySent ∧ (s.processRevealSigned K now envelope).next = s.completed := by
  obtain ⟨e, -, he⟩ | ⟨-, -, he⟩ | ⟨-, reveal, -, he⟩ := processRevealSigned_cases K now s envelope
  · exact .inl (by rw [he])
  · exact .inl (by rw [he])
  · rw [he]
    obtain ⟨e, -, he⟩ | ⟨-, -, he⟩ | ⟨-, -, he⟩ | ⟨ha, theirs, -, he⟩ :=
      processReveal_cases K now s reveal
    · exact .inl (by rw [he])
    · exact .inl (by rw [he])
    · exact .inl (by rw [he])
    · exact .inr ⟨ha.state, by rw [he]⟩

namespace BoundFleet
variable {K : Crates} {ι ρ : Type}

/-! ## Who sent what -/

section Senders
variable {f : BoundFleet K ι ρ} {w : World ι ρ}

/-- What verifies under an owner's key is a message of that owner. -/
theorem Unforged.sentBy (hK : K.ParsesCompact) {envelope : SignedWireMessage}
    (h : f.Unforged w envelope) (hverified : envelope.verifySignature K = .ok ())
    (howner : ∃ s, f.key s = envelope.signerPubkey) :
    f.SentBy w envelope.signerPubkey envelope.message := by
  obtain ⟨m, hsent, hpayload, hfree⟩ := h hverified howner
  by_cases hm : m = envelope.message
  · rw [← hm]
    exact hsent
  · exact absurd hpayload (WireMessage.signingPayload_ne hK hm hfree)

theorem SentBy.sent {key : PublicIdentity} {m : WireMessage} (h : f.SentBy w key m) : w.Sent m := by
  obtain ⟨r, hr, hm, -⟩ := h
  exact ⟨r, hr, hm⟩

/-- An offer is known by its nonce, and so is the owner of the session that made it. -/
theorem SentBy.offer_key {key : PublicIdentity} {i : ι} (hw : f.Consistent w)
    (h : f.SentBy w key (.offer (f.offer i))) : f.key (.inl i) = key := by
  obtain ⟨r, hr, hm, hkey⟩ := h
  cases hw.explained r hr with
  | offered i' =>
    have hoffer : f.offer i' = f.offer i := WireMessage.offer.inj (Option.some.inj hm)
    have hnonce : (f.initiator i').nonce = (f.initiator i).nonce :=
      Option.some.inj (congrArg MaskedSetOffer.nonce hoffer)
    rw [← f.initiator_nonce hnonce]
    exact hkey
  | _ => cases hm

theorem SentBy.reply_key {key : PublicIdentity} {i : ι} {j : ρ} {sentAt : UInt64}
    (hw : f.Consistent w) (h : f.SentBy w key (.reply (f.reply j i sentAt))) :
    f.key (.inr j) = key := by
  obtain ⟨r, hr, hm, hkey⟩ := h
  cases hw.explained r hr with
  | replied j' i' sentAt' _ =>
    have hreply : f.reply j' i' sentAt' = f.reply j i sentAt :=
      WireMessage.reply.inj (Option.some.inj hm)
    have hnonce : (f.responder j').nonce = (f.responder j).nonce :=
      Option.some.inj (congrArg MaskedSetReply.responderNonce hreply)
    rw [← f.responder_nonce hnonce]
    exact hkey
  | _ => cases hm

/-- An envelope that a bound session lets through was made by an owner of the peer's key. -/
theorem sentBy_of_checkSigner (hK : K.ParsesCompact) {own peer : PublicIdentity}
    {config : SessionConfig} {envelope : SignedWireMessage} (hunforged : f.Unforged w envelope)
    (howns : ∃ s, f.key s = peer)
    (hsigner : Session.checkSigner K (some ⟨own, peer⟩) config envelope = .ok ()) :
    envelope.signerPubkey = peer ∧ f.SentBy w peer envelope.message := by
  obtain ⟨hkey, hverified⟩ := Session.checkSigner_bound hsigner
  have hkey : envelope.signerPubkey = peer := hkey
  refine ⟨hkey, ?_⟩
  rw [← hkey] at howns ⊢
  exact hunforged.sentBy hK hverified howns

end Senders

/-! ## The invariant -/

/-- What holds in every world that an attacker can bring about: that of the honest network,
and that every message was made by a session of the peer. -/
structure Authentic (f : BoundFleet K ι ρ) (w : World ι ρ) : Prop where
  consistent : f.Consistent w
  replied : ∀ j i reply, w.Replied j (f.offer i) reply → f.key (.inl i) = f.responderPeer j ∧
    (f.initiator i).sessionId = (f.responder j).sessionId
  accepted : ∀ i j sentAt result, w.Accepted i (f.reply j i sentAt) result →
    f.key (.inr j) = f.initiatorPeer i
  repliedOnce : ∀ j offer reply offer' reply', w.Replied j offer reply →
    w.Replied j offer' reply' → offer = offer' ∧ reply = reply'
  acceptedOnce : ∀ i reply result reply' result', w.Accepted i reply result →
    w.Accepted i reply' result' → reply = reply'
  initiatorVerified : ∀ i, (w.initiators i).state = .complete →
    (w.initiators i).verifiedPeer = some (f.initiatorPeer i)
  responderVerified : ∀ j, (w.responders j).state ≠ .created →
    (w.responders j).verifiedPeer = some (f.responderPeer j)

section Invariant
variable {f : BoundFleet K ι ρ} {w : World ι ρ}

theorem authentic_start (f : BoundFleet K ι ρ) : f.Authentic f.start where
  consistent := Fleet.consistent_start f.toFleet
  replied _ _ _ hr := absurd hr List.not_mem_nil
  accepted _ _ _ _ ha := absurd ha List.not_mem_nil
  repliedOnce _ _ _ _ _ hr := absurd hr List.not_mem_nil
  acceptedOnce _ _ _ _ _ ha := absurd ha List.not_mem_nil
  initiatorVerified i hs := by
    obtain ⟨now, drawn, sessionId, factSet, mode, config, binding, -, hcreated⟩ :=
      (f.initiator_constructed i).exists_created
    simp [Fleet.start, hcreated, InitiatorSession.created] at hs
  responderVerified j hs := by
    obtain ⟨drawn, sessionId, factSet, mode, config, binding, -, hcreated⟩ :=
      (f.responder_constructed j).exists_created
    simp [Fleet.start, hcreated, ResponderSession.created] at hs

theorem Authentic.passedOver (h : f.Authentic w) (session : ι ⊕ ρ)
    (received : Option WireMessage) : f.Authentic (w.passedOver session received) := by
  have hreplied : ∀ j offer reply, (w.passedOver session received).Replied j offer reply →
      w.Replied j offer reply := by
    intro j offer reply hr
    rcases List.mem_cons.mp hr with he | hr
    · cases he
    · exact hr
  have haccepted : ∀ i reply result, (w.passedOver session received).Accepted i reply result →
      w.Accepted i reply result := by
    intro i reply result ha
    rcases List.mem_cons.mp ha with he | ha
    · cases he
    · exact ha
  constructor
  · exact h.consistent.passedOver session received
  · exact fun j i reply hr => h.replied j i reply (hreplied _ _ _ hr)
  · exact fun i j sentAt result ha => h.accepted i j sentAt result (haccepted _ _ _ ha)
  · exact fun j _ _ _ _ hr hr' => h.repliedOnce j _ _ _ _ (hreplied _ _ _ hr) (hreplied _ _ _ hr')
  · exact fun i _ _ _ _ ha ha' =>
      h.acceptedOnce i _ _ _ _ (haccepted _ _ _ ha) (haccepted _ _ _ ha')
  · exact h.initiatorVerified
  · exact h.responderVerified

/-- What is to be shown of one initiator's call besides consistency. -/
theorem Authentic.initiator_step [DecidableEq ι] (h : f.Authentic w) {i : ι} {op : InitiatorOp}
    (hconsistent : f.Consistent (w.callInitiator K i op))
    (haccepted : ∀ reply result, op.received? = some (.reply reply) →
      effectOf (InitiatorSession.machine K (w.initiators i) op).output = .reports result →
        (w.initiators i).state ≠ .complete ∧
          ∀ j sentAt, reply = f.reply j i sentAt → f.key (.inr j) = f.initiatorPeer i)
    (hverified : (InitiatorSession.machine K (w.initiators i) op).next.state = .complete →
      (InitiatorSession.machine K (w.initiators i) op).next.verifiedPeer =
        some (f.initiatorPeer i)) :
    f.Authentic (w.callInitiator K i op) := by
  have hreplied : ∀ j offer reply, (w.callInitiator K i op).Replied j offer reply →
      w.Replied j offer reply := by
    intro j offer reply hr
    rcases List.mem_cons.mp hr with he | hr
    · cases he
    · exact hr
  have hnew : ∀ i' reply result, (w.callInitiator K i op).Accepted i' reply result →
      w.Accepted i' reply result ∨ (i' = i ∧ op.received? = some (.reply reply) ∧
        effectOf (InitiatorSession.machine K (w.initiators i) op).output = .reports result) := by
    intro i' reply result ha
    rcases List.mem_cons.mp ha with he | ha
    · exact .inr ⟨Sum.inl.inj (congrArg Record.session he), (congrArg Record.received he).symm,
        (congrArg Record.effect he).symm⟩
    · exact .inl ha
  constructor
  · exact hconsistent
  · exact fun j i' reply hr => h.replied j i' reply (hreplied _ _ _ hr)
  · intro i' j sentAt result ha
    rcases hnew _ _ _ ha with ha | ⟨rfl, hop, heffect⟩
    · exact h.accepted i' j sentAt result ha
    · exact (haccepted _ _ hop heffect).2 j sentAt rfl
  · exact fun j _ _ _ _ hr hr' => h.repliedOnce j _ _ _ _ (hreplied _ _ _ hr) (hreplied _ _ _ hr')
  · intro i' reply result reply' result' ha ha'
    rcases hnew _ _ _ ha with hold | ⟨rfl, hop, heffect⟩
    · rcases hnew _ _ _ ha' with hold' | ⟨rfl, hop, heffect⟩
      · exact h.acceptedOnce i' _ _ _ _ hold hold'
      · exact absurd (h.consistent.accepted _ _ _ hold) (haccepted _ _ hop heffect).1
    · rcases hnew _ _ _ ha' with hold' | ⟨-, hop', -⟩
      · exact absurd (h.consistent.accepted _ _ _ hold') (haccepted _ _ hop heffect).1
      · exact WireMessage.reply.inj (Option.some.inj (hop.symm.trans hop'))
  · intro i' hs
    rcases eq_or_ne i' i with rfl | hi
    · rw [World.callInitiator_self] at hs ⊢
      exact hverified hs
    · have hother : (w.callInitiator K i op).initiators i' = w.initiators i' :=
        Function.update_of_ne hi ..
      rw [hother] at hs ⊢
      exact h.initiatorVerified i' hs
  · exact h.responderVerified

/-- What is to be shown of one responder's call besides consistency. -/
theorem Authentic.responder_step [DecidableEq ρ] (h : f.Authentic w) {j : ρ} {op : ResponderOp}
    (hconsistent : f.Consistent (w.callResponder K j op))
    (hreplied : ∀ offer reply, op.received? = some (.offer offer) →
      effectOf (ResponderSession.machine K (w.responders j) op).output = .sends (.reply reply) →
        (w.responders j).state = .created ∧
          ∀ i, offer = f.offer i → f.key (.inl i) = f.responderPeer j ∧
            (f.initiator i).sessionId = (f.responder j).sessionId)
    (hverified : (ResponderSession.machine K (w.responders j) op).next.state ≠ .created →
      (ResponderSession.machine K (w.responders j) op).next.verifiedPeer =
        some (f.responderPeer j)) :
    f.Authentic (w.callResponder K j op) := by
  have haccepted : ∀ i reply result, (w.callResponder K j op).Accepted i reply result →
      w.Accepted i reply result := by
    intro i reply result ha
    rcases List.mem_cons.mp ha with he | ha
    · cases he
    · exact ha
  have hnew : ∀ j' offer reply, (w.callResponder K j op).Replied j' offer reply →
      w.Replied j' offer reply ∨ (j' = j ∧ op.received? = some (.offer offer) ∧
        effectOf (ResponderSession.machine K (w.responders j) op).output =
          .sends (.reply reply)) := by
    intro j' offer reply hr
    rcases List.mem_cons.mp hr with he | hr
    · exact .inr ⟨Sum.inr.inj (congrArg Record.session he), (congrArg Record.received he).symm,
        (congrArg Record.effect he).symm⟩
    · exact .inl hr
  constructor
  · exact hconsistent
  · intro j' i reply hr
    rcases hnew _ _ _ hr with hr | ⟨rfl, hop, heffect⟩
    · exact h.replied j' i reply hr
    · exact (hreplied _ _ hop heffect).2 i rfl
  · exact fun i j' sentAt result ha => h.accepted i j' sentAt result (haccepted _ _ _ ha)
  · intro j' offer reply offer' reply' hr hr'
    rcases hnew _ _ _ hr with hold | ⟨rfl, hop, heffect⟩
    · rcases hnew _ _ _ hr' with hold' | ⟨rfl, hop, heffect⟩
      · exact h.repliedOnce j' _ _ _ _ hold hold'
      · exact absurd (hreplied _ _ hop heffect).1 (h.consistent.replied _ _ _ hold).1
    · rcases hnew _ _ _ hr' with hold' | ⟨-, hop', heffect'⟩
      · exact absurd (hreplied _ _ hop heffect).1 (h.consistent.replied _ _ _ hold').1
      · refine ⟨WireMessage.offer.inj (Option.some.inj (hop.symm.trans hop')), ?_⟩
        exact WireMessage.reply.inj
          (Option.some.inj (congrArg Effect.sent (heffect.symm.trans heffect')))
  · exact fun i _ _ _ _ ha ha' =>
      h.acceptedOnce i _ _ _ _ (haccepted _ _ _ ha) (haccepted _ _ _ ha')
  · exact h.initiatorVerified
  · intro j' hs
    rcases eq_or_ne j' j with rfl | hj
    · rw [World.callResponder_self] at hs ⊢
      exact hverified hs
    · have hother : (w.callResponder K j op).responders j' = w.responders j' :=
        Function.update_of_ne hj ..
      rw [hother] at hs ⊢
      exact h.responderVerified j' hs

section Calls
variable [DecidableEq ι] [DecidableEq ρ]

/-- An initiator takes its peer's envelopes only. -/
theorem Authentic.complete (hK : K.ParsesCompact) (h : f.Authentic w) (i : ι) (now : UInt64)
    {envelope : SignedWireMessage} (hunforged : f.Unforged w envelope) :
    f.Authentic (f.step w (.complete i now envelope)) := by
  have hbasis := h.consistent.initiatorBasis i
  have hbinding : (w.initiators i).channelBinding = some ⟨f.key (.inl i), f.initiatorPeer i⟩ :=
    hbasis.channelBinding.trans (f.initiator_bound i)
  cases hc : Session.checkSigner K (w.initiators i).channelBinding (w.initiators i).config
      envelope with
  | error e =>
    have hmachine : InitiatorSession.machine K (w.initiators i) (.processReplySigned now envelope) =
        ⟨.error e, w.initiators i⟩ := by
      simp [InitiatorSession.machine, InitiatorSession.processReplySigned, hc, Step.mapOk,
        Except.map]
    rw [step, World.callInitiator_of_error hmachine]
    exact h.passedOver _ _
  | ok u =>
    obtain ⟨hkey, hsent⟩ := sentBy_of_checkSigner hK hunforged (f.initiatorPeer_owns i)
      (hbinding ▸ hc)
    refine h.initiator_step (h.consistent.callInitiator i _ ?_) ?_ ?_
    · intro m hm
      rw [← Option.some.inj hm]
      exact hsent.sent
    · intro reply result hop heffect
      have hreply : envelope.message = .reply reply := Option.some.inj hop
      constructor
      · intro hs
        cases InitiatorSession.machine_callCases K (w.initiators i)
            (.processReplySigned now envelope) with
        | accepts now' reply' _ haccepts _ _ _ _ => cases hs.symm.trans haccepts.state
        | quiet he _ _ _ => cases heffect.symm.trans he
        | offers hnone _ _ _ => cases hnone
        | reveals _ _ _ hnone _ _ _ _ => cases hnone
      · rintro j sentAt rfl
        rw [hreply] at hsent
        exact hsent.reply_key h.consistent
    · intro _
      rw [← hkey]
      exact InitiatorSession.processReplySigned_verifiedPeer hbinding hc

theorem Authentic.reply (hK : K.ParsesCompact) (h : f.Authentic w) (j : ρ) (now sentAt : UInt64)
    (drawn : SessionNonce) {envelope : SignedWireMessage} (hunforged : f.Unforged w envelope) :
    f.Authentic (f.step w (.reply j now sentAt drawn envelope)) := by
  have hbasis := h.consistent.responderBasis j
  have hbinding : (w.responders j).channelBinding = some ⟨f.key (.inr j), f.responderPeer j⟩ :=
    hbasis.channelBinding.trans (f.responder_bound j)
  cases hc : Session.checkSigner K (w.responders j).channelBinding (w.responders j).config
      envelope with
  | error e =>
    have hmachine : ResponderSession.machine K (w.responders j) (.processOfferAndReplySigned now
        sentAt drawn (f.owner (.inr j)) envelope) = ⟨.error e, w.responders j⟩ := by
      simp [ResponderSession.machine, ResponderSession.processOfferAndReplySigned, hc, Step.mapOk,
        Except.map]
    rw [step, World.callResponder_of_error hmachine]
    exact h.passedOver _ _
  | ok u =>
    obtain ⟨hkey, hsent⟩ := sentBy_of_checkSigner hK hunforged (f.responderPeer_owns j)
      (hbinding ▸ hc)
    refine h.responder_step (h.consistent.callResponder j _ ?_) ?_ ?_
    · intro m hm
      rw [← Option.some.inj hm]
      exact hsent.sent
    · intro offer reply hop heffect
      have hoffer : envelope.message = .offer offer := Option.some.inj hop
      cases ResponderSession.machine_callCases K (w.responders j)
          (.processOfferAndReplySigned now sentAt drawn (f.owner (.inr j)) envelope) with
      | replies _ _ _ offer' hop' haccepts _ _ _ =>
        obtain rfl : offer' = offer := WireMessage.offer.inj (Option.some.inj (hop'.symm.trans hop))
        refine ⟨haccepts.state, ?_⟩
        rintro i rfl
        rw [hoffer] at hsent
        exact ⟨hsent.offer_key h.consistent, haccepts.sessionId.trans hbasis.sessionId⟩
      | quiet he _ _ => cases heffect.symm.trans he
      | completes _ _ _ _ _ _ he _ => cases heffect.symm.trans he
    · intro _
      rw [← hkey]
      exact ResponderSession.processOfferAndReplySigned_verifiedPeer hbinding hc

theorem Authentic.finish (hK : K.ParsesCompact) (h : f.Authentic w) (j : ρ) (now : UInt64)
    {envelope : SignedWireMessage} (hunforged : f.Unforged w envelope) :
    f.Authentic (f.step w (.finish j now envelope)) := by
  have hbasis := h.consistent.responderBasis j
  have hbinding : (w.responders j).channelBinding = some ⟨f.key (.inr j), f.responderPeer j⟩ :=
    hbasis.channelBinding.trans (f.responder_bound j)
  cases hc : Session.checkSigner K (w.responders j).channelBinding (w.responders j).config
      envelope with
  | error e =>
    have hmachine :
        ResponderSession.machine K (w.responders j) (.processRevealSigned now envelope) = ⟨.error e, w.responders j⟩ := by
      simp [ResponderSession.machine, ResponderSession.processRevealSigned, hc, Step.mapOk,
        Except.map]
    rw [step, World.callResponder_of_error hmachine]
    exact h.passedOver _ _
  | ok u =>
    obtain ⟨-, hsent⟩ := sentBy_of_checkSigner hK hunforged (f.responderPeer_owns j)
      (hbinding ▸ hc)
    refine h.responder_step (h.consistent.callResponder j _ ?_) ?_ ?_
    · intro m hm
      rw [← Option.some.inj hm]
      exact hsent.sent
    · intro offer reply _ heffect
      cases ResponderSession.machine_callCases K (w.responders j)
          (.processRevealSigned now envelope) with
      | replies _ _ _ _ _ haccepts _ hnext _ =>
        obtain he | ⟨hstate, -⟩ :=
          ResponderSession.processRevealSigned_next K now (w.responders j) envelope
        · cases haccepts.state.symm.trans ((congrArg ResponderSession.state he).symm.trans hnext)
        · cases haccepts.state.symm.trans hstate
      | quiet he _ _ => cases heffect.symm.trans he
      | completes _ _ _ _ _ _ he _ => cases heffect.symm.trans he
    · intro hs
      change (ResponderSession.processRevealSigned K now (w.responders j) envelope).next.state ≠
        .created at hs
      change (ResponderSession.processRevealSigned K now (w.responders j)
        envelope).next.verifiedPeer = _
      obtain he | ⟨hstate, he⟩ :=
        ResponderSession.processRevealSigned_next K now (w.responders j) envelope
      · rw [he] at hs ⊢
        exact h.responderVerified j hs
      · rw [he]
        exact h.responderVerified j (by simp [hstate])

/-- An offer or a reveal takes nothing in. -/
theorem Authentic.offer (h : f.Authentic w) (i : ι) : f.Authentic (f.step w (.offer i)) := by
  refine h.initiator_step (h.consistent.callInitiator i _ nofun) nofun ?_
  intro hs
  obtain ⟨-, he⟩ | ⟨-, he⟩ := InitiatorSession.generateOffer_cases K (w.initiators i)
  · have hnext : (InitiatorSession.machine K (w.initiators i)
        (.generateOfferSigned (f.owner (.inl i)))).next = w.initiators i := congrArg Step.next he
    rw [hnext] at hs ⊢
    exact h.initiatorVerified i hs
  · have hnext : (InitiatorSession.machine K (w.initiators i)
        (.generateOfferSigned (f.owner (.inl i)))).next = (w.initiators i).afterOffer K :=
      congrArg Step.next he
    rw [hnext] at hs
    cases hs

theorem Authentic.reveal (h : f.Authentic w) (i : ι) (now : UInt64) (drawn : SessionNonce) :
    f.Authentic (f.step w (.reveal i now drawn)) :=
  h.initiator_step (h.consistent.callInitiator i _ nofun) nofun (h.initiatorVerified i)

theorem Attacked.authentic (hK : K.ParsesCompact) (h : f.Attacked w) : f.Authentic w := by
  induction h with
  | start => exact authentic_start f
  | call _ c hc ih =>
    cases c with
    | offer i => exact ih.offer i
    | reply j now sentAt drawn envelope => exact ih.reply hK j now sentAt drawn (hc _ rfl)
    | complete i now envelope => exact ih.complete hK i now (hc _ rfl)
    | reveal i now drawn => exact ih.reveal i now drawn
    | finish j now envelope => exact ih.finish hK j now (hc _ rfl)

end Calls

end Invariant

/-! ## Pairs -/

/-- An initiator and a responder that mean each other, and have answered each other. -/
structure Paired (f : BoundFleet K ι ρ) (w : World ι ρ) (i : ι) (j : ρ) : Prop where
  initiatorPeer : f.initiatorPeer i = f.key (.inr j)
  responderPeer : f.responderPeer j = f.key (.inl i)
  sessionId : (f.initiator i).sessionId = (f.responder j).sessionId
  exchanged : ∃ offer reply, w.Offered i offer ∧ w.Replied j offer reply ∧
    w.Accepted i reply (.ofSet K (f.common i j) (f.initiator i).mode)

section Pairs
variable {f : BoundFleet K ι ρ} {w : World ι ρ}

theorem replied_explained (h : f.Consistent w) {j : ρ} {offer : MaskedSetOffer}
    {reply : MaskedSetReply} (hr : w.Replied j offer reply) :
    ∃ i sentAt, offer = f.offer i ∧ reply = f.reply j i sentAt := by
  generalize hrecord :
    (⟨.inr j, some (.offer offer), .sends (.reply reply)⟩ : Record ι ρ) = r at hr
  cases h.explained r (hrecord ▸ hr) with
  | replied j' i sentAt _ =>
    cases hrecord
    exact ⟨i, sentAt, rfl, rfl⟩
  | _ => cases hrecord

/-- The nonces in a reply tell which two sessions it ties together. -/
theorem reply_injective {i i' : ι} {j j' : ρ} {sentAt sentAt' : UInt64}
    (h : f.reply j i sentAt = f.reply j' i' sentAt') : i = i' ∧ j = j' :=
  ⟨f.initiator_nonce (Option.some.inj (congrArg MaskedSetReply.initiatorNonce h)),
    f.responder_nonce (Option.some.inj (congrArg MaskedSetReply.responderNonce h))⟩

theorem Authentic.paired (h : f.Authentic w) (hm : f.MaskLawfully)
    (hhash : Set.InjOn (Session.hashToPublicKey K) f.allIds) {i : ι} {j : ρ} {sentAt : UInt64}
    (ha : w.Accepted i (f.reply j i sentAt) (f.initiatorResult i j)) : f.Paired w i j := by
  obtain ⟨j', sentAt', hreply, -, hoffered, hreplied⟩ := h.consistent.accepted_explained ha
  obtain ⟨-, rfl⟩ := reply_injective hreply
  rw [← hreply] at hreplied
  obtain ⟨hkey, hsession⟩ := h.replied j i _ hreplied
  rw [Fleet.initiatorResult_eq hm hhash] at ha
  exact ⟨(h.accepted i j _ _ ha).symm, hkey.symm, hsession, _, _, hoffered, hreplied, ha⟩

/-- A session has one partner at most. -/
theorem Authentic.paired_unique (h : f.Authentic w) {i i' : ι} {j j' : ρ} (hp : f.Paired w i j)
    (hp' : f.Paired w i' j') : i = i' ↔ j = j' := by
  obtain ⟨offer, reply, -, hreplied, haccepted⟩ := hp.exchanged
  obtain ⟨offer', reply', -, hreplied', haccepted'⟩ := hp'.exchanged
  obtain ⟨i₁, sentAt, -, hreply⟩ := replied_explained h.consistent hreplied
  obtain ⟨i₂, sentAt', -, hreply'⟩ := replied_explained h.consistent hreplied'
  constructor
  · rintro rfl
    have hsame := h.acceptedOnce i _ _ _ _ haccepted haccepted'
    rw [hreply, hreply'] at hsame
    exact (reply_injective hsame).2
  · rintro rfl
    have hsame := (h.repliedOnce j _ _ _ _ hreplied hreplied').2
    obtain ⟨j₁, sentAt₁, he, -⟩ := h.consistent.accepted_explained haccepted
    obtain ⟨j₂, sentAt₂, he', -⟩ := h.consistent.accepted_explained haccepted'
    rw [he, he'] at hsame
    exact (reply_injective hsame).1

end Pairs

end BoundFleet

/-- Whatever an attacker does with the envelopes of bound sessions, a session that completes has
one partner: a session of the peer it is bound to, which is bound to its own owner in turn,
under one session identifier, and both report what their two sets have in common. -/
theorem bound_sessions_pair {K : Crates} (hK : K.ParsesCompact) {ι ρ : Type} [DecidableEq ι]
    [DecidableEq ρ] (f : BoundFleet K ι ρ) (hm : f.MaskLawfully)
    (hhash : Set.InjOn (Session.hashToPublicKey K) f.allIds) (w : World ι ρ) (h : f.Attacked w) :
    (∀ i, (w.initiators i).state = .complete →
      (w.initiators i).verifiedPeer = some (f.initiatorPeer i) ∧ ∃! j, f.Paired w i j) ∧
    ∀ j, (w.responders j).state = .complete →
      (w.responders j).verifiedPeer = some (f.responderPeer j) ∧
        ∃ i, (f.Paired w i j ∧ ∀ i', f.Paired w i' j → i' = i) ∧
          (w.initiators i).state = .complete ∧
          ∃ reveal, w.Revealed i reveal ∧
            w.Completed j reveal (.ofSet K (f.common i j) (f.responder j).mode) := by
  have hw := h.authentic hK
  constructor
  · intro i hs
    obtain ⟨j, sentAt, ha, -⟩ := hw.consistent.complete i hs
    have hp := hw.paired hm hhash ha
    exact ⟨hw.initiatorVerified i hs, j, hp, fun j' hp' => ((hw.paired_unique hp' hp).mp rfl)⟩
  · intro j hs
    obtain ⟨i, sentAt, hc⟩ := hw.consistent.responderComplete j hs
    obtain ⟨i', sentAt', hreveal, -, hrevealed⟩ := hw.consistent.completed_explained hc
    obtain ⟨j', repliedAt, sentAt'', he, ha⟩ := hw.consistent.revealed_explained hrevealed
    obtain rfl : i' = i :=
      f.initiator_nonce (Option.some.inj (congrArg IntersectionReveal.initiatorNonce hreveal)).symm
    obtain rfl : j = j' :=
      f.responder_nonce (Option.some.inj (congrArg IntersectionReveal.responderNonce he))
    have hp := hw.paired hm hhash ha
    have hcreated : (w.responders j).state ≠ .created := by simp [hs]
    rw [Fleet.responderResult_eq hm hhash, hreveal] at hc
    exact ⟨hw.responderVerified j hcreated, i',
      ⟨hp, fun i'' hp' => ((hw.paired_unique hp' hp).mpr rfl)⟩,
      hw.consistent.accepted i' _ _ ha, _, hrevealed, hc⟩

/-! ## Two sessions -/

/-- What was put on the network, in the envelope of its owner, is no forgery. -/
theorem BoundFleet.SentBy.unforged {K : Crates} {ι ρ : Type} {f : BoundFleet K ι ρ} {w : World ι ρ}
    {s : ι ⊕ ρ} {m : WireMessage} (h : f.SentBy w (f.key s) m) :
    f.Unforged w (.sign K m (f.owner s)) := by
  intro _ _
  refine ⟨m, h, rfl, ?_⟩
  change Set.InjOn K.sha256 {m.bodyBytes K, m.bodyBytes K}
  rw [Set.pair_eq_singleton]
  exact Set.injOn_singleton ..

def sampleBoundFleet : BoundFleet .reference Unit Unit where
  initiator _ := boundInitiator
  responder _ := boundResponder
  initiator_constructed _ := boundInitiator_bound.constructed
  responder_constructed _ := boundResponder_bound.constructed
  initiator_fresh _ := rfl
  responder_fresh _ := rfl
  initiator_nonce _ _ _ := rfl
  responder_nonce _ _ _ := rfl
  owner := Sum.elim (fun _ => sampleIdentityA) (fun _ => sampleIdentityB)
  initiatorPeer _ := sampleIdentityB.publicIdentity .reference
  responderPeer _ := sampleIdentityA.publicIdentity .reference
  initiator_bound _ := rfl
  responder_bound _ := rfl
  initiatorPeer_owns _ := ⟨.inr (), rfl⟩
  responderPeer_owns _ := ⟨.inl (), rfl⟩

def sampleOffered : World Unit Unit := sampleBoundFleet.step sampleBoundFleet.start (.offer ())

def sampleReplied : World Unit Unit :=
  sampleBoundFleet.step sampleOffered (.reply () 1001 1001 ⟨filled 1⟩
    (.sign .reference (.offer (sampleBoundFleet.offer ())) sampleIdentityA))

def sampleCompleted : World Unit Unit :=
  sampleBoundFleet.step sampleReplied (.complete () 1002
    (.sign .reference (.reply (sampleBoundFleet.reply () () 1001)) sampleIdentityB))

theorem sampleReplied_machine :
    ResponderSession.machine .reference boundResponder (.processOfferAndReplySigned 1001 1001
      ⟨filled 1⟩ (sampleBoundFleet.owner (.inr ()))
      (.sign .reference (.offer (sampleBoundFleet.offer ())) sampleIdentityA)) =
    ((boundResponder.verified (sampleIdentityA.publicIdentity .reference)).processOfferAndReply
      .reference 1001 1001 ⟨filled 1⟩ (sampleBoundFleet.offer ())).mapOk
        (fun reply => .signed (.sign .reference (.reply reply) sampleIdentityB)) := by
  rw [ResponderSession.machine, ResponderSession.processOfferAndReplySigned_sign
    (Crates.reference_proper _) rfl]
  rfl

theorem sampleCompleted_state : (sampleCompleted.initiators ()).state = .complete := by
  have hreply := InitiatorSession.processReplySigned_sign
    (s := boundInitiator.afterOffer .reference) (Crates.reference_proper sampleIdentityB) rfl 1002
    (sampleBoundFleet.reply () () 1001)
  have hbefore : sampleReplied.initiators () = boundInitiator.afterOffer .reference := rfl
  rw [sampleCompleted, BoundFleet.step, World.callInitiator_self, hbefore, InitiatorSession.machine,
    hreply]
  rfl

theorem sampleCompleted_attacked : sampleBoundFleet.Attacked sampleCompleted := by
  have hoffered : sampleBoundFleet.SentBy sampleOffered (sampleBoundFleet.key (.inl ()))
      (.offer (sampleBoundFleet.offer ())) := ⟨_, List.mem_cons_self, rfl, rfl⟩
  have hreplied : sampleBoundFleet.SentBy sampleReplied (sampleBoundFleet.key (.inr ()))
      (.reply (sampleBoundFleet.reply () () 1001)) := by
    refine ⟨_, List.mem_cons_self, ?_, rfl⟩
    change (effectOf (ResponderSession.machine .reference boundResponder _).output).sent = _
    rw [sampleReplied_machine]
    rfl
  refine .call (.call (.call .start (.offer ()) nofun) (.reply () 1001 1001 ⟨filled 1⟩ _) ?_)
    (.complete () 1002 _) ?_
  · rintro envelope ⟨⟩
    exact hoffered.unforged
  · rintro envelope ⟨⟩
    exact hreplied.unforged

theorem bound_sessions_pair_sample :
    (sampleCompleted.initiators ()).verifiedPeer =
        some (sampleIdentityB.publicIdentity .reference) ∧
      ∃! j, sampleBoundFleet.Paired sampleCompleted () j := by
  have hids : sampleBoundFleet.allIds ⊆
      {x | x ∈ samplePartyA.factSet.ids ∨ x ∈ samplePartyB.factSet.ids} := by
    rintro x (⟨i, hx⟩ | ⟨j, hx⟩)
    · exact .inl hx
    · exact .inr hx
  exact (bound_sessions_pair Crates.reference_parsesCompact sampleBoundFleet
    (fun _ _ => sample_lawful) (sample_injOn.mono hids)
    sampleCompleted sampleCompleted_attacked).1 () sampleCompleted_state

end BlindOverlap
