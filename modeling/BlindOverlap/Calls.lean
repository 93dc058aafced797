import BlindOverlap.InitiatorSession
import BlindOverlap.ResponderSession

/-!
# What a call comes to

Seen from outside, a call on a session takes a message in or not, sends one out
or not, and reports a result or not. Each role has few ways to do so.
-/
namespace BlindOverlap

/-- What an answer makes public: a message, or a result. -/
structure Effect where
  sent : Option WireMessage
  result : Option PsiResult
  deriving DecidableEq

def effectOf (output : Except SessionError SessionOutput) : Effect where
  sent := succeeded SessionOutput.sent? output
  result := succeeded SessionOutput.result? output

namespace Effect

def silent : Effect := ⟨none, none⟩

def sends (m : WireMessage) : Effect := ⟨some m, none⟩

def reports (r : PsiResult) : Effect := ⟨none, some r⟩

end Effect

@[simp] theorem effectOf_error (e : SessionError) : effectOf (.error e) = .silent := rfl

namespace InitiatorOp

/-- The message that a call takes in, out of its envelope. -/
def received? : InitiatorOp → Option WireMessage
  | .processReply _ reply => some (.reply reply)
  | .processReplySigned _ signed => some signed.message
  | _ => none

end InitiatorOp

namespace InitiatorSession

/-- A call makes the offer, accepts a reply, makes a reveal, or does nothing that
could be seen. -/
inductive CallCases (K : Crates) (s : InitiatorSession) (op : InitiatorOp)
    (effect : Effect) (next : InitiatorSession) : Prop where
  | quiet (heffect : effect = .silent) (hstate : next.state = s.state)
      (hmasked : next.responderMasked = s.responderMasked)
      (hnonce : s.state = .complete → next.responderNonce = s.responderNonce)
  | offers (hop : op.received? = none) (hstate : s.state = .created)
      (heffect : effect = .sends (.offer (s.offerMessage K))) (hnext : next.state = .awaitingReply)
  | accepts (now : UInt64) (reply : MaskedSetReply) (hop : op.received? = some (.reply reply))
      (haccepts : s.AcceptsReply now reply) (heffect : effect = .reports (s.replyResult K reply))
      (hnext : next.state = .complete) (hmasked : next.responderMasked = some reply.responderMasked)
      (hnonce : s.seesFreshness reply = true → next.responderNonce = reply.responderNonce)
  | reveals (now : UInt64) (drawn : SessionNonce) (received : List MaskedElement)
      (hop : op.received? = none) (hstate : s.state = .complete)
      (hmasked : s.responderMasked = some received)
      (heffect : effect = .sends (.reveal (s.revealMessage K now drawn received)))
      (hnext : next = s)

theorem CallCases.unchanged {K : Crates} {s : InitiatorSession} {op : InitiatorOp} :
    CallCases K s op .silent s := .quiet rfl rfl rfl (fun _ => rfl)

theorem offer_callCases {K : Crates} {s : InitiatorSession} {op : InitiatorOp}
    {f : MaskedSetOffer → SessionOutput} (hop : op.received? = none)
    (hf : ∀ m, effectOf (.ok (f m)) = .sends (.offer m)) :
    CallCases K s op (effectOf ((s.generateOffer K).output.map f)) (s.generateOffer K).next := by
  obtain ⟨-, he⟩ | ⟨hs, he⟩ := generateOffer_cases K s
  · rw [he]
    exact .unchanged
  · rw [he]
    exact .offers hop hs (hf _) rfl

/-- The signer noted on the way makes no difference. -/
theorem reply_callCases {K : Crates} {now : UInt64} {s : InitiatorSession} {op : InitiatorOp}
    {reply : MaskedSetReply} (hop : op.received? = some (.reply reply))
    (peer : Option PublicIdentity) :
    CallCases K s op
      (effectOf ((({ s with verifiedPeer := peer }).processReply K now reply).output.map .result))
      (({ s with verifiedPeer := peer }).processReply K now reply).next := by
  obtain ⟨e, -, he⟩ | ⟨hc, -, he⟩ | ⟨ha, he⟩ :=
    processReply_cases K now { s with verifiedPeer := peer } reply
  · rw [he]
    exact .quiet rfl rfl rfl (fun _ => rfl)
  · rw [he]
    have hawaiting : s.state = .awaitingReply := hc.state
    exact .quiet rfl rfl rfl (fun hs => by simp [hawaiting] at hs)
  · rw [he]
    have haccepts : s.AcceptsReply now reply := ⟨⟨ha.state, ha.sessionId, ha.fresh⟩, ha.count⟩
    exact .accepts now reply hop haccepts rfl rfl rfl (fun hsees => if_pos hsees)

theorem reveal_callCases {K : Crates} {now : UInt64} {drawn : SessionNonce} {s : InitiatorSession}
    {op : InitiatorOp} {f : IntersectionReveal → SessionOutput} (hop : op.received? = none)
    (hf : ∀ m, effectOf (.ok (f m)) = .sends (.reveal m)) :
    CallCases K s op (effectOf ((s.generateReveal K now drawn).map f)) s := by
  cases hr : s.generateReveal K now drawn with
  | error e => exact .unchanged
  | ok m =>
    obtain ⟨hs, received, hm, rfl⟩ := generateReveal_eq_ok_iff.mp hr
    exact .reveals now drawn received hop hs hm (hf _) rfl

theorem machine_callCases (K : Crates) (s : InitiatorSession) (op : InitiatorOp) :
    CallCases K s op (effectOf (machine K s op).output) (machine K s op).next := by
  cases op with
  | generateOffer => exact offer_callCases rfl (fun _ => rfl)
  | generateOfferSigned identity =>
    have hmap : ((s.generateOfferSigned K identity).mapOk SessionOutput.signed).output =
        (s.generateOffer K).output.map
          (fun offer => .signed (.sign K (.offer offer) identity)) := by
      cases ho : (s.generateOffer K).output <;> simp [generateOfferSigned, ho, Except.map]
    rw [machine, hmap]
    exact offer_callCases rfl (fun _ => rfl)
  | processReply now reply => exact reply_callCases rfl s.verifiedPeer
  | processReplySigned now signed =>
    rw [machine]
    obtain ⟨e, -, he⟩ | ⟨-, -, he⟩ | ⟨-, reply, hm, he⟩ := processReplySigned_cases K now s signed
    · rw [he]
      exact .unchanged
    · rw [he]
      exact .quiet rfl rfl rfl (fun _ => rfl)
    · rw [he]
      have hop : (InitiatorOp.processReplySigned now signed).received? = some (.reply reply) :=
        congrArg some hm
      exact reply_callCases hop _
  | generateReveal now drawn => exact reveal_callCases rfl (fun _ => rfl)
  | generateRevealSigned now drawn identity =>
    have hmap : (s.generateRevealSigned K now drawn identity).map SessionOutput.signed =
        (s.generateReveal K now drawn).map
          (fun reveal => .signed (.sign K (.reveal reveal) identity)) := by
      cases hr : s.generateReveal K now drawn <;> simp [generateRevealSigned, hr, Except.map]
    rw [machine, hmap]
    exact reveal_callCases rfl (fun _ => rfl)

end InitiatorSession

namespace ResponderOp

/-- The message that a call takes in, out of its envelope. -/
def received? : ResponderOp → Option WireMessage
  | .processOfferAndReply _ _ _ offer => some (.offer offer)
  | .processOfferAndReplySigned _ _ _ _ signed => some signed.message
  | .processReveal _ reveal => some (.reveal reveal)
  | .processRevealSigned _ signed => some signed.message

end ResponderOp

namespace ResponderSession

/-- A call answers an offer, completes on a reveal, or does nothing that could be seen. -/
inductive CallCases (K : Crates) (s : ResponderSession) (op : ResponderOp)
    (effect : Effect) (next : ResponderSession) : Prop where
  | quiet (heffect : effect = .silent) (hstate : next.state = s.state)
      (hmasked : next.initiatorDoublyMasked = s.initiatorDoublyMasked)
  | replies (now sentAt : UInt64) (drawn : SessionNonce) (offer : MaskedSetOffer)
      (hop : op.received? = some (.offer offer)) (haccepts : s.AcceptsOffer now offer)
      (heffect : effect = .sends (.reply (s.replyMessage K sentAt drawn offer)))
      (hnext : next.state = .replySent)
      (hmasked : next.initiatorDoublyMasked =
        some (Session.maskReceived K s.secret offer.maskedElements))
  | completes (now : UInt64) (reveal : IntersectionReveal) (theirs : List MaskedElement)
      (hop : op.received? = some (.reveal reveal)) (haccepts : s.AcceptsReveal now reveal)
      (htheirs : s.initiatorDoublyMasked = some theirs)
      (heffect : effect = .reports (s.revealResult K reveal theirs))
      (hnext : next = s.completed)

theorem CallCases.unchanged {K : Crates} {s : ResponderSession} {op : ResponderOp} :
    CallCases K s op .silent s := .quiet rfl rfl rfl

theorem offer_callCases {K : Crates} {now sentAt : UInt64} {drawn : SessionNonce}
    {s : ResponderSession} {op : ResponderOp} {offer : MaskedSetOffer}
    {f : MaskedSetReply → SessionOutput} (hop : op.received? = some (.offer offer))
    (hf : ∀ m, effectOf (.ok (f m)) = .sends (.reply m)) (peer : Option PublicIdentity) :
    CallCases K s op
      (effectOf ((({ s with verifiedPeer := peer }).processOfferAndReply K now sentAt drawn
        offer).output.map f))
      (({ s with verifiedPeer := peer }).processOfferAndReply K now sentAt drawn offer).next := by
  obtain ⟨e, -, he⟩ | ⟨ha, he⟩ :=
    processOfferAndReply_cases K now sentAt drawn { s with verifiedPeer := peer } offer
  · rw [he]
    exact .quiet rfl rfl rfl
  · rw [he]
    exact .replies now sentAt drawn offer hop ⟨ha.state, ha.sessionId, ha.fresh⟩ (hf _) rfl rfl

theorem reveal_callCases {K : Crates} {now : UInt64} {s : ResponderSession} {op : ResponderOp}
    {reveal : IntersectionReveal} (hop : op.received? = some (.reveal reveal)) :
    CallCases K s op (effectOf ((s.processReveal K now reveal).output.map .result))
      (s.processReveal K now reveal).next := by
  obtain ⟨e, -, he⟩ | ⟨-, -, he⟩ | ⟨-, -, he⟩ | ⟨ha, theirs, ht, he⟩ :=
    processReveal_cases K now s reveal
  · rw [he]
    exact .unchanged
  · rw [he]
    exact .unchanged
  · rw [he]
    exact .unchanged
  · rw [he]
    exact .completes now reveal theirs hop ha ht rfl rfl

theorem machine_callCases (K : Crates) (s : ResponderSession) (op : ResponderOp) :
    CallCases K s op (effectOf (machine K s op).output) (machine K s op).next := by
  cases op with
  | processOfferAndReply now sentAt drawn offer =>
    exact offer_callCases rfl (fun _ => rfl) s.verifiedPeer
  | processOfferAndReplySigned now sentAt drawn identity signed =>
    rw [machine]
    obtain ⟨e, -, he⟩ | ⟨-, -, he⟩ | ⟨-, offer, hm, he⟩ :=
      processOfferAndReplySigned_cases K now sentAt drawn identity s signed
    · rw [he]
      exact .unchanged
    · rw [he]
      exact .quiet rfl rfl rfl
    · have hmap : ∀ x : Except SessionError MaskedSetReply,
          (x.map (fun reply => SignedWireMessage.sign K (.reply reply) identity)).map
            SessionOutput.signed =
          x.map (fun reply => .signed (.sign K (.reply reply) identity)) := by
        intro x
        cases x <;> rfl
      rw [he, Step.mapOk_output, Step.mapOk_output, hmap]
      have hop :
          (ResponderOp.processOfferAndReplySigned now sentAt drawn identity signed).received? =
            some (.offer offer) := congrArg some hm
      exact offer_callCases hop (fun _ => rfl) _
  | processReveal now reveal => exact reveal_callCases rfl
  | processRevealSigned now signed =>
    rw [machine]
    obtain ⟨e, -, he⟩ | ⟨-, -, he⟩ | ⟨-, reveal, hm, he⟩ := processRevealSigned_cases K now s signed
    · rw [he]
      exact .unchanged
    · rw [he]
      exact .unchanged
    · rw [he]
      exact reveal_callCases (congrArg some hm)

end ResponderSession

end BlindOverlap
