import BlindOverlap.Calls
import BlindOverlap.Lifecycle

/-!
# Many sessions on one network

Any number of sessions of both roles exchange what they themselves sent. The
network loses, repeats, reorders and misroutes messages, and may wrap them in other
envelopes, but does not alter them. The invariant says what every message on the
network must have been made from: the echoed nonces tie it to one offer and one
answer, and with them to the masked lists that travelled along.
-/
namespace BlindOverlap

/-- The sessions at the start: fresh, and told apart by their nonces. -/
structure Fleet (K : Crates) (ι ρ : Type) where
  initiator : ι → InitiatorSession
  responder : ρ → ResponderSession
  initiator_constructed : ∀ i, InitiatorSession.Constructed K (initiator i)
  responder_constructed : ∀ j, ResponderSession.Constructed K (responder j)
  initiator_fresh : ∀ i, (initiator i).config.useFreshness = true
  responder_fresh : ∀ j, (responder j).config.useFreshness = true
  initiator_nonce : Function.Injective (fun i => (initiator i).nonce)
  responder_nonce : Function.Injective (fun j => (responder j).nonce)

/-- One call on a session: what it took in, and what it made public. -/
structure Record (ι ρ : Type) where
  session : ι ⊕ ρ
  received : Option WireMessage
  effect : Effect

/-- All sessions as they are, and every call so far. -/
structure World (ι ρ : Type) where
  initiators : ι → InitiatorSession
  responders : ρ → ResponderSession
  calls : List (Record ι ρ)

namespace World
variable {ι ρ : Type}

/-- The messages on the network. -/
def Sent (w : World ι ρ) (m : WireMessage) : Prop := ∃ r ∈ w.calls, r.effect.sent = some m

def Offered (w : World ι ρ) (i : ι) (offer : MaskedSetOffer) : Prop :=
  ⟨.inl i, none, .sends (.offer offer)⟩ ∈ w.calls

/-- A responder made the reply while processing the offer. -/
def Replied (w : World ι ρ) (j : ρ) (offer : MaskedSetOffer) (reply : MaskedSetReply) : Prop :=
  ⟨.inr j, some (.offer offer), .sends (.reply reply)⟩ ∈ w.calls

def Accepted (w : World ι ρ) (i : ι) (reply : MaskedSetReply) (result : PsiResult) : Prop :=
  ⟨.inl i, some (.reply reply), .reports result⟩ ∈ w.calls

def Revealed (w : World ι ρ) (i : ι) (reveal : IntersectionReveal) : Prop :=
  ⟨.inl i, none, .sends (.reveal reveal)⟩ ∈ w.calls

def Completed (w : World ι ρ) (j : ρ) (reveal : IntersectionReveal) (result : PsiResult) : Prop :=
  ⟨.inr j, some (.reveal reveal), .reports result⟩ ∈ w.calls

variable [DecidableEq ι] [DecidableEq ρ]

def callInitiator (K : Crates) (w : World ι ρ) (i : ι) (op : InitiatorOp) : World ι ρ :=
  let step := InitiatorSession.machine K (w.initiators i) op
  { w with
    initiators := Function.update w.initiators i step.next
    calls := ⟨.inl i, op.received?, effectOf step.output⟩ :: w.calls }

def callResponder (K : Crates) (w : World ι ρ) (j : ρ) (op : ResponderOp) : World ι ρ :=
  let step := ResponderSession.machine K (w.responders j) op
  { w with
    responders := Function.update w.responders j step.next
    calls := ⟨.inr j, op.received?, effectOf step.output⟩ :: w.calls }

end World

namespace Fleet
variable {K : Crates} {ι ρ : Type}

def start (f : Fleet K ι ρ) : World ι ρ := ⟨f.initiator, f.responder, []⟩

/-- The worlds that calls lead to, every message taken in being on the network. -/
inductive Reachable [DecidableEq ι] [DecidableEq ρ] (f : Fleet K ι ρ) : World ι ρ → Prop where
  | start : Reachable f f.start
  | initiator {w : World ι ρ} (h : Reachable f w) (i : ι) (op : InitiatorOp)
      (hop : ∀ m ∈ op.received?, w.Sent m) : Reachable f (w.callInitiator K i op)
  | responder {w : World ι ρ} (h : Reachable f w) (j : ρ) (op : ResponderOp)
      (hop : ∀ m ∈ op.received?, w.Sent m) : Reachable f (w.callResponder K j op)

/-! ## What a message is made from -/

/-- The one offer of an initiator. -/
def offer (f : Fleet K ι ρ) (i : ι) : MaskedSetOffer :=
  .newV2 (f.initiator i).sessionId
    (Session.maskIds K (f.initiator i).secret (f.initiator i).originalIds) (f.initiator i).nonce
    (f.initiator i).deadline

/-- What a responder answers to it. -/
def reply (f : Fleet K ι ρ) (j : ρ) (i : ι) (sentAt : UInt64) : MaskedSetReply :=
  .newV2 (f.responder j).sessionId
    (Session.maskIds K (f.responder j).secret (f.responder j).originalIds)
    (Session.maskReceived K (f.responder j).secret (f.offer i).maskedElements)
    (f.initiator i).nonce (f.responder j).nonce (.new sentAt (f.responder j).config.ttlSecs)

/-- What the initiator reveals after that answer. -/
def reveal (f : Fleet K ι ρ) (i : ι) (j : ρ) (sentAt : UInt64) : IntersectionReveal :=
  .newV2 (f.initiator i).sessionId
    (Session.maskReceived K (f.initiator i).secret
      (Session.maskIds K (f.responder j).secret (f.responder j).originalIds))
    (f.initiator i).nonce (f.responder j).nonce (.new sentAt (f.initiator i).config.ttlSecs)

/-- The two results of an exchange between an initiator and a responder. -/
def initiatorResult (f : Fleet K ι ρ) (i : ι) (j : ρ) : PsiResult :=
  intersectMasked K
    (Session.maskReceived K (f.responder j).secret (f.offer i).maskedElements)
    (Session.maskReceived K (f.initiator i).secret
      (Session.maskIds K (f.responder j).secret (f.responder j).originalIds))
    (f.initiator i).originalIds (f.initiator i).mode

def responderResult (f : Fleet K ι ρ) (i : ι) (j : ρ) : PsiResult :=
  intersectMasked K
    (Session.maskReceived K (f.initiator i).secret
      (Session.maskIds K (f.responder j).secret (f.responder j).originalIds))
    (Session.maskReceived K (f.responder j).secret (f.offer i).maskedElements)
    (f.responder j).originalIds (f.responder j).mode

/-- Every call with an effect is one of five, each made possible by an earlier one. -/
inductive Explained (f : Fleet K ι ρ) (w : World ι ρ) : Record ι ρ → Prop where
  | silent (session : ι ⊕ ρ) (received : Option WireMessage) :
      Explained f w ⟨session, received, .silent⟩
  | offered (i : ι) : Explained f w ⟨.inl i, none, .sends (.offer (f.offer i))⟩
  | replied (j : ρ) (i : ι) (sentAt : UInt64) (h : w.Offered i (f.offer i)) :
      Explained f w
        ⟨.inr j, some (.offer (f.offer i)), .sends (.reply (f.reply j i sentAt))⟩
  | accepted (i : ι) (j : ρ) (sentAt : UInt64)
      (h : w.Offered i (f.offer i) ∧ w.Replied j (f.offer i) (f.reply j i sentAt)) :
      Explained f w
        ⟨.inl i, some (.reply (f.reply j i sentAt)), .reports (f.initiatorResult i j)⟩
  | revealed (i : ι) (j : ρ) (repliedAt sentAt : UInt64)
      (h : w.Accepted i (f.reply j i repliedAt) (f.initiatorResult i j)) :
      Explained f w ⟨.inl i, none, .sends (.reveal (f.reveal i j sentAt))⟩
  | completed (j : ρ) (i : ι) (sentAt : UInt64) (h : w.Revealed i (f.reveal i j sentAt)) :
      Explained f w
        ⟨.inr j, some (.reveal (f.reveal i j sentAt)), .reports (f.responderResult i j)⟩

/-- What holds in every reachable world. -/
structure Consistent (f : Fleet K ι ρ) (w : World ι ρ) : Prop where
  initiatorBasis : ∀ i, InitiatorSession.SameBasis (f.initiator i) (w.initiators i)
  responderBasis : ∀ j, ResponderSession.SameBasis (f.responder j) (w.responders j)
  explained : ∀ r ∈ w.calls, f.Explained w r
  complete : ∀ i, (w.initiators i).state = .complete → ∃ j sentAt,
    w.Accepted i (f.reply j i sentAt) (f.initiatorResult i j) ∧
    (w.initiators i).responderMasked = some (f.reply j i sentAt).responderMasked ∧
    (w.initiators i).responderNonce = some (f.responder j).nonce
  accepted : ∀ i reply result, w.Accepted i reply result → (w.initiators i).state = .complete
  replied : ∀ j offer reply, w.Replied j offer reply → (w.responders j).state ≠ .created ∧
    (w.responders j).initiatorDoublyMasked =
      some (Session.maskReceived K (f.responder j).secret offer.maskedElements)
  responderComplete : ∀ j, (w.responders j).state = .complete → ∃ i sentAt,
    w.Completed j (f.reveal i j sentAt) (f.responderResult i j)

variable {f : Fleet K ι ρ} {w w' : World ι ρ}

theorem Explained.mono (hsub : w.calls ⊆ w'.calls) {r : Record ι ρ} (h : f.Explained w r) :
    f.Explained w' r := by
  cases h with
  | silent session received => exact .silent session received
  | offered i => exact .offered i
  | replied j i sentAt h => exact .replied j i sentAt (hsub h)
  | accepted i j sentAt h => exact .accepted i j sentAt ⟨hsub h.1, hsub h.2⟩
  | revealed i j repliedAt sentAt h => exact .revealed i j repliedAt sentAt (hsub h)
  | completed j i sentAt h => exact .completed j i sentAt (hsub h)

/-! ## What is on the network -/

theorem Consistent.sent_offer (h : f.Consistent w) {m : MaskedSetOffer} (hm : w.Sent (.offer m)) :
    ∃ i, m = f.offer i ∧ w.Offered i (f.offer i) := by
  obtain ⟨r, hr, hsent⟩ := hm
  cases h.explained r hr with
  | offered i =>
    cases hsent
    exact ⟨i, rfl, hr⟩
  | _ => cases hsent

theorem Consistent.sent_reply (h : f.Consistent w) {m : MaskedSetReply} (hm : w.Sent (.reply m)) :
    ∃ j i sentAt, m = f.reply j i sentAt ∧ w.Offered i (f.offer i) ∧
      w.Replied j (f.offer i) (f.reply j i sentAt) := by
  obtain ⟨r, hr, hsent⟩ := hm
  cases h.explained r hr with
  | replied j i sentAt ho =>
    cases hsent
    exact ⟨j, i, sentAt, rfl, ho, hr⟩
  | _ => cases hsent

theorem Consistent.sent_reveal (h : f.Consistent w) {m : IntersectionReveal}
    (hm : w.Sent (.reveal m)) :
    ∃ i j repliedAt sentAt, m = f.reveal i j sentAt ∧ w.Revealed i (f.reveal i j sentAt) ∧
      w.Accepted i (f.reply j i repliedAt) (f.initiatorResult i j) := by
  obtain ⟨r, hr, hsent⟩ := hm
  cases h.explained r hr with
  | revealed i j repliedAt sentAt ha =>
    cases hsent
    exact ⟨i, j, repliedAt, sentAt, rfl, hr, ha⟩
  | _ => cases hsent

/-- An accepted reply was made for the initiator that accepted it. -/
theorem Consistent.accepted_explained (h : f.Consistent w) {i : ι} {reply : MaskedSetReply}
    {result : PsiResult} (ha : w.Accepted i reply result) :
    ∃ j sentAt, reply = f.reply j i sentAt ∧ result = f.initiatorResult i j ∧
      w.Offered i (f.offer i) ∧ w.Replied j (f.offer i) (f.reply j i sentAt) := by
  generalize hr : (⟨.inl i, some (.reply reply), .reports result⟩ : Record ι ρ) = r at ha
  cases h.explained r (hr ▸ ha) with
  | accepted i' j sentAt hreplied =>
    cases hr
    exact ⟨j, sentAt, rfl, rfl, hreplied⟩
  | _ => cases hr

theorem Consistent.completed_explained (h : f.Consistent w) {j : ρ} {reveal : IntersectionReveal}
    {result : PsiResult} (hc : w.Completed j reveal result) :
    ∃ i sentAt, reveal = f.reveal i j sentAt ∧ result = f.responderResult i j ∧
      w.Revealed i (f.reveal i j sentAt) := by
  generalize hr : (⟨.inr j, some (.reveal reveal), .reports result⟩ : Record ι ρ) = r at hc
  cases h.explained r (hr ▸ hc) with
  | completed j' i sentAt hrevealed =>
    cases hr
    exact ⟨i, sentAt, rfl, rfl, hrevealed⟩
  | _ => cases hr

theorem Consistent.revealed_explained (h : f.Consistent w) {i : ι} {reveal : IntersectionReveal}
    (hm : w.Revealed i reveal) : ∃ j repliedAt sentAt, reveal = f.reveal i j sentAt ∧
      w.Accepted i (f.reply j i repliedAt) (f.initiatorResult i j) := by
  generalize hr : (⟨.inl i, none, .sends (.reveal reveal)⟩ : Record ι ρ) = r at hm
  cases h.explained r (hr ▸ hm) with
  | revealed i' j repliedAt sentAt ha =>
    cases hr
    exact ⟨j, repliedAt, sentAt, rfl, ha⟩
  | _ => cases hr

/-! ## What a session makes of it -/

section Messages
variable {s : InitiatorSession} {t : ResponderSession} {i : ι} {j : ρ}

theorem offerMessage_eq (hs : InitiatorSession.SameBasis (f.initiator i) s) :
    s.offerMessage K = f.offer i := by
  have hfresh : s.config.useFreshness = true := hs.config ▸ f.initiator_fresh i
  rw [InitiatorSession.offerMessage_fresh hfresh, offer, hs.sessionId, hs.secret, hs.originalIds,
    hs.nonce, hs.deadline]

theorem replyResult_eq (hs : InitiatorSession.SameBasis (f.initiator i) s) (sentAt : UInt64) :
    s.replyResult K (f.reply j i sentAt) = f.initiatorResult i j := by
  rw [InitiatorSession.replyResult, hs.secret, hs.originalIds, hs.mode]
  rfl

theorem revealMessage_eq (hs : InitiatorSession.SameBasis (f.initiator i) s)
    (hnonce : s.responderNonce = some (f.responder j).nonce) (now : UInt64) (drawn : SessionNonce) :
    s.revealMessage K now drawn
      (Session.maskIds K (f.responder j).secret (f.responder j).originalIds) =
        f.reveal i j now := by
  have hfresh : s.config.useFreshness = true := hs.config ▸ f.initiator_fresh i
  rw [InitiatorSession.revealMessage_fresh hfresh, hnonce, hs.sessionId, hs.secret, hs.nonce,
    hs.config]
  rfl

theorem replyMessage_eq (ht : ResponderSession.SameBasis (f.responder j) t) (sentAt : UInt64)
    (drawn : SessionNonce) : t.replyMessage K sentAt drawn (f.offer i) = f.reply j i sentAt := by
  have hv2 : t.usesV2 (f.offer i) = true := by
    rw [ResponderSession.usesV2, ht.config, f.responder_fresh j]
    rfl
  rw [ResponderSession.replyMessage_fresh hv2, ht.sessionId, ht.secret, ht.originalIds, ht.nonce,
    ht.config]
  rfl

theorem revealResult_eq (ht : ResponderSession.SameBasis (f.responder j) t) (sentAt : UInt64) :
    t.revealResult K (f.reveal i j sentAt)
      (Session.maskReceived K (f.responder j).secret (f.offer i).maskedElements) =
        f.responderResult i j := by
  rw [ResponderSession.revealResult, ht.originalIds, ht.mode]
  rfl

/-- A reply is accepted by the initiator whose offer it answers only. -/
theorem initiator_eq_of_accepts {now : UInt64} {i' : ι} {sentAt : UInt64}
    (hs : InitiatorSession.SameBasis (f.initiator i) s)
    (ha : s.AcceptsReply now (f.reply j i' sentAt)) : i' = i := by
  obtain ⟨hnonce, -⟩ := ha.fresh (hs.config ▸ f.initiator_fresh i) rfl
  rw [hs.nonce] at hnonce
  exact f.initiator_nonce (Option.some.inj hnonce)

/-- A reveal is accepted by the responder whose reply it follows only. -/
theorem responder_eq_of_accepts {now : UInt64} {j' : ρ} {sentAt : UInt64}
    (ht : ResponderSession.SameBasis (f.responder j) t)
    (ha : t.AcceptsReveal now (f.reveal i j' sentAt)) : j' = j := by
  obtain ⟨hnonce, -⟩ := ha.fresh (ht.config ▸ f.responder_fresh j) rfl
  rw [ht.nonce] at hnonce
  exact f.responder_nonce (Option.some.inj hnonce)

theorem seesFreshness_reply (hs : InitiatorSession.SameBasis (f.initiator i) s) (i' : ι)
    (sentAt : UInt64) : s.seesFreshness (f.reply j i' sentAt) = true := by
  rw [InitiatorSession.seesFreshness, hs.config, f.initiator_fresh i]
  rfl

end Messages

/-! ## The invariant -/

theorem consistent_start (f : Fleet K ι ρ) : f.Consistent f.start where
  initiatorBasis i := .refl _
  responderBasis j := .refl _
  explained r hr := absurd hr List.not_mem_nil
  complete i hs := by
    obtain ⟨now, drawn, sessionId, factSet, mode, config, binding, -, hcreated⟩ :=
      (f.initiator_constructed i).exists_created
    simp [start, hcreated, InitiatorSession.created] at hs
  accepted i reply result ha := absurd ha List.not_mem_nil
  replied j offer reply hr := absurd hr List.not_mem_nil
  responderComplete j hs := by
    obtain ⟨drawn, sessionId, factSet, mode, config, binding, -, hcreated⟩ :=
      (f.responder_constructed j).exists_created
    simp [start, hcreated, ResponderSession.created] at hs

section Initiators
variable [DecidableEq ι]

/-- What is to be shown of one initiator's call, the other sessions being untouched. -/
theorem Consistent.initiator_step (h : f.Consistent w) {i : ι} {op : InitiatorOp}
    (hexplained : f.Explained w
      ⟨.inl i, op.received?, effectOf (InitiatorSession.machine K (w.initiators i) op).output⟩)
    (hcomplete : (InitiatorSession.machine K (w.initiators i) op).next.state = .complete →
      ∃ j sentAt, (w.callInitiator K i op).Accepted i (f.reply j i sentAt) (f.initiatorResult i j) ∧
        (InitiatorSession.machine K (w.initiators i) op).next.responderMasked =
          some (f.reply j i sentAt).responderMasked ∧
        (InitiatorSession.machine K (w.initiators i) op).next.responderNonce =
          some (f.responder j).nonce)
    (haccepted : ∀ reply result, (w.callInitiator K i op).Accepted i reply result →
      (InitiatorSession.machine K (w.initiators i) op).next.state = .complete) :
    f.Consistent (w.callInitiator K i op) := by
  have hsub : w.calls ⊆ (w.callInitiator K i op).calls := List.subset_cons_self _ _
  have hself : (w.callInitiator K i op).initiators i =
      (InitiatorSession.machine K (w.initiators i) op).next := Function.update_self ..
  have hother : ∀ i', i' ≠ i → (w.callInitiator K i op).initiators i' = w.initiators i' :=
    fun i' hi => Function.update_of_ne hi ..
  constructor
  · intro i'
    rcases eq_or_ne i' i with rfl | hi
    · rw [hself]
      exact (h.initiatorBasis i').trans (InitiatorSession.machine_orderly K _ op).basis
    · rw [hother i' hi]
      exact h.initiatorBasis i'
  · exact h.responderBasis
  · intro r hr
    rcases List.mem_cons.mp hr with rfl | hr
    · exact hexplained.mono hsub
    · exact (h.explained r hr).mono hsub
  · intro i' hs
    rcases eq_or_ne i' i with rfl | hi
    · rw [hself] at hs ⊢
      exact hcomplete hs
    · rw [hother i' hi] at hs ⊢
      obtain ⟨j, sentAt, ha, hrest⟩ := h.complete i' hs
      exact ⟨j, sentAt, hsub ha, hrest⟩
  · intro i' reply result ha
    rcases eq_or_ne i' i with rfl | hi
    · rw [hself]
      exact haccepted reply result ha
    · rw [hother i' hi]
      rcases List.mem_cons.mp ha with he | ha
      · exact absurd (Sum.inl.inj (congrArg Record.session he)) hi
      · exact h.accepted i' reply result ha
  · intro j offer reply hr
    rcases List.mem_cons.mp hr with he | hr
    · cases he
    · exact h.replied j offer reply hr
  · intro j hs
    obtain ⟨i', sentAt, hc⟩ := h.responderComplete j hs
    exact ⟨i', sentAt, hsub hc⟩

/-- A call whose record is not an acceptance leaves earlier ones as they are. -/
theorem accepted_of_callInitiator {i : ι} {op : InitiatorOp} {reply : MaskedSetReply}
    {result : PsiResult} (ha : (w.callInitiator K i op).Accepted i reply result) :
    w.Accepted i reply result ∨
      effectOf (InitiatorSession.machine K (w.initiators i) op).output = .reports result := by
  rcases List.mem_cons.mp ha with he | ha
  · exact .inr (congrArg Record.effect he).symm
  · exact .inl ha

theorem Consistent.callInitiator (h : f.Consistent w) (i : ι) (op : InitiatorOp)
    (hop : ∀ m ∈ op.received?, w.Sent m) : f.Consistent (w.callInitiator K i op) := by
  have hbasis := h.initiatorBasis i
  have hsub : w.calls ⊆ (w.callInitiator K i op).calls := List.subset_cons_self _ _
  cases InitiatorSession.machine_callCases K (w.initiators i) op with
  | quiet heffect hstate hmasked hnonce =>
    refine h.initiator_step ?_ ?_ ?_
    · rw [heffect]
      exact .silent _ _
    · intro hs
      rw [hstate] at hs
      obtain ⟨j, sentAt, ha, hm, hn⟩ := h.complete i hs
      exact ⟨j, sentAt, hsub ha, hmasked.trans hm, (hnonce hs).trans hn⟩
    · intro reply result ha
      rcases accepted_of_callInitiator ha with ha | he
      · rw [hstate]
        exact h.accepted i reply result ha
      · cases heffect.symm.trans he
  | offers hreceived hstate heffect hnext =>
    refine h.initiator_step ?_ ?_ ?_
    · rw [hreceived, heffect, offerMessage_eq hbasis]
      exact .offered i
    · intro hs
      cases hnext.symm.trans hs
    · intro reply result ha
      rcases accepted_of_callInitiator ha with ha | he
      · cases hstate.symm.trans (h.accepted i reply result ha)
      · cases heffect.symm.trans he
  | accepts now reply hreceived haccepts heffect hnext hmasked hnonce =>
    obtain ⟨j, i', sentAt, rfl, hoffered, hreplied⟩ := h.sent_reply (hop _ hreceived)
    obtain rfl : i' = i := initiator_eq_of_accepts hbasis haccepts
    rw [replyResult_eq hbasis] at heffect
    refine h.initiator_step ?_ ?_ (fun _ _ _ => hnext)
    · rw [hreceived, heffect]
      exact .accepted i' j sentAt ⟨hoffered, hreplied⟩
    · intro _
      refine ⟨j, sentAt, List.mem_cons.mpr (.inl ?_), hmasked,
        hnonce (seesFreshness_reply hbasis i' sentAt)⟩
      rw [hreceived, heffect]
  | reveals now drawn received hreceived hstate hmasked heffect hnext =>
    obtain ⟨j, repliedAt, ha, hm, hn⟩ := h.complete i hstate
    cases hmasked.symm.trans hm
    refine h.initiator_step ?_ ?_ ?_
    · rw [hreceived, heffect]
      change f.Explained w ⟨_, _, .sends (.reveal ((w.initiators i).revealMessage K now drawn
        (Session.maskIds K (f.responder j).secret (f.responder j).originalIds)))⟩
      rw [revealMessage_eq hbasis hn]
      exact .revealed i j repliedAt now ha
    · intro _
      rw [hnext]
      exact ⟨j, repliedAt, hsub ha, hmasked, hn⟩
    · intro reply result _
      rw [hnext]
      exact hstate

end Initiators

section Responders
variable [DecidableEq ρ]

/-- What is to be shown of one responder's call. -/
theorem Consistent.responder_step (h : f.Consistent w) {j : ρ} {op : ResponderOp}
    (hexplained : f.Explained w
      ⟨.inr j, op.received?, effectOf (ResponderSession.machine K (w.responders j) op).output⟩)
    (hreplied : ∀ offer reply, (w.callResponder K j op).Replied j offer reply →
      (ResponderSession.machine K (w.responders j) op).next.state ≠ .created ∧
      (ResponderSession.machine K (w.responders j) op).next.initiatorDoublyMasked =
        some (Session.maskReceived K (f.responder j).secret offer.maskedElements))
    (hcomplete : (ResponderSession.machine K (w.responders j) op).next.state = .complete →
      ∃ i sentAt, (w.callResponder K j op).Completed j (f.reveal i j sentAt)
        (f.responderResult i j)) :
    f.Consistent (w.callResponder K j op) := by
  have hsub : w.calls ⊆ (w.callResponder K j op).calls := List.subset_cons_self _ _
  have hself : (w.callResponder K j op).responders j =
      (ResponderSession.machine K (w.responders j) op).next := Function.update_self ..
  have hother : ∀ j', j' ≠ j → (w.callResponder K j op).responders j' = w.responders j' :=
    fun j' hj => Function.update_of_ne hj ..
  constructor
  · exact h.initiatorBasis
  · intro j'
    rcases eq_or_ne j' j with rfl | hj
    · rw [hself]
      exact (h.responderBasis j').trans (ResponderSession.machine_orderly K _ op).basis
    · rw [hother j' hj]
      exact h.responderBasis j'
  · intro r hr
    rcases List.mem_cons.mp hr with rfl | hr
    · exact hexplained.mono hsub
    · exact (h.explained r hr).mono hsub
  · intro i hs
    obtain ⟨j', sentAt, ha, hrest⟩ := h.complete i hs
    exact ⟨j', sentAt, hsub ha, hrest⟩
  · intro i reply result ha
    rcases List.mem_cons.mp ha with he | ha
    · cases he
    · exact h.accepted i reply result ha
  · intro j' offer reply hr
    rcases eq_or_ne j' j with rfl | hj
    · rw [hself]
      exact hreplied offer reply hr
    · rw [hother j' hj]
      rcases List.mem_cons.mp hr with he | hr
      · exact absurd (Sum.inr.inj (congrArg Record.session he)) hj
      · exact h.replied j' offer reply hr
  · intro j' hs
    rcases eq_or_ne j' j with rfl | hj
    · rw [hself] at hs
      exact hcomplete hs
    · rw [hother j' hj] at hs
      obtain ⟨i, sentAt, hc⟩ := h.responderComplete j' hs
      exact ⟨i, sentAt, hsub hc⟩

theorem replied_of_callResponder {j : ρ} {op : ResponderOp} {offer : MaskedSetOffer}
    {reply : MaskedSetReply} (hr : (w.callResponder K j op).Replied j offer reply) :
    w.Replied j offer reply ∨ op.received? = some (.offer offer) ∧
      effectOf (ResponderSession.machine K (w.responders j) op).output = .sends (.reply reply) := by
  rcases List.mem_cons.mp hr with he | hr
  · exact .inr ⟨(congrArg Record.received he).symm, (congrArg Record.effect he).symm⟩
  · exact .inl hr

theorem Consistent.callResponder (h : f.Consistent w) (j : ρ) (op : ResponderOp)
    (hop : ∀ m ∈ op.received?, w.Sent m) : f.Consistent (w.callResponder K j op) := by
  have hbasis := h.responderBasis j
  have hsub : w.calls ⊆ (w.callResponder K j op).calls := List.subset_cons_self _ _
  cases ResponderSession.machine_callCases K (w.responders j) op with
  | quiet heffect hstate hmasked =>
    refine h.responder_step ?_ ?_ ?_
    · rw [heffect]
      exact .silent _ _
    · intro offer reply hr
      rcases replied_of_callResponder hr with hr | ⟨-, he⟩
      · rw [hstate, hmasked]
        exact h.replied j offer reply hr
      · cases heffect.symm.trans he
    · intro hs
      obtain ⟨i, sentAt, hc⟩ := h.responderComplete j (hstate ▸ hs)
      exact ⟨i, sentAt, hsub hc⟩
  | replies now sentAt drawn offer hreceived haccepts heffect hnext hmasked =>
    obtain ⟨i, rfl, hoffered⟩ := h.sent_offer (hop _ hreceived)
    rw [replyMessage_eq hbasis] at heffect
    refine h.responder_step ?_ ?_ ?_
    · rw [hreceived, heffect]
      exact .replied j i sentAt hoffered
    · intro offer reply hr
      refine ⟨by simp [hnext], ?_⟩
      rcases replied_of_callResponder hr with hr | ⟨ho, -⟩
      · exact absurd haccepts.state (h.replied j offer reply hr).1
      · cases hreceived.symm.trans ho
        rw [hmasked, hbasis.secret]
    · intro hs
      cases hnext.symm.trans hs
  | completes now reveal theirs hreceived haccepts htheirs heffect hnext =>
    obtain ⟨i, j', repliedAt, sentAt, rfl, hrevealed, ha⟩ := h.sent_reveal (hop _ hreceived)
    obtain rfl : j' = j := responder_eq_of_accepts hbasis haccepts
    obtain ⟨j'', sentAt', hreply, -, -, hreplied⟩ := h.accepted_explained ha
    obtain rfl : j' = j'' :=
      f.responder_nonce (Option.some.inj (congrArg MaskedSetReply.responderNonce hreply))
    have hstored := h.replied j' (f.offer i) _ hreplied
    cases htheirs.symm.trans hstored.2
    rw [revealResult_eq hbasis] at heffect
    refine h.responder_step ?_ ?_ ?_
    · rw [hreceived, heffect]
      exact .completed j' i sentAt hrevealed
    · intro offer reply hr
      rw [hnext]
      rcases replied_of_callResponder hr with hr | ⟨-, he⟩
      · exact ⟨by simp [ResponderSession.completed], (h.replied j' offer reply hr).2⟩
      · cases heffect.symm.trans he
    · intro _
      refine ⟨i, sentAt, List.mem_cons.mpr (.inl ?_)⟩
      rw [hreceived, heffect]

end Responders

theorem Reachable.consistent [DecidableEq ι] [DecidableEq ρ] (h : f.Reachable w) :
    f.Consistent w := by
  induction h with
  | start => exact consistent_start f
  | initiator _ i op hop ih => exact ih.callInitiator i op hop
  | responder _ j op hop ih => exact ih.callResponder j op hop

/-! ## The results -/

theorem initiator_originalIds (f : Fleet K ι ρ) (i : ι) :
    (f.initiator i).originalIds = (f.initiator i).factSet.idList := by
  obtain ⟨now, drawn, sessionId, factSet, mode, config, binding, -, hcreated⟩ :=
    (f.initiator_constructed i).exists_created
  rw [hcreated]
  rfl

theorem responder_originalIds (f : Fleet K ι ρ) (j : ρ) :
    (f.responder j).originalIds = (f.responder j).factSet.idList := by
  obtain ⟨drawn, sessionId, factSet, mode, config, binding, -, hcreated⟩ :=
    (f.responder_constructed j).exists_created
  rw [hcreated]
  rfl

/-- The masks of every initiator and responder are lawful together. -/
def MaskLawfully (f : Fleet K ι ρ) : Prop :=
  ∀ i j, MasksLawfully K (f.initiator i).secret (f.responder j).secret (f.initiator i).factSet
    (f.responder j).factSet

/-- The identifiers of all sessions. -/
def allIds (f : Fleet K ι ρ) : Set FactId :=
  {x | (∃ i, x ∈ (f.initiator i).factSet.ids) ∨ ∃ j, x ∈ (f.responder j).factSet.ids}

/-- The identifiers of an initiator that a responder has, too. -/
def common (f : Fleet K ι ρ) (i : ι) (j : ρ) : OrderedSet FactId :=
  (f.initiator i).factSet.ids.inter (f.responder j).factSet.ids

theorem alike_eq_common (hhash : Set.InjOn (Session.hashToPublicKey K) f.allIds) (i : ι) (j : ρ) :
    alike K (f.initiator i).factSet.ids (f.responder j).factSet.ids = f.common i j ∧
      alike K (f.responder j).factSet.ids (f.initiator i).factSet.ids = f.common i j := by
  refine BlindOverlap.alike_eq_common (hhash.mono ?_)
  rintro x (hx | hx)
  · exact .inl ⟨i, hx⟩
  · exact .inr ⟨j, hx⟩

theorem initiatorResult_eq (hm : f.MaskLawfully)
    (hhash : Set.InjOn (Session.hashToPublicKey K) f.allIds) (i : ι) (j : ρ) :
    f.initiatorResult i j = .ofSet K (f.common i j) (f.initiator i).mode := by
  rw [← (f.alike_eq_common hhash i j).1, ← initiator_intersectMasked (hm i j), initiatorResult,
    f.initiator_originalIds, f.responder_originalIds]
  unfold offer
  rw [f.initiator_originalIds]
  rfl

theorem responderResult_eq (hm : f.MaskLawfully)
    (hhash : Set.InjOn (Session.hashToPublicKey K) f.allIds) (i : ι) (j : ρ) :
    f.responderResult i j = .ofSet K (f.common i j) (f.responder j).mode := by
  rw [← (f.alike_eq_common hhash i j).2, ← responder_intersectMasked (hm i j), responderResult,
    f.responder_originalIds]
  unfold offer
  rw [f.initiator_originalIds]
  rfl

/-- Every complete session has exchanged with one session of the other role, on its
own offer or reply, and reports what the two have in common. -/
structure KeptApart (f : Fleet K ι ρ) (w : World ι ρ) : Prop where
  initiator : ∀ i, (w.initiators i).state = .complete →
    (∃ reply result, w.Accepted i reply result) ∧
    ∀ reply result, w.Accepted i reply result → ∃ j offer, w.Offered i offer ∧
      w.Replied j offer reply ∧ result = .ofSet K (f.common i j) (f.initiator i).mode
  responder : ∀ j, (w.responders j).state = .complete →
    (∃ reveal result, w.Completed j reveal result) ∧
    ∀ reveal result, w.Completed j reveal result → ∃ i offer reply initiatorResult,
      w.Offered i offer ∧ w.Replied j offer reply ∧ (w.initiators i).state = .complete ∧
      w.Accepted i reply initiatorResult ∧ w.Revealed i reveal ∧
      result = .ofSet K (f.common i j) (f.responder j).mode

theorem Consistent.keptApart (h : f.Consistent w) (hm : f.MaskLawfully)
    (hhash : Set.InjOn (Session.hashToPublicKey K) f.allIds) : f.KeptApart w := by
  constructor
  · intro i hs
    obtain ⟨j, sentAt, ha, -⟩ := h.complete i hs
    refine ⟨⟨_, _, ha⟩, fun reply result ha => ?_⟩
    obtain ⟨j, sentAt, rfl, rfl, hoffered, hreplied⟩ := h.accepted_explained ha
    exact ⟨j, _, hoffered, hreplied, initiatorResult_eq hm hhash i j⟩
  · intro j hs
    obtain ⟨i, sentAt, hc⟩ := h.responderComplete j hs
    refine ⟨⟨_, _, hc⟩, fun reveal result hc => ?_⟩
    obtain ⟨i, sentAt, rfl, rfl, hrevealed⟩ := h.completed_explained hc
    obtain ⟨j', repliedAt, sentAt', he, ha⟩ := h.revealed_explained hrevealed
    obtain rfl : j = j' :=
      f.responder_nonce (Option.some.inj (congrArg IntersectionReveal.responderNonce he))
    obtain ⟨j', repliedAt', he', -, hoffered, hreplied⟩ := h.accepted_explained ha
    obtain rfl : j = j' :=
      f.responder_nonce (Option.some.inj (congrArg MaskedSetReply.responderNonce he'))
    rw [← he'] at hreplied
    exact ⟨i, _, _, _, hoffered, hreplied, h.accepted i _ _ ha, ha, hrevealed,
      responderResult_eq hm hhash i j⟩

end Fleet

/-- Nonces keep concurrent sessions apart, wherever the network carries messages. -/
theorem nonces_keep_sessions_apart {K : Crates} {ι ρ : Type} [DecidableEq ι] [DecidableEq ρ]
    (f : Fleet K ι ρ) (hm : f.MaskLawfully)
    (hhash : Set.InjOn (Session.hashToPublicKey K) f.allIds) (w : World ι ρ)
    (h : f.Reachable w) : f.KeptApart w := h.consistent.keptApart hm hhash

/-- Two initiators and a responder under one session id. -/
def sampleFleet : Fleet .reference Bool Unit where
  initiator b := .created 1000 ⟨sampleSecretA, ⟨filled (if b then 18 else 19)⟩⟩ "sample"
    samplePartyA.factSet .intersection .new
  responder _ := samplePartyB.responder "sample"
  initiator_constructed b := by
    have hlen : ¬ samplePartyA.factSet.len > maxSetSize := by decide +kernel
    have h : InitiatorSession.withConfig 1000 ⟨sampleSecretA, ⟨filled (if b then 18 else 19)⟩⟩
        "sample" samplePartyA.factSet .intersection .new = .ok _ := if_neg hlen
    exact .withConfig h
  responder_constructed _ := by
    have hlen : ¬ samplePartyB.factSet.len > maxSetSize := by decide +kernel
    have h : ResponderSession.withConfig samplePartyB.drawn "sample" samplePartyB.factSet
        samplePartyB.mode samplePartyB.config = .ok (samplePartyB.responder "sample") := if_neg hlen
    exact .withConfig h
  initiator_fresh _ := rfl
  responder_fresh _ := rfl
  initiator_nonce := by
    intro b b' he
    cases b <;> cases b' <;> first | rfl | exact absurd he (by decide)
  responder_nonce _ _ _ := rfl

/-- The first initiator's offer is answered, and it takes the answer. -/
def sampleWorld : World Bool Unit :=
  ((sampleFleet.start.callInitiator .reference true .generateOffer).callResponder .reference ()
    (.processOfferAndReply 1001 1001 ⟨filled 1⟩ (sampleFleet.offer true))).callInitiator .reference
      true (.processReply 1002 (sampleFleet.reply () true 1001))

theorem sampleWorld_reachable : sampleFleet.Reachable sampleWorld := by
  refine .initiator (.responder (.initiator .start _ _ ?_) _ _ ?_) _ _ ?_
  · rintro m ⟨⟩
  · rintro m ⟨⟩
    exact ⟨_, List.mem_cons_self, rfl⟩
  · rintro m ⟨⟩
    exact ⟨_, List.mem_cons_self, rfl⟩

theorem nonces_keep_sessions_apart_sample :
    (sampleWorld.initiators true).state = .complete ∧ sampleFleet.KeptApart sampleWorld := by
  have hids : sampleFleet.allIds ⊆
      {x | x ∈ samplePartyA.factSet.ids ∨ x ∈ samplePartyB.factSet.ids} := by
    rintro x (⟨i, hx⟩ | ⟨j, hx⟩)
    · exact .inl hx
    · exact .inr hx
  exact ⟨rfl, nonces_keep_sessions_apart sampleFleet (fun _ _ => sample_lawful)
    (sample_injOn.mono hids) sampleWorld sampleWorld_reachable⟩

end BlindOverlap
