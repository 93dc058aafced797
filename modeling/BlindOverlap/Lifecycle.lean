import BlindOverlap.Correctness
import BlindOverlap.InitiatorLifecycle
import BlindOverlap.ResponderLifecycle

/-!
# Runs of a session

What holds along every sequence of operations on a session that a constructor
returned, whatever messages it is given and whichever calls fail.
-/
namespace BlindOverlap

namespace InitiatorSession

/-- The offers that a run hands over. -/
def offersOf (run : List (Event InitiatorSession InitiatorOp (Except SessionError SessionOutput))) :
    List MaskedSetOffer :=
  run.filterMap (fun e => succeeded SessionOutput.offer? e.output)

/-- A run that keeps to the session's states: they only move forward, the stored
lists match them, and what the constructor fixed stays fixed. -/
structure LivesInOrder (K : Crates) (s : InitiatorSession) (ops : List InitiatorOp) : Prop where
  moves : ∀ e ∈ (machine K).trace s ops,
    e.after.state = e.before.state ∨ e.before.state.Moves e.after.state
  one_offer : (offersOf ((machine K).trace s ops)).length ≤ 1
  one_result : (((machine K).trace s ops).filterMap
    (fun e => succeeded SessionOutput.result? e.output)).length ≤ 1
  wellFormed : ((machine K).final s ops).WellFormed
  basis : SameBasis s ((machine K).final s ops)
  never_missing : ∀ e ∈ (machine K).trace s ops,
    ¬ NamesState "missing responder masked elements" e.output
  fresh_nonces : ((offersOf ((machine K).trace s ops)).map MaskedSetOffer.nonce).Nodup

theorem leaves_created {K : Crates} {s : InitiatorSession} {op : InitiatorOp}
    (hs : s.state ≠ .created) : (machine K s op).next.state ≠ .created := by
  rcases (machine_orderly K s op).moves with he | hm
  · exact he ▸ hs
  · exact hm.ne_created

theorem stays_complete {K : Crates} {s : InitiatorSession} {op : InitiatorOp}
    (hs : s.state = .complete) : (machine K s op).next.state = .complete := by
  rcases (machine_orderly K s op).moves with he | hm
  · exact he.trans hs
  · exact absurd hs hm.ne_complete

theorem one_offer (K : Crates) (s : InitiatorSession) (ops : List InitiatorOp) :
    (offersOf ((machine K).trace s ops)).length ≤ 1 := by
  refine (machine K).filterMap_trace_length_le_one (fun s => s.state ≠ .created)
    (fun _ _ => leaves_created) (fun s op h => ?_) s ops
  obtain ⟨hs, hn⟩ := machine_offer h
  exact ⟨not_not.mpr hs, by simp [hn]⟩

theorem one_result (K : Crates) (s : InitiatorSession) (ops : List InitiatorOp) :
    (((machine K).trace s ops).filterMap
      (fun e => succeeded SessionOutput.result? e.output)).length ≤ 1 := by
  refine (machine K).filterMap_trace_length_le_one (fun s => s.state = .complete)
    (fun _ _ => stays_complete) (fun s op h => ?_) s ops
  obtain ⟨hs, hn⟩ := machine_result h
  exact ⟨by simp [hs], hn⟩

theorem final_sameBasis (K : Crates) (s : InitiatorSession) (ops : List InitiatorOp) :
    SameBasis s ((machine K).final s ops) :=
  (machine K).final_invariant (fun t op h => h.trans (machine_orderly K t op).basis) (.refl s) ops

/-- What every call does to a session of the same basis, it does all along a run. -/
theorem trace_forall_sameBasis (K : Crates) {s : InitiatorSession}
    {p : Event InitiatorSession InitiatorOp (Except SessionError SessionOutput) → Prop}
    (hp : ∀ t op, SameBasis s t → p ((machine K).fire t op)) (ops : List InitiatorOp) :
    ∀ e ∈ (machine K).trace s ops, p e :=
  (machine K).trace_forall (fun t op h => h.trans (machine_orderly K t op).basis) hp (.refl s) ops

theorem WellFormed.final {s : InitiatorSession} (h : s.WellFormed) (K : Crates)
    (ops : List InitiatorOp) : ((InitiatorSession.machine K).final s ops).WellFormed :=
  (InitiatorSession.machine K).final_invariant (fun _ op hs => hs.machine K op) h ops

theorem WellFormed.livesInOrder {s : InitiatorSession} (h : s.WellFormed) (K : Crates)
    (ops : List InitiatorOp) : s.LivesInOrder K ops where
  moves := (InitiatorSession.machine K).trace_forall (fun _ op hs => hs.machine K op)
    (fun s op _ => (machine_orderly K s op).moves) h ops
  one_offer := one_offer K s ops
  one_result := one_result K s ops
  wellFormed := h.final K ops
  basis := final_sameBasis K s ops
  never_missing := (InitiatorSession.machine K).trace_forall (fun _ op hs => hs.machine K op)
    (fun _ op hs => hs.not_namesState K op) h ops
  fresh_nonces := by
    match offersOf ((InitiatorSession.machine K).trace s ops), one_offer K s ops with
    | [], _ => exact List.nodup_nil
    | [m], _ => exact List.nodup_singleton _

end InitiatorSession

namespace ResponderSession

/-- A run that keeps to the session's states. -/
structure LivesInOrder (K : Crates) (s : ResponderSession) (ops : List ResponderOp) : Prop where
  moves : ∀ e ∈ (machine K).trace s ops,
    e.after.state = e.before.state ∨ e.before.state.Moves e.after.state
  one_reply : (((machine K).trace s ops).filterMap
    (fun e => succeeded SessionOutput.reply? e.output)).length ≤ 1
  one_result : (((machine K).trace s ops).filterMap
    (fun e => succeeded SessionOutput.result? e.output)).length ≤ 1
  wellFormed : ((machine K).final s ops).WellFormed
  basis : SameBasis s ((machine K).final s ops)
  never_missing : ∀ e ∈ (machine K).trace s ops,
    ¬ NamesState "missing initiator doubly masked" e.output

theorem leaves_created {K : Crates} {s : ResponderSession} {op : ResponderOp}
    (hs : s.state ≠ .created) : (machine K s op).next.state ≠ .created := by
  rcases (machine_orderly K s op).moves with he | hm
  · exact he ▸ hs
  · exact hm.ne_created

theorem stays_complete {K : Crates} {s : ResponderSession} {op : ResponderOp}
    (hs : s.state = .complete) : (machine K s op).next.state = .complete := by
  rcases (machine_orderly K s op).moves with he | hm
  · exact he.trans hs
  · exact absurd hs hm.ne_complete

theorem one_reply (K : Crates) (s : ResponderSession) (ops : List ResponderOp) :
    (((machine K).trace s ops).filterMap
      (fun e => succeeded SessionOutput.reply? e.output)).length ≤ 1 := by
  refine (machine K).filterMap_trace_length_le_one (fun s => s.state ≠ .created)
    (fun _ _ => leaves_created) (fun s op h => ?_) s ops
  obtain ⟨hs, hn⟩ := machine_reply h
  exact ⟨not_not.mpr hs, by simp [hn]⟩

theorem one_result (K : Crates) (s : ResponderSession) (ops : List ResponderOp) :
    (((machine K).trace s ops).filterMap
      (fun e => succeeded SessionOutput.result? e.output)).length ≤ 1 := by
  refine (machine K).filterMap_trace_length_le_one (fun s => s.state = .complete)
    (fun _ _ => stays_complete) (fun s op h => ?_) s ops
  obtain ⟨hs, hn⟩ := machine_result h
  exact ⟨by simp [hs], hn⟩

theorem final_sameBasis (K : Crates) (s : ResponderSession) (ops : List ResponderOp) :
    SameBasis s ((machine K).final s ops) :=
  (machine K).final_invariant (fun t op h => h.trans (machine_orderly K t op).basis) (.refl s) ops

/-- What every call does to a session of the same basis, it does all along a run. -/
theorem trace_forall_sameBasis (K : Crates) {s : ResponderSession}
    {p : Event ResponderSession ResponderOp (Except SessionError SessionOutput) → Prop}
    (hp : ∀ t op, SameBasis s t → p ((machine K).fire t op)) (ops : List ResponderOp) :
    ∀ e ∈ (machine K).trace s ops, p e :=
  (machine K).trace_forall (fun t op h => h.trans (machine_orderly K t op).basis) hp (.refl s) ops

theorem WellFormed.final {s : ResponderSession} (h : s.WellFormed) (K : Crates)
    (ops : List ResponderOp) : ((ResponderSession.machine K).final s ops).WellFormed :=
  (ResponderSession.machine K).final_invariant (fun _ op hs => hs.machine K op) h ops

theorem WellFormed.livesInOrder {s : ResponderSession} (h : s.WellFormed) (K : Crates)
    (ops : List ResponderOp) : s.LivesInOrder K ops where
  moves := (ResponderSession.machine K).trace_forall (fun _ op hs => hs.machine K op)
    (fun s op _ => (machine_orderly K s op).moves) h ops
  one_reply := one_reply K s ops
  one_result := one_result K s ops
  wellFormed := h.final K ops
  basis := final_sameBasis K s ops
  never_missing := (ResponderSession.machine K).trace_forall (fun _ op hs => hs.machine K op)
    (fun _ op hs => hs.not_namesState K op) h ops

end ResponderSession

theorem withConfig_samplePartyA :
    InitiatorSession.withConfig sampleReadings.createdAt samplePartyA.drawn "sample"
      samplePartyA.factSet samplePartyA.mode samplePartyA.config =
        .ok (samplePartyA.initiator sampleReadings "sample") :=
  if_neg (by decide +kernel)

theorem withConfig_samplePartyB :
    ResponderSession.withConfig samplePartyB.drawn "sample" samplePartyB.factSet
      samplePartyB.mode samplePartyB.config = .ok (samplePartyB.responder "sample") :=
  if_neg (by decide +kernel)

/-- Every session that a constructor returns lives in order, whichever operations
follow. -/
theorem sessions_live_in_order (K : Crates) :
    (∀ s, InitiatorSession.Constructed K s → ∀ ops, s.LivesInOrder K ops) ∧
      ∀ s, ResponderSession.Constructed K s → ∀ ops, s.LivesInOrder K ops :=
  ⟨fun _ h ops => h.wellFormed.livesInOrder K ops, fun _ h ops => h.wellFormed.livesInOrder K ops⟩

theorem sessions_live_in_order_sample :
    (samplePartyA.initiator sampleReadings "sample").LivesInOrder .reference
        [.generateOffer, .generateOffer, .generateReveal 1003 ⟨filled 1⟩] ∧
      (samplePartyB.responder "sample").LivesInOrder .reference
        [.processReveal 1001 (.new "sample" [])] :=
  ⟨(sessions_live_in_order .reference).1 _ (.withConfig withConfig_samplePartyA) _,
    (sessions_live_in_order .reference).2 _ (.withConfig withConfig_samplePartyB) _⟩

end BlindOverlap
