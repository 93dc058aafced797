import BlindOverlap.Abort
import BlindOverlap.Attestation
import BlindOverlap.Invite
import BlindOverlap.Lease
import BlindOverlap.TamperEvidence

/-!
# What an artefact is bound to

Six checks compare an artefact with a session or a transcript. A check is sound if it
accepts only artefacts that carry what is expected. Attestations and abort receipts may
carry nothing: the one is refused then, the other is accepted.
-/
namespace BlindOverlap

/-- Acceptance says that the artefact carries the expected value. -/
def SoundFor {α β ε : Type} (carried : α → Option β) (check : α → β → Except ε Unit) (a : α)
    (expected : β) : Prop :=
  check a expected = .ok () → carried a = some expected

section Checks
variable (K : Crates) (now : UInt64)

theorem AbortReceipt.session_sound (r : AbortReceipt) (id : String) :
    SoundFor (fun r => some r.sessionId) (AbortReceipt.verifyForSession K) r id :=
  fun h => congrArg some (AbortReceipt.verifyForSession_eq_ok_iff.mp h).2

/-- Without a digest every transcript is accepted, by a receipt that is otherwise valid. -/
theorem AbortReceipt.transcript_sound_iff (r : AbortReceipt) (digest : TranscriptDigest) :
    SoundFor AbortReceipt.transcriptDigest (AbortReceipt.verifyTranscript K) r digest ↔
      r.transcriptDigest.isSome = true ∨ r.verify K ≠ .ok () := by
  rw [SoundFor, AbortReceipt.verifyTranscript_eq_ok_iff]
  cases hd : r.transcriptDigest with
  | none => simp
  | some d => simp

theorem InviteTicket.session_sound (t : InviteTicket) (mode : IntersectionMode) (id : String) :
    SoundFor (fun t => some t.sessionId) (fun t id => InviteTicket.verifyForSession K now t id mode)
      t id :=
  fun h => congrArg some (InviteTicket.verifyForSession_eq_ok_iff.mp h).2.1

theorem SessionLease.session_sound (l : SessionLease) (id : String) :
    SoundFor (fun l => some l.sessionId) (SessionLease.verifyForSession K now) l id :=
  fun h => congrArg some (SessionLease.verifyForSession_eq_ok_iff.mp h).2

theorem OverlapAttestation.session_sound (a : OverlapAttestation) (id : String) :
    SoundFor OverlapAttestation.sessionId OverlapAttestation.verifySession a id :=
  OverlapAttestation.verifySession_eq_ok_iff.mp

theorem WireBoundReceipt.bindings_sound (r : WireBoundReceipt) (rootA rootB : Bytes 32)
    (id : String) (digest : TranscriptDigest) :
    SoundFor (fun r => some (r.sessionId, r.transcriptDigest))
      (fun r e => WireBoundReceipt.verifyWithBindings K r e.1 e.2 rootA rootB) r (id, digest) := by
  intro h
  obtain ⟨-, hid, hdigest, -⟩ := WireBoundReceipt.verifyWithBindings_eq_ok_iff.mp h
  exact congrArg some (Prod.ext hid hdigest)

end Checks

/-- The six checks accept nothing but what carries the expected session or transcript, unless
the abort receipt among the artefacts is a valid one without a digest. -/
theorem bindings_sound_iff (K : Crates) (now : UInt64) (abort : AbortReceipt)
    (ticket : InviteTicket) (lease : SessionLease) (attestation : OverlapAttestation)
    (receipt : WireBoundReceipt) (id : String) (digest : TranscriptDigest)
    (mode : IntersectionMode) (rootA rootB : Bytes 32) :
    ((abort.verifyForSession K id = .ok () → abort.sessionId = id) ∧
      (abort.verifyTranscript K digest = .ok () → abort.transcriptDigest = some digest) ∧
      (ticket.verifyForSession K now id mode = .ok () → ticket.sessionId = id) ∧
      (lease.verifyForSession K now id = .ok () → lease.sessionId = id) ∧
      (attestation.verifySession id = .ok () → attestation.sessionId = some id) ∧
      (receipt.verifyWithBindings K id digest rootA rootB = .ok () →
        receipt.sessionId = id ∧ receipt.transcriptDigest = digest)) ↔
      abort.transcriptDigest.isSome = true ∨ abort.verify K ≠ .ok () := by
  rw [← AbortReceipt.transcript_sound_iff K abort digest]
  constructor
  · exact fun h => h.2.1
  · intro h
    refine ⟨?_, h, ?_, ?_, ?_, ?_⟩
    · exact fun hok => Option.some.inj (AbortReceipt.session_sound K abort id hok)
    · exact fun hok => Option.some.inj (InviteTicket.session_sound K now ticket mode id hok)
    · exact fun hok => Option.some.inj (SessionLease.session_sound K now lease id hok)
    · exact OverlapAttestation.session_sound attestation id
    · intro hok
      have hpair := WireBoundReceipt.bindings_sound K receipt rootA rootB id digest hok
      exact Prod.mk.inj (Option.some.inj hpair)

/-- A signed receipt of a timeout, which says nothing of a transcript, matches any. -/
theorem bindings_unbound :
    (AbortReceipt.simple .reference 1000 (.fromSeed (filled 7)) "s" .timeout).transcriptDigest =
      none ∧
    (AbortReceipt.simple .reference 1000 (.fromSeed (filled 7)) "s" .timeout).verifyTranscript
      .reference ⟨filled 9⟩ = .ok () := by
  refine ⟨rfl, AbortReceipt.verifyTranscript_eq_ok_iff.mpr ⟨?_, ?_⟩⟩
  · exact AbortReceipt.verify_new (Crates.reference_proper _) ..
  · exact fun d hd => absurd hd (Option.not_mem_none d)

end BlindOverlap
