import BlindOverlap.Abort
import BlindOverlap.Attestation
import BlindOverlap.Invite
import BlindOverlap.Lease
import BlindOverlap.Reference
import BlindOverlap.Seal
import BlindOverlap.WireCodec

/-!
# Kinds of signed artefacts

Eight kinds of values are signed, six under the domain of identities and two raw. The
bytes under a signature say which kind they belong to: seven kinds begin with domains of
which none continues another, and the eighth has a length that none of them can have.
-/
namespace BlindOverlap

inductive ArtefactKind where
  | signedWireMessage
  | inviteTicket
  | sessionLease
  | abortReceipt
  | sealedRecord
  | overlapAttestation
  | wireBoundReceipt
  | intersectionReceipt
  deriving DecidableEq

/-- What the signed bytes of a kind begin with. -/
def ArtefactKind.domain : ArtefactKind → List UInt8
  | .signedWireMessage => identityDomain ++ utf8 Tags.signedMessageDomain
  | .inviteTicket => identityDomain ++ inviteTicketDomain
  | .sessionLease => identityDomain ++ sessionLeaseDomain
  | .abortReceipt => identityDomain ++ abortReceiptDomain
  | .sealedRecord => identityDomain ++ sealedRecordDomain
  | .overlapAttestation => identityDomain ++ attestationDomain
  | .wireBoundReceipt => wireBoundReceiptDomain
  | .intersectionReceipt => []

/-- No domain continues another one. -/
theorem ArtefactKind.domain_not_prefix {k k' : ArtefactKind} (hne : k ≠ k')
    (hk : k ≠ .intersectionReceipt) (hk' : k' ≠ .intersectionReceipt) :
    ¬ k.domain <+: k'.domain := by
  cases k <;> cases k' <;>
    first
    | exact absurd rfl hne
    | exact absurd rfl hk
    | exact absurd rfl hk'
    | decide +kernel

/-- A signed value of one of the kinds. A message has passed its validator, and an
attestation can be looked at as its issuer's or as its co-signer's. -/
inductive SignedArtefact where
  | message (s : SignedWireMessage) (valid : s.message.validate = .ok ())
  | ticket (t : InviteTicket)
  | lease (l : SessionLease)
  | abort (r : AbortReceipt)
  | sealedRecord (r : SealedSessionRecord)
  | attestation (a : OverlapAttestation)
  | coAttestation (a : OverlapAttestation)
  | wireBound (r : WireBoundReceipt)
  | receipt (r : IntersectionReceipt)

namespace SignedArtefact

def kind : SignedArtefact → ArtefactKind
  | .message _ _ => .signedWireMessage
  | .ticket _ => .inviteTicket
  | .lease _ => .sessionLease
  | .abort _ => .abortReceipt
  | .sealedRecord _ => .sealedRecord
  | .attestation _ => .overlapAttestation
  | .coAttestation _ => .overlapAttestation
  | .wireBound _ => .wireBoundReceipt
  | .receipt _ => .intersectionReceipt

/-- The bytes handed to the signature algorithm. -/
def signedBytes (K : Crates) : SignedArtefact → List UInt8
  | .message s _ => identityDomain ++ s.message.signingPayload K
  | .ticket t => identityDomain ++ t.payload
  | .lease l => identityDomain ++ l.payload
  | .abort r => identityDomain ++ r.payload
  | .sealedRecord r => identityDomain ++ r.sealPayload
  | .attestation a => identityDomain ++ (attestationDomain ++ (a.signingBody K).toList)
  | .coAttestation a => identityDomain ++ (attestationDomain ++ (a.signingBody K).toList)
  | .wireBound r => r.messageBytes
  | .receipt r => r.messageBytes

/-- The key and the signature that an artefact carries, if it carries any. -/
def signature? : SignedArtefact → Option (Bytes 32 × Bytes 64)
  | .message s _ => some (s.signerPubkey.bytes, s.signature)
  | .ticket t => some (t.issuerPubkey.bytes, t.signature)
  | .lease l => some (l.issuerPubkey.bytes, l.signature)
  | .abort r => some (r.issuerPubkey.bytes, r.signature)
  | .sealedRecord r => r.recordSeal.map (fun s => (s.sealerPubkey.bytes, s.signature))
  | .attestation a => some (a.issuerPubkey.bytes, a.signature)
  | .coAttestation a =>
    match a.coSignerPubkey, a.coSignature with
    | some coSigner, some signature => some (coSigner.bytes, signature)
    | _, _ => none
  | .wireBound r => some (r.signerPublicKey, r.signature)
  | .receipt r => some (r.signerPublicKey, r.signature)

/-- The verdict of the artefact's own check. -/
def Verified (K : Crates) (now : UInt64) : SignedArtefact → Prop
  | .message s _ => s.verifySignature K = .ok ()
  | .ticket t => t.verify K now = .ok ()
  | .lease l => l.verify K now = .ok ()
  | .abort r => r.verify K = .ok ()
  | .sealedRecord r => r.verifySeal K = .ok ()
  | .attestation a => a.verify K now = .ok ()
  | .coAttestation a => a.verifyCoSignature K = .ok ()
  | .wireBound r => r.verify K = .ok ()
  | .receipt r => r.verify K = .ok ()

/-- The signed bytes begin with the domain of the kind. -/
theorem domain_begins (K : Crates) (a : SignedArtefact) : a.kind.domain <+: a.signedBytes K := by
  cases a with
  | message s valid =>
    simp only [kind, ArtefactKind.domain, signedBytes, WireMessage.signingPayload,
      List.append_assoc]
    exact List.prefix_append_right_inj _ |>.mpr (List.prefix_append _ _)
  | ticket t =>
    simp only [kind, ArtefactKind.domain, signedBytes, InviteTicket.payload,
      InviteTicket.computePayload, List.append_assoc]
    exact List.prefix_append_right_inj _ |>.mpr (List.prefix_append _ _)
  | lease l =>
    simp only [kind, ArtefactKind.domain, signedBytes, SessionLease.payload,
      SessionLease.computePayload, List.append_assoc]
    exact List.prefix_append_right_inj _ |>.mpr (List.prefix_append _ _)
  | abort r =>
    simp only [kind, ArtefactKind.domain, signedBytes, AbortReceipt.payload,
      AbortReceipt.computePayload, List.append_assoc]
    exact List.prefix_append_right_inj _ |>.mpr (List.prefix_append _ _)
  | sealedRecord r => exact List.prefix_append_right_inj _ |>.mpr (List.prefix_append _ _)
  | attestation a => exact List.prefix_append_right_inj _ |>.mpr (List.prefix_append _ _)
  | coAttestation a => exact List.prefix_append_right_inj _ |>.mpr (List.prefix_append _ _)
  | wireBound r =>
    simp only [kind, ArtefactKind.domain, signedBytes, WireBoundReceipt.messageBytes,
      List.append_assoc]
    exact List.prefix_append _ _
  | receipt r => exact List.nil_prefix

/-- Ninety-eight bytes are signed for an intersection receipt only. -/
theorem length_signedBytes_iff (K : Crates) (a : SignedArtefact) :
    (a.signedBytes K).length = 98 ↔ a.kind = .intersectionReceipt := by
  have hidentity : identityDomain.length = 29 := by decide
  cases a with
  | message s valid =>
    have hdomain : (utf8 Tags.signedMessageDomain).length = 33 := by decide
    have htag : 2 ≤ (utf8 s.message.tag).length := by
      have hall : ∀ t ∈ [Tags.maskedSetOfferV1, Tags.maskedSetOfferV2, Tags.maskedSetReplyV1,
          Tags.maskedSetReplyV2, Tags.intersectionRevealV1, Tags.intersectionRevealV2,
          Tags.abortMessageV1], 2 ≤ (utf8 t).length := by decide
      exact hall _ (WireMessage.tag_mem_of_validate valid)
    simp only [signedBytes, kind, WireMessage.signingPayload, List.length_append, hidentity,
      hdomain, List.length_singleton, Bytes.length_toList, reduceCtorEq, iff_false]
    omega
  | ticket t =>
    have hdomain : inviteTicketDomain.length = 28 := by decide
    simp only [signedBytes, kind, InviteTicket.payload, InviteTicket.computePayload,
      List.length_append, hidentity, hdomain, List.length_singleton, Bytes.length_toList,
      length_leBytes, reduceCtorEq, iff_false]
    have hpeer : 1 ≤ (t.peerPubkey.elim [0] (fun p => 1 :: p.bytes.toList)).length := by
      cases t.peerPubkey <;> simp
    omega
  | lease l =>
    have hdomain : sessionLeaseDomain.length = 28 := by decide
    simp only [signedBytes, kind, SessionLease.payload, SessionLease.computePayload,
      List.length_append, hidentity, hdomain, List.length_singleton, Bytes.length_toList,
      length_leBytes, reduceCtorEq, iff_false]
    omega
  | abort r =>
    have hdomain : abortReceiptDomain.length = 28 := by decide
    have hcode : 6 ≤ (utf8 r.reason.code).length := by cases r.reason <;> decide
    have htext : 1 ≤ (r.reasonText.elim [0] (fun text => 1 :: utf8 text)).length := by
      cases r.reasonText <;> simp
    simp only [signedBytes, kind, AbortReceipt.payload, AbortReceipt.computePayload,
      List.length_append, hidentity, hdomain, List.length_singleton, Bytes.length_toList,
      length_leBytes, reduceCtorEq, iff_false]
    omega
  | sealedRecord r =>
    have hdomain : sealedRecordDomain.length = 28 := by decide
    simp [signedBytes, kind, SealedSessionRecord.sealPayload, hidentity, hdomain,
      Bytes.length_toList]
  | attestation a =>
    have hdomain : attestationDomain.length = 22 := by decide
    simp [signedBytes, kind, hidentity, hdomain, Bytes.length_toList]
  | coAttestation a =>
    have hdomain : attestationDomain.length = 22 := by decide
    simp [signedBytes, kind, hidentity, hdomain, Bytes.length_toList]
  | wireBound r =>
    have hdomain : wireBoundReceiptDomain.length = 32 := by decide
    simp only [signedBytes, kind, WireBoundReceipt.messageBytes, List.length_append, hdomain,
      List.length_singleton, Bytes.length_toList, reduceCtorEq, iff_false]
    omega
  | receipt r => simp [signedBytes, kind, r.length_messageBytes]

/-- The signed bytes determine the kind. -/
theorem kind_eq_of_signedBytes_eq {K : Crates} {a b : SignedArtefact}
    (h : a.signedBytes K = b.signedBytes K) : a.kind = b.kind := by
  by_cases ha : a.kind = .intersectionReceipt
  · have hlength := (length_signedBytes_iff K a).mpr ha
    rw [h] at hlength
    rw [ha, (length_signedBytes_iff K b).mp hlength]
  · have hb : b.kind ≠ .intersectionReceipt := by
      intro hb
      have hlength := (length_signedBytes_iff K b).mpr hb
      rw [← h] at hlength
      exact ha ((length_signedBytes_iff K a).mp hlength)
    by_contra hne
    have hprefix : b.kind.domain <+: a.signedBytes K := h ▸ domain_begins K b
    rcases List.prefix_or_prefix_of_prefix (domain_begins K a) hprefix with hab | hba
    · exact ArtefactKind.domain_not_prefix hne ha hb hab
    · exact ArtefactKind.domain_not_prefix (Ne.symm hne) hb ha hba

/-- An artefact that passes its own check carries a signature over its signed bytes. -/
theorem verify_of_verified {K : Crates} {now : UInt64} {a : SignedArtefact}
    (h : a.Verified K now) : ∃ key signature, a.signature? = some (key, signature) ∧
      K.ed25519Verify key (a.signedBytes K) signature = true := by
  cases a with
  | message s valid =>
    have hv := SignedWireMessage.verifySignature_eq_ok_iff.mp h
    exact ⟨_, _, rfl, (PublicIdentity.verify_eq_ok_iff.mp hv).2⟩
  | ticket t =>
    have hv := (InviteTicket.verify_eq_ok_iff.mp h).1
    exact ⟨_, _, rfl, (PublicIdentity.verify_eq_ok_iff.mp hv).2⟩
  | lease l =>
    have hv := (SessionLease.verify_eq_ok_iff.mp h).1
    exact ⟨_, _, rfl, (PublicIdentity.verify_eq_ok_iff.mp hv).2⟩
  | abort r =>
    have hv := AbortReceipt.verify_eq_ok_iff.mp h
    exact ⟨_, _, rfl, (PublicIdentity.verify_eq_ok_iff.mp hv).2⟩
  | sealedRecord r =>
    obtain ⟨s, hs, -, hv⟩ := SealedSessionRecord.verifySeal_eq_ok_iff.mp h
    exact ⟨s.sealerPubkey.bytes, s.signature, by simp [signature?, hs],
      (PublicIdentity.verify_eq_ok_iff.mp hv).2⟩
  | attestation a =>
    have hv := OverlapAttestation.verifyWithDomain_eq_true_iff.mp
      (OverlapAttestation.verify_eq_ok_iff.mp h).2
    exact ⟨_, _, rfl, (PublicIdentity.verify_eq_ok_iff.mp hv).2⟩
  | coAttestation a =>
    obtain ⟨coSigner, signature, hkey, hsig, hv⟩ :=
      OverlapAttestation.verifyCoSignature_eq_ok_iff.mp h
    refine ⟨coSigner.bytes, signature, by simp [signature?, hkey, hsig], ?_⟩
    exact (PublicIdentity.verify_eq_ok_iff.mp
      (OverlapAttestation.verifyWithDomain_eq_true_iff.mp hv)).2
  | wireBound r => exact ⟨_, _, rfl, (verifyReceipt_eq_ok_iff.mp h).2⟩
  | receipt r => exact ⟨_, _, rfl, (verifyReceipt_eq_ok_iff.mp h).2⟩

/-- Artefacts of different kinds are signed over different bytes, so what a seed signed
for one of them is no valid signature of the other. -/
theorem signature_stays_in_kind (K : Crates) {a b : SignedArtefact} (hkind : a.kind ≠ b.kind) :
    a.signedBytes K ≠ b.signedBytes K ∧
      ∀ seed now, K.SignsOnly seed (a.signedBytes K) (b.signedBytes K) →
        b.signature? = some (K.verifyingKey seed, K.ed25519Sign seed (a.signedBytes K)) →
        ¬ b.Verified K now := by
  have hbytes : a.signedBytes K ≠ b.signedBytes K := fun h => hkind (kind_eq_of_signedBytes_eq h)
  refine ⟨hbytes, ?_⟩
  intro seed now hideal hcarried hverified
  obtain ⟨key, signature, hsig, hv⟩ := verify_of_verified hverified
  have hsame : (key, signature) =
      (K.verifyingKey seed, K.ed25519Sign seed (a.signedBytes K)) :=
    Option.some.inj (hsig.symm.trans hcarried)
  obtain ⟨rfl, rfl⟩ := Prod.mk.inj hsame
  exact hbytes (hideal hv).symm

def sampleTicket : InviteTicket :=
  .issue Crates.reference 1000 (.fromSeed (filled 7)) "s" none .any 300

/-- A receipt that carries the signature of a ticket, made with the same seed. -/
def sampleReceipt : IntersectionReceipt where
  version := 66
  setRootA := filled 1
  setRootB := filled 2
  resultCommitment := filled 3
  mode := .intersection
  signature := sampleTicket.signature
  signerPublicKey := Crates.reference.verifyingKey (filled 7)

theorem ticket_signature_no_receipt :
    (ticket sampleTicket).signedBytes Crates.reference ≠
        (receipt sampleReceipt).signedBytes Crates.reference ∧
      ¬ (receipt sampleReceipt).Verified Crates.reference 1000 := by
  have hapart := signature_stays_in_kind Crates.reference (a := ticket sampleTicket)
    (b := receipt sampleReceipt) (by decide)
  have hideal : Crates.reference.SignsOnly (filled 7)
      ((ticket sampleTicket).signedBytes Crates.reference)
      ((receipt sampleReceipt).signedBytes Crates.reference) := by
    intro hv
    exact absurd hv (by decide +kernel)
  exact ⟨hapart.1, hapart.2 (filled 7) 1000 hideal rfl⟩

end SignedArtefact

end BlindOverlap
