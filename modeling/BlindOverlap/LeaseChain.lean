import BlindOverlap.Lease
import BlindOverlap.Lib.Machine
import BlindOverlap.Reference

/-!
# Chains of leases

An issuer grants sessions to peers by issuing leases, and renews leases that it is handed
back. Renewal copies the grant out of the lease that it is given and signs it, so the
grants stay the issuer's own as long as that lease is one the issuer signed.
-/
namespace BlindOverlap

namespace SessionLease

/-- The lease carries its issuer's signature over its own fields. -/
def Signed (K : Crates) (l : SessionLease) : Prop :=
  l.issuerPubkey.verify K l.payload l.signature = .ok ()

instance (K : Crates) (l : SessionLease) : Decidable (l.Signed K) :=
  inferInstanceAs (Decidable (_ = _))

/-- What a lease authorises: a session, for a peer. -/
def grant (l : SessionLease) : String × PublicIdentity := (l.sessionId, l.peerPubkey)

/-- Renewal happens exactly when the key is the issuer's, and keeps the grant. -/
theorem renew_eq_ok_iff {K : Crates} {now ttlSecs : UInt64} {l new : SessionLease}
    {identity : PartyIdentity} :
    l.renew K now identity ttlSecs = .ok new ↔ l.issuerPubkey = identity.publicIdentity K ∧
      new = { l with
        version := 1
        issuedAt := now
        expiresAt := now + ttlSecs
        renewCount := l.renewCount + 1
        parentLeaseId := some (l.leaseId K)
        signature := identity.sign K
          (computePayload l.sessionId l.issuerPubkey l.peerPubkey now (now + ttlSecs)
            (l.renewCount + 1) (some (l.leaseId K))) } := by
  unfold renew
  by_cases hkey : l.issuerPubkey = identity.publicIdentity K
  · simp [hkey, eq_comm]
  · simp [hkey]

/-- What follows the peer in a payload. -/
def timesBytes (l : SessionLease) : List UInt8 :=
  leBytes 8 l.issuedAt.toNat ++ leBytes 8 l.expiresAt.toNat ++ leBytes 4 l.renewCount.toNat ++
    l.parentLeaseId.elim [0] (fun parent => 1 :: parent.toList)

theorem payload_eq_append (l : SessionLease) :
    l.payload = (sessionLeaseDomain ++ [0]) ++ (utf8 l.sessionId ++ ([0] ++
      (l.issuerPubkey.bytes.toList ++ (l.peerPubkey.bytes.toList ++ l.timesBytes)))) := by
  simp [payload, computePayload, timesBytes]

/-- Sessions of one length are followed by the peers at the same place. -/
theorem grant_eq_of_length_eq {l l' : SessionLease}
    (hlength : (utf8 l.sessionId).length = (utf8 l'.sessionId).length)
    (h : l.payload = l'.payload) : l.grant = l'.grant := by
  rw [payload_eq_append, payload_eq_append] at h
  obtain ⟨hsession, h⟩ := List.append_inj (List.append_cancel_left h) hlength
  obtain ⟨-, h⟩ := List.append_inj (List.append_cancel_left h)
    (by rw [Bytes.length_toList, Bytes.length_toList])
  obtain ⟨hpeer, -⟩ := List.append_inj h (by rw [Bytes.length_toList, Bytes.length_toList])
  have hpeer : l.peerPubkey = l'.peerPubkey :=
    congrArg PublicIdentity.mk (Bytes.toList_injective hpeer)
  rw [grant, grant, utf8_injective hsession, hpeer]

/-- A lease without a parent can look like one with a parent only where its separator
takes the place of the last byte of the other's issuer. -/
theorem issuer_getLast?_of_shift {l l' : SessionLease}
    (hlength : (utf8 l.sessionId).length = (utf8 l'.sessionId).length + 32)
    (h : l.payload = l'.payload) : l'.issuerPubkey.bytes.toList.getLast? = some 0 := by
  rw [payload_eq_append, payload_eq_append] at h
  have h := List.append_cancel_left h
  simp only [← List.append_assoc] at h
  rw [List.append_assoc _ _ (timesBytes l), List.append_assoc _ _ (_ ++ timesBytes l),
    List.append_assoc _ _ (timesBytes l')] at h
  obtain ⟨h, -⟩ := List.append_inj h (by simp [hlength, Bytes.length_toList])
  have hlast := congrArg List.getLast? h
  have hnonempty : l'.issuerPubkey.bytes.toList ≠ [] := by
    intro hnil
    simpa [hnil] using l'.issuerPubkey.bytes.length_toList
  rw [List.getLast?_concat, List.getLast?_append_of_ne_nil _ hnonempty] at hlast
  exact hlast.symm

/-- The payload of one issuer's lease determines its grant, unless the issuer's key ends
in a zero byte, which could pass for the separator before it. -/
theorem grant_eq_of_payload_eq {l l' : SessionLease} (hissuer : l.issuerPubkey = l'.issuerPubkey)
    (hkey : l.issuerPubkey.bytes.toList.getLast? ≠ some 0) (h : l.payload = l'.payload) :
    l.grant = l'.grant := by
  have hlength := congrArg List.length h
  simp only [payload_eq_append, timesBytes, List.length_append, Bytes.length_toList,
    length_leBytes] at hlength
  cases hparent : l.parentLeaseId with
  | none =>
    cases hparent' : l'.parentLeaseId with
    | none =>
      rw [hparent, hparent'] at hlength
      exact grant_eq_of_length_eq (by simpa using hlength) h
    | some parent' =>
      rw [hparent, hparent'] at hlength
      have hsid : (utf8 l.sessionId).length = (utf8 l'.sessionId).length + 32 := by
        simp [Bytes.length_toList] at hlength
        omega
      exact absurd (issuer_getLast?_of_shift hsid h) (hissuer ▸ hkey)
  | some parent =>
    cases hparent' : l'.parentLeaseId with
    | none =>
      rw [hparent, hparent'] at hlength
      have hsid : (utf8 l'.sessionId).length = (utf8 l.sessionId).length + 32 := by
        simp [Bytes.length_toList] at hlength
        omega
      exact absurd (issuer_getLast?_of_shift hsid h.symm) hkey
    | some parent' =>
      rw [hparent, hparent'] at hlength
      exact grant_eq_of_length_eq (by simpa [Bytes.length_toList] using hlength) h

end SessionLease

/-! ## Histories of an issuer -/

/-- What an issuer does. The lease that is to be renewed comes out of storage, and can be
anything by then. -/
inductive LeaseCall where
  | issue (now : UInt64) (sessionId : String) (peer : PublicIdentity) (ttlSecs : UInt64)
  | renew (now : UInt64) (stored : SessionLease) (ttlSecs : UInt64)

/-- The grants an issuer meant to give, and the leases it signed. -/
structure IssuerLog where
  granted : List (String × PublicIdentity)
  signed : List SessionLease

namespace IssuerLog

def start : IssuerLog := ⟨[], []⟩

def machine (K : Crates) (identity : PartyIdentity) :
    Machine IssuerLog LeaseCall (Except LeaseError SessionLease)
  | log, .issue now sessionId peer ttlSecs =>
    let lease := SessionLease.issue K now identity sessionId peer ttlSecs
    ⟨.ok lease, ⟨lease.grant :: log.granted, lease :: log.signed⟩⟩
  | log, .renew now stored ttlSecs =>
    match stored.renew K now identity ttlSecs with
    | .error e => ⟨.error e, log⟩
    | .ok lease => ⟨.ok lease, { log with signed := lease :: log.signed }⟩

/-- Ideal signatures: a lease that verifies under the issuer's key repeats the payload of
one that the issuer signed. -/
def Unforged (K : Crates) (identity : PartyIdentity) (log : IssuerLog) (l : SessionLease) : Prop :=
  l.issuerPubkey = identity.publicIdentity K → l.Signed K → ∃ m ∈ log.signed, m.payload = l.payload

/-- The lease that a call renews is not forged, and is one that the issuer signed if the
issuer's key is on it. -/
structure Checked (K : Crates) (identity : PartyIdentity)
    (e : Event IssuerLog LeaseCall (Except LeaseError SessionLease)) : Prop where
  unforged : ∀ now stored ttlSecs, e.input = .renew now stored ttlSecs →
    Unforged K identity e.before stored
  signed : ∀ now stored ttlSecs, e.input = .renew now stored ttlSecs →
    stored.issuerPubkey = identity.publicIdentity K → stored.Signed K

/-- Everything the issuer signed is one of its grants. -/
def GrantsOnly (K : Crates) (identity : PartyIdentity) (log : IssuerLog) : Prop :=
  ∀ m ∈ log.signed, m.issuerPubkey = identity.publicIdentity K ∧ m.grant ∈ log.granted

variable {K : Crates} {identity : PartyIdentity}

/-- A lease that repeats a signed payload is a grant, too. -/
theorem GrantsOnly.of_payload {log : IssuerLog} (h : log.GrantsOnly K identity)
    (hkey : (K.verifyingKey identity.seed).toList.getLast? ≠ some 0) {l : SessionLease}
    (hissuer : l.issuerPubkey = identity.publicIdentity K)
    (hsigned : ∃ m ∈ log.signed, m.payload = l.payload) : l.grant ∈ log.granted := by
  obtain ⟨m, hm, hpayload⟩ := hsigned
  obtain ⟨hown, hgrant⟩ := h m hm
  have hlast : m.issuerPubkey.bytes.toList.getLast? ≠ some 0 := by
    rw [hown]
    exact hkey
  rwa [SessionLease.grant_eq_of_payload_eq (hown.trans hissuer.symm) hlast hpayload] at hgrant

/-- Issuing adds a grant; renewing a lease that the issuer signed repeats one. -/
theorem GrantsOnly.step (hkey : (K.verifyingKey identity.seed).toList.getLast? ≠ some 0)
    {log : IssuerLog} {call : LeaseCall} (h : log.GrantsOnly K identity)
    (hchecked : Checked K identity ((machine K identity).fire log call)) :
    (machine K identity log call).next.GrantsOnly K identity := by
  cases call with
  | issue now sessionId peer ttlSecs =>
    intro m hm
    rcases List.mem_cons.mp hm with rfl | hm
    · exact ⟨rfl, List.mem_cons_self⟩
    · exact ⟨(h m hm).1, List.mem_cons_of_mem _ (h m hm).2⟩
  | renew now stored ttlSecs =>
    simp only [machine]
    cases hrenew : stored.renew K now identity ttlSecs with
    | error e => exact h
    | ok new =>
      obtain ⟨hissuer, rfl⟩ := SessionLease.renew_eq_ok_iff.mp hrenew
      have hsigned := hchecked.signed now stored ttlSecs rfl hissuer
      have hgrant : stored.grant ∈ log.granted :=
        h.of_payload hkey hissuer (hchecked.unforged now stored ttlSecs rfl hissuer hsigned)
      intro m hm
      rcases List.mem_cons.mp hm with rfl | hm
      · exact ⟨hissuer, hgrant⟩
      · exact h m hm

/-- The log a history ends with. -/
def after (K : Crates) (identity : PartyIdentity) (calls : List LeaseCall) : IssuerLog :=
  (machine K identity).final start calls

/-- A renewal comes from a signed parent exactly when the parent that has the issuer's key
has its signature, too. In a history of such renewals every lease that verifies under the
issuer's key is one of the issuer's grants. -/
theorem renewal_keeps_grants (K : Crates) (identity : PartyIdentity) :
    (∀ (l : SessionLease) (now ttlSecs : UInt64),
      (∀ new, l.renew K now identity ttlSecs = .ok new → l.Signed K) ↔
        (l.issuerPubkey = identity.publicIdentity K → l.Signed K)) ∧
    ((K.verifyingKey identity.seed).toList.getLast? ≠ some 0 →
      ∀ calls, (∀ e ∈ (machine K identity).trace start calls, Checked K identity e) →
        ∀ l : SessionLease, l.issuerPubkey = identity.publicIdentity K → l.Signed K →
          Unforged K identity (after K identity calls) l →
          l.grant ∈ (after K identity calls).granted) := by
  constructor
  · intro l now ttlSecs
    constructor
    · intro h hissuer
      exact h _ (SessionLease.renew_eq_ok_iff.mpr ⟨hissuer, rfl⟩)
    · intro h new hnew
      exact h (SessionLease.renew_eq_ok_iff.mp hnew).1
  · intro hkey calls hchecked l hissuer hsigned hunforged
    have hgrants : (after K identity calls).GrantsOnly K identity :=
      (machine K identity).final_invariant_of_events (fun _ _ h hc => h.step hkey hc)
        (fun m hm => absurd hm List.not_mem_nil) calls hchecked
    exact hgrants.of_payload hkey hissuer (hunforged hissuer hsigned)

def sampleIssuer : PartyIdentity := .fromSeed (filled 7)

def samplePeer : PublicIdentity := (PartyIdentity.fromSeed (filled 8)).publicIdentity .reference

def sampleLease : SessionLease := .issue .reference 1000 sampleIssuer "s" samplePeer 1800

/-- A lease as its issuer renews it. -/
def renewedFrom (l : SessionLease) : SessionLease :=
  ((l.renew .reference 1500 sampleIssuer 1800).toOption).getD l

def historyWith (stored : SessionLease) : List LeaseCall :=
  [.issue 1000 "s" samplePeer 1800, .renew 1500 stored 1800]

section Sample
variable {l : SessionLease} (h : l.issuerPubkey = sampleIssuer.publicIdentity .reference)
include h

theorem renew_renewedFrom :
    l.renew .reference 1500 sampleIssuer 1800 = .ok (renewedFrom l) := by
  have hrenew := (@SessionLease.renew_eq_ok_iff .reference 1500 1800 l _ sampleIssuer).mpr ⟨h, rfl⟩
  rw [renewedFrom, hrenew]
  rfl

theorem renewedFrom_issuer : (renewedFrom l).issuerPubkey = l.issuerPubkey := by
  obtain ⟨-, hnew⟩ := SessionLease.renew_eq_ok_iff.mp (renew_renewedFrom h)
  rw [hnew]

theorem renewedFrom_grant : (renewedFrom l).grant = l.grant := by
  obtain ⟨-, hnew⟩ := SessionLease.renew_eq_ok_iff.mp (renew_renewedFrom h)
  rw [hnew]
  rfl

theorem renewedFrom_signed : (renewedFrom l).Signed .reference := by
  obtain ⟨-, hnew⟩ := SessionLease.renew_eq_ok_iff.mp (renew_renewedFrom h)
  rw [hnew]
  simp only [SessionLease.Signed, h]
  exact (Crates.reference_proper sampleIssuer).verify_sign _

theorem after_historyWith : after .reference sampleIssuer (historyWith l) =
    ⟨[sampleLease.grant], [renewedFrom l, sampleLease]⟩ := by
  simp only [after, historyWith, Machine.final_cons, Machine.final_nil, machine,
    renew_renewedFrom h]
  rfl

end Sample

theorem renewed_grant_kept : (renewedFrom sampleLease).grant ∈
    (after .reference sampleIssuer (historyWith sampleLease)).granted := by
  have hkey : (Crates.reference.verifyingKey sampleIssuer.seed).toList.getLast? ≠ some 0 := by
    decide +kernel
  have hsigned : sampleLease.Signed .reference :=
    (Crates.reference_proper sampleIssuer).verify_sign _
  refine (renewal_keeps_grants .reference sampleIssuer).2 hkey (historyWith sampleLease) ?_ _
    (renewedFrom_issuer rfl) (renewedFrom_signed rfl) ?_
  · intro e he
    rcases List.mem_cons.mp he with rfl | he
    · exact ⟨nofun, nofun⟩
    · rw [List.mem_singleton.mp he]
      constructor
      · rintro now stored ttlSecs ⟨⟩ - -
        exact ⟨sampleLease, List.mem_cons_self, rfl⟩
      · rintro now stored ttlSecs ⟨⟩ -
        exact hsigned
  · intro _ _
    rw [after_historyWith rfl]
    exact ⟨_, List.mem_cons_self, rfl⟩

/-- The stored lease with another peer written into it. -/
def tamperedLease : SessionLease :=
  { sampleLease with
    peerPubkey := (PartyIdentity.fromSeed (filled 9)).publicIdentity .reference }

theorem tampered_lease_renewed :
    (¬ tamperedLease.Signed .reference ∧
      tamperedLease.renew .reference 1500 sampleIssuer 1800 = .ok (renewedFrom tamperedLease)) ∧
    (renewedFrom tamperedLease).issuerPubkey = sampleIssuer.publicIdentity .reference ∧
    (renewedFrom tamperedLease).Signed .reference ∧
    Unforged .reference sampleIssuer (after .reference sampleIssuer (historyWith tamperedLease))
      (renewedFrom tamperedLease) ∧
    (renewedFrom tamperedLease).grant ∉
      (after .reference sampleIssuer (historyWith tamperedLease)).granted := by
  refine ⟨⟨by decide +kernel, renew_renewedFrom rfl⟩, renewedFrom_issuer rfl,
    renewedFrom_signed rfl, ?_, ?_⟩
  · intro _ _
    rw [after_historyWith rfl]
    exact ⟨_, List.mem_cons_self, rfl⟩
  · rw [after_historyWith rfl, renewedFrom_grant rfl, List.mem_singleton]
    decide +kernel

end IssuerLog

end BlindOverlap
