import BlindOverlap.Invite
import BlindOverlap.Lease
import BlindOverlap.Lib.Overflow
import BlindOverlap.Reference
import BlindOverlap.Replay

/-!
# Lifetimes and counters at the end of their range

Session deadlines and attestations stop at the largest time. Tickets, leases and the
replay store add the lifetime unchecked, and a renewal adds one to the count unchecked:
in a release build the sum wraps around, in a debug build the call panics.
-/
namespace BlindOverlap

/-! ## The additions of each call -/

def InviteTicket.issueIn (build : Build) (K : Crates) (now : UInt64) (issuer : PartyIdentity)
    (sessionId : String) (peerPubkey : Option PublicIdentity) (allowedMode : AllowedMode)
    (ttlSecs : UInt64) : Option InviteTicket :=
  (build.addU64 now ttlSecs).map
    fun _ => issue K now issuer sessionId peerPubkey allowedMode ttlSecs

namespace SessionLease

def issueIn (build : Build) (K : Crates) (now : UInt64) (issuer : PartyIdentity)
    (sessionId : String) (peerPubkey : PublicIdentity) (ttlSecs : UInt64) : Option SessionLease :=
  (build.addU64 now ttlSecs).map fun _ => issue K now issuer sessionId peerPubkey ttlSecs

/-- The issuer is compared before anything is added. -/
def renewIn (build : Build) (K : Crates) (now : UInt64) (l : SessionLease)
    (issuer : PartyIdentity) (ttlSecs : UInt64) : Option (Except LeaseError SessionLease) :=
  if l.issuerPubkey ≠ issuer.publicIdentity K then some (l.renew K now issuer ttlSecs)
  else do
    let _ ← build.addU64 now ttlSecs
    let _ ← build.addU32 l.renewCount 1
    some (l.renew K now issuer ttlSecs)

end SessionLease

namespace ReplayStore

/-- A value that is refused is refused before anything is added. -/
def recordIn (build : Build) (now : UInt64) (s : ReplayStore) (check : Except FreshnessError Unit)
    (record : Step ReplayStore (Except FreshnessError Unit)) :
    Option (Step ReplayStore (Except FreshnessError Unit)) :=
  match check with
  | .error _ => some record
  | .ok () => (build.addU64 now s.defaultTtl).map fun _ => record

def recordNonceIn (build : Build) (checkedAt cleanedAt now : UInt64) (nonce : SessionNonce)
    (sessionId : Option String) (s : ReplayStore) :
    Option (Step ReplayStore (Except FreshnessError Unit)) :=
  s.recordIn build now (s.checkNonce checkedAt nonce)
    (s.recordNonce checkedAt cleanedAt now nonce sessionId)

def recordDigestIn (build : Build) (checkedAt cleanedAt now : UInt64) (digest : TranscriptDigest)
    (sessionId : Option String) (s : ReplayStore) :
    Option (Step ReplayStore (Except FreshnessError Unit)) :=
  s.recordIn build now (s.checkDigest checkedAt digest)
    (s.recordDigest checkedAt cleanedAt now digest sessionId)

end ReplayStore

/-! ## What fits -/

section Fitting
variable {K : Crates} {issuer : PartyIdentity} (hissuer : issuer.Proper K) (build : Build)
  (now ttl : UInt64)
include hissuer

theorem InviteTicket.issueIn_iff (sessionId : String) (peer : Option PublicIdentity)
    (mode : AllowedMode) :
    (∃ t, issueIn build K now issuer sessionId peer mode ttl = some t ∧
      t.issuedAt ≤ t.expiresAt ∧ t.verify K now = .ok ()) ↔
      now.toNat + ttl.toNat < UInt64.size := by
  constructor
  · rintro ⟨t, ht, hle, -⟩
    obtain ⟨e, -, rfl⟩ := Option.map_eq_some_iff.mp ht
    exact (UInt64.le_add_iff now ttl).mp hle
  · intro hfits
    have hle := (UInt64.le_add_iff now ttl).mpr hfits
    refine ⟨issue K now issuer sessionId peer mode ttl, ?_, hle, ?_⟩
    · rw [issueIn, Build.addU64_of_lt hfits, Option.map_some]
    · exact verify_issue hissuer hle sessionId peer mode

theorem SessionLease.issueIn_iff (sessionId : String) (peer : PublicIdentity) :
    (∃ l, issueIn build K now issuer sessionId peer ttl = some l ∧
      l.issuedAt ≤ l.expiresAt ∧ l.verify K now = .ok ()) ↔
      now.toNat + ttl.toNat < UInt64.size := by
  constructor
  · rintro ⟨l, hl, hle, -⟩
    obtain ⟨e, -, rfl⟩ := Option.map_eq_some_iff.mp hl
    exact (UInt64.le_add_iff now ttl).mp hle
  · intro hfits
    have hle := (UInt64.le_add_iff now ttl).mpr hfits
    refine ⟨issue K now issuer sessionId peer ttl, ?_, hle, ?_⟩
    · rw [issueIn, Build.addU64_of_lt hfits, Option.map_some]
    · exact verify_eq_ok_iff.mpr ⟨hissuer.verify_sign _, UInt64.le_refl _, hle⟩

/-- A renewal is refused, or both of its sums have to fit. -/
theorem SessionLease.renewIn_iff (l : SessionLease) :
    (∃ out, l.renewIn build K now issuer ttl = some out ∧
      ∀ renewed, out = .ok renewed → renewed.issuedAt ≤ renewed.expiresAt ∧
        renewed.verify K now = .ok () ∧ l.renewCount < renewed.renewCount) ↔
      l.issuerPubkey ≠ issuer.publicIdentity K ∨
        now.toNat + ttl.toNat < UInt64.size ∧ l.renewCount.toNat + 1 < UInt32.size := by
  by_cases hkey : l.issuerPubkey = issuer.publicIdentity K
  · simp only [renewIn, renew, hkey, ne_eq, not_true, if_false, false_or]
    constructor
    · rintro ⟨out, hout, hgood⟩
      obtain ⟨expires, -, hout⟩ := Option.bind_eq_some_iff.mp hout
      obtain ⟨count, -, hout⟩ := Option.bind_eq_some_iff.mp hout
      cases hout
      obtain ⟨hle, -, hlt⟩ := hgood _ rfl
      exact ⟨(UInt64.le_add_iff now ttl).mp hle, (UInt32.lt_add_one_iff _).mp hlt⟩
    · rintro ⟨hfits, hcount⟩
      have hle := (UInt64.le_add_iff now ttl).mpr hfits
      rw [Build.addU64_of_lt hfits, Build.addU32_of_lt (b := 1) hcount]
      refine ⟨_, rfl, ?_⟩
      rintro renewed hrenewed
      cases hrenewed
      exact ⟨hle, verify_eq_ok_iff.mpr ⟨hissuer.verify_sign _, UInt64.le_refl _, hle⟩,
        (UInt32.lt_add_one_iff _).mpr hcount⟩
  · simp [renewIn, renew, hkey]

end Fitting

namespace ReplayStore

/-- A value just recorded is live if it was so before or its expiry fits. -/
theorem check_after_record {now : UInt64} {s : ReplayStore} (httl : 1 ≤ s.defaultTtl)
    (op : ReplayOp) (value : ReplayValue) (hasks : op.asks? = some (value, now))
    (hrecords : op.records? = some (value, now)) :
    (machine s op).next.check now value ≠ .ok () ↔
      s.check now value ≠ .ok () ∨ now.toNat + s.defaultTtl.toNat < UInt64.size := by
  simp only [ne_eq, check_eq_ok_iff]
  cases machine_callCases s op with
  | refuses value' now' entry hop hlive houtput hnext =>
    cases hasks.symm.trans hop
    simp [hnext, hlive]
  | checks value' now' hop hnone hlive houtput hnext => cases hrecords.symm.trans hnone
  | records value' checkedAt cleanedAt now' hop hop' hticks hlive houtput hvalue hothers httl' =>
    cases hrecords.symm.trans hop'
    cases hasks.symm.trans hop
    rw [hvalue, hlive, ← UInt64.lt_add_iff httl, UInt64.lt_iff_toNat_lt]
    simp [expires, entryAt]
  | cleans now' hop hnone hticks houtput hlive httl' => cases hrecords.symm.trans hnone

theorem recordIn_iff (build : Build) {now : UInt64} {s : ReplayStore} (httl : 1 ≤ s.defaultTtl)
    (op : ReplayOp) (value : ReplayValue) (hasks : op.asks? = some (value, now))
    (hrecords : op.records? = some (value, now)) :
    (∃ step, s.recordIn build now (s.check now value) (machine s op) = some step ∧
      ∃ what, step.next.check now value = .error (.replayDetected what)) ↔
      s.check now value ≠ .ok () ∨ now.toNat + s.defaultTtl.toNat < UInt64.size := by
  rw [← check_after_record httl op value hasks hrecords]
  simp only [check_replayed_iff]
  constructor
  · rintro ⟨step, hstep, hseen⟩
    unfold recordIn at hstep
    split at hstep
    · cases hstep
      exact hseen
    · obtain ⟨expires, -, rfl⟩ := Option.map_eq_some_iff.mp hstep
      exact hseen
  · intro hseen
    refine ⟨machine s op, ?_, hseen⟩
    unfold recordIn
    split
    · rfl
    · next hok =>
      have hfits := ((check_after_record httl op value hasks hrecords).mp hseen).resolve_left
        (fun hne => hne hok)
      rw [Build.addU64_of_lt hfits, Option.map_some]

end ReplayStore

/-- Lifetimes and counters come out right exactly when their sums fit, in either build. A
renewal is refused to anyone but the issuer, and a value already live is not recorded. -/
theorem lifetimes_iff {K : Crates} {issuer : PartyIdentity} (hissuer : issuer.Proper K)
    (build : Build) (now ttl : UInt64) :
    (∀ sessionId peer mode,
      (∃ t, InviteTicket.issueIn build K now issuer sessionId peer mode ttl = some t ∧
        t.issuedAt ≤ t.expiresAt ∧ t.verify K now = .ok ()) ↔
        now.toNat + ttl.toNat < UInt64.size) ∧
    (∀ sessionId peer,
      (∃ l, SessionLease.issueIn build K now issuer sessionId peer ttl = some l ∧
        l.issuedAt ≤ l.expiresAt ∧ l.verify K now = .ok ()) ↔
        now.toNat + ttl.toNat < UInt64.size) ∧
    (∀ l : SessionLease,
      (∃ out, l.renewIn build K now issuer ttl = some out ∧
        ∀ renewed, out = .ok renewed → renewed.issuedAt ≤ renewed.expiresAt ∧
          renewed.verify K now = .ok () ∧ l.renewCount < renewed.renewCount) ↔
        l.issuerPubkey ≠ issuer.publicIdentity K ∨
          now.toNat + ttl.toNat < UInt64.size ∧ l.renewCount.toNat + 1 < UInt32.size) ∧
    ∀ s : ReplayStore, 1 ≤ s.defaultTtl → ∀ sessionId,
      (∀ nonce,
        (∃ step, s.recordNonceIn build now now now nonce sessionId = some step ∧
          ∃ what, step.next.checkNonce now nonce = .error (.replayDetected what)) ↔
          s.checkNonce now nonce ≠ .ok () ∨
            now.toNat + s.defaultTtl.toNat < UInt64.size) ∧
      ∀ digest,
        (∃ step, s.recordDigestIn build now now now digest sessionId = some step ∧
          ∃ what, step.next.checkDigest now digest = .error (.replayDetected what)) ↔
          s.checkDigest now digest ≠ .ok () ∨
            now.toNat + s.defaultTtl.toNat < UInt64.size := by
  refine ⟨?_, ?_, ?_, ?_⟩
  · exact InviteTicket.issueIn_iff hissuer build now ttl
  · exact SessionLease.issueIn_iff hissuer build now ttl
  · exact SessionLease.renewIn_iff hissuer build now ttl
  · intro s httl sessionId
    refine ⟨fun nonce => ?_, fun digest => ?_⟩
    · exact ReplayStore.recordIn_iff build httl (.recordNonce now now now nonce sessionId)
        (.inl nonce) rfl rfl
    · exact ReplayStore.recordIn_iff build httl (.recordDigest now now now digest sessionId)
        (.inr digest) rfl rfl

/-- A ticket for a day that an issuer with a proper key gives out. -/
theorem lifetimes_iff_day :
    ∃ t, InviteTicket.issueIn .debug .reference 1000 (.fromSeed (filled 7)) "s" none .any 86400 =
        some t ∧
      t.issuedAt ≤ t.expiresAt ∧ t.verify .reference 1000 = .ok () :=
  ((lifetimes_iff (Crates.reference_proper (.fromSeed (filled 7))) .debug 1000 86400).1
    "s" none .any).mpr (by decide)

/-- A lease whose count is the last that the counter has. -/
def lastRenewal : SessionLease :=
  { SessionLease.issue .reference 900 (.fromSeed (filled 7)) "s" ⟨filled 8⟩ 60 with
    renewCount := 4294967295 }

/-- A store whose entries are to live as long as possible. -/
def longestStore : ReplayStore := .withTtl 18446744073709551615

/-- With the longest lifetime a ticket expires before it is issued, or is not issued at all; a
lease renewed as often as can be counted turns into one never renewed; and a nonce just
recorded is as good as new. -/
theorem lifetimes_wrapped :
    (∃ t, InviteTicket.issueIn .release .reference 1000 (.fromSeed (filled 7)) "s" none .any
        18446744073709551615 = some t ∧
      t.expiresAt < t.issuedAt ∧ t.verify .reference 1000 ≠ .ok ()) ∧
    InviteTicket.issueIn .debug .reference 1000 (.fromSeed (filled 7)) "s" none .any
      18446744073709551615 = none ∧
    (∃ renewed, lastRenewal.renewIn .release .reference 1000 (.fromSeed (filled 7)) 60 =
        some (.ok renewed) ∧ renewed.renewCount = 0) ∧
    ∃ step, longestStore.recordNonceIn .release 1000 1000 1000 ⟨filled 1⟩ none = some step ∧
      step.output = .ok () ∧ step.next.checkNonce 1000 ⟨filled 1⟩ = .ok () := by
  have hcheck : longestStore.check 1000 (.inl ⟨filled 1⟩) = .ok () :=
    ReplayStore.check_eq_ok_iff.mpr Expiring.live_empty
  change longestStore.checkNonce 1000 ⟨filled 1⟩ = .ok () at hcheck
  refine ⟨⟨_, rfl, by decide, ?_⟩, rfl, ?_,
    longestStore.recordNonce 1000 1000 1000 ⟨filled 1⟩ none, ?_, ?_, ?_⟩
  · intro h
    exact absurd (InviteTicket.verify_eq_ok_iff.mp h).2.2 (by decide)
  · have hkey : lastRenewal.issuerPubkey =
        (PartyIdentity.fromSeed (filled 7)).publicIdentity .reference := rfl
    rw [SessionLease.renewIn, SessionLease.renew, if_neg (not_not.mpr hkey),
      if_neg (not_not.mpr hkey)]
    exact ⟨_, rfl, rfl⟩
  · rw [ReplayStore.recordNonceIn, hcheck]
    rfl
  · rw [ReplayStore.recordNonce, hcheck]
  · by_contra h
    have httl : 1 ≤ longestStore.defaultTtl := by decide
    have hseen := (ReplayStore.check_after_record httl
      (.recordNonce 1000 1000 1000 ⟨filled 1⟩ none) (.inl ⟨filled 1⟩) rfl rfl).mp h
    rcases hseen with hbefore | hfits
    · exact hbefore hcheck
    · exact absurd hfits (by decide)

end BlindOverlap
