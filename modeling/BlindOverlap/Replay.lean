import BlindOverlap.Freshness
import BlindOverlap.Lib.Expiring
import BlindOverlap.Lib.Machine

/-!
# The replay store

Two tables remember nonces and transcript digests until they expire. Recording a
value checks it first, and cleans both tables up when they hold too much; each of
the three parts reads the clock for itself.
-/
namespace BlindOverlap

structure StoreEntry where
  recordedAt : UInt64
  expiresAt : UInt64
  sessionId : Option String
  deriving DecidableEq

structure ReplayStore where
  nonces : Std.HashMap SessionNonce StoreEntry
  digests : Std.HashMap TranscriptDigest StoreEntry
  defaultTtl : UInt64
  maxEntries : ℕ

namespace ReplayStore

def withLimits (ttlSecs : UInt64) (maxEntries : ℕ) : ReplayStore := ⟨∅, ∅, ttlSecs, maxEntries⟩

def withTtl (ttlSecs : UInt64) : ReplayStore := withLimits ttlSecs 100000

def new : ReplayStore := withLimits 3600 100000

/-- The check of either table, for a key of the given description. -/
def checkSeen {κ : Type} [DecidableEq κ] [Hashable κ] (now : UInt64)
    (table : Std.HashMap κ StoreEntry) (key : κ) (name : String) : Except FreshnessError Unit :=
  match table[key]? with
  | some entry =>
    if now < entry.expiresAt then
      .error (.replayDetected s!"{name} seen at {entry.recordedAt}")
    else .ok ()
  | none => .ok ()

def checkNonce (now : UInt64) (s : ReplayStore) (nonce : SessionNonce) :
    Except FreshnessError Unit :=
  checkSeen now s.nonces nonce s!"nonce {nonce.toHex}"

def checkDigest (now : UInt64) (s : ReplayStore) (digest : TranscriptDigest) :
    Except FreshnessError Unit :=
  checkSeen now s.digests digest s!"transcript {digest.toHex}"

def cleanupExpired (now : UInt64) (s : ReplayStore) : ReplayStore :=
  { s with
    nonces := s.nonces.filter (fun _ entry => decide (entry.expiresAt > now))
    digests := s.digests.filter (fun _ entry => decide (entry.expiresAt > now)) }

def maybeCleanup (now : UInt64) (s : ReplayStore) : ReplayStore :=
  if s.nonces.size + s.digests.size > s.maxEntries then s.cleanupExpired now else s

/-- The sum may wrap, as it does in a release build. -/
def entryAt (now : UInt64) (s : ReplayStore) (sessionId : Option String) : StoreEntry :=
  ⟨now, now + s.defaultTtl, sessionId⟩

def recordNonce (checkedAt cleanedAt now : UInt64) (nonce : SessionNonce)
    (sessionId : Option String) (s : ReplayStore) : Step ReplayStore (Except FreshnessError Unit) :=
  match s.checkNonce checkedAt nonce with
  | .error e => ⟨.error e, s⟩
  | .ok () =>
    let s := s.maybeCleanup cleanedAt
    ⟨.ok (), { s with nonces := s.nonces.insert nonce (s.entryAt now sessionId) }⟩

def recordDigest (checkedAt cleanedAt now : UInt64) (digest : TranscriptDigest)
    (sessionId : Option String) (s : ReplayStore) : Step ReplayStore (Except FreshnessError Unit) :=
  match s.checkDigest checkedAt digest with
  | .error e => ⟨.error e, s⟩
  | .ok () =>
    let s := s.maybeCleanup cleanedAt
    ⟨.ok (), { s with digests := s.digests.insert digest (s.entryAt now sessionId) }⟩

end ReplayStore

/-! ## The store as a machine -/

inductive ReplayOp where
  | checkNonce (now : UInt64) (nonce : SessionNonce)
  | recordNonce (checkedAt cleanedAt now : UInt64) (nonce : SessionNonce)
      (sessionId : Option String)
  | checkDigest (now : UInt64) (digest : TranscriptDigest)
  | recordDigest (checkedAt cleanedAt now : UInt64) (digest : TranscriptDigest)
      (sessionId : Option String)
  | cleanupExpired (now : UInt64)

/-- What the store tracks. -/
abbrev ReplayValue := SessionNonce ⊕ TranscriptDigest

namespace ReplayOp

/-- The value that a call checks, and when. -/
def asks? : ReplayOp → Option (ReplayValue × UInt64)
  | .checkNonce now nonce => some (.inl nonce, now)
  | .recordNonce checkedAt _ _ nonce _ => some (.inl nonce, checkedAt)
  | .checkDigest now digest => some (.inr digest, now)
  | .recordDigest checkedAt _ _ digest _ => some (.inr digest, checkedAt)
  | .cleanupExpired _ => none

/-- The value that a call records, if it succeeds, and when. -/
def records? : ReplayOp → Option (ReplayValue × UInt64)
  | .recordNonce _ _ now nonce _ => some (.inl nonce, now)
  | .recordDigest _ _ now digest _ => some (.inr digest, now)
  | _ => none

/-- The session that a record is made for. -/
def sessionId? : ReplayOp → Option String
  | .recordNonce _ _ _ _ sessionId => sessionId
  | .recordDigest _ _ _ _ sessionId => sessionId
  | _ => none

/-- The first reading of the clock in a call. -/
def startsAt : ReplayOp → UInt64
  | .checkNonce now _ => now
  | .recordNonce checkedAt _ _ _ _ => checkedAt
  | .checkDigest now _ => now
  | .recordDigest checkedAt _ _ _ _ => checkedAt
  | .cleanupExpired now => now

/-- The clock does not run backwards, from one call to the next or within a call. -/
def Ticks (t : UInt64) (op : ReplayOp) (t' : UInt64) : Prop :=
  t ≤ op.startsAt ∧
  match op with
  | .recordNonce checkedAt cleanedAt now _ _ => checkedAt ≤ cleanedAt ∧ cleanedAt ≤ now ∧ t' = now
  | .recordDigest checkedAt cleanedAt now _ _ => checkedAt ≤ cleanedAt ∧ cleanedAt ≤ now ∧ t' = now
  | op => t' = op.startsAt

theorem Ticks.le {op : ReplayOp} {t t' : UInt64} (h : op.Ticks t t') : t ≤ op.startsAt ∧
    op.startsAt ≤ t' := by
  refine ⟨h.1, ?_⟩
  cases op with
  | recordNonce checkedAt cleanedAt now nonce sessionId =>
    obtain ⟨-, h1, h2, rfl⟩ := h
    exact UInt64.le_trans h1 h2
  | recordDigest checkedAt cleanedAt now digest sessionId =>
    obtain ⟨-, h1, h2, rfl⟩ := h
    exact UInt64.le_trans h1 h2
  | checkNonce now nonce => exact UInt64.le_of_eq h.2.symm
  | checkDigest now digest => exact UInt64.le_of_eq h.2.symm
  | cleanupExpired now => exact UInt64.le_of_eq h.2.symm

theorem asks_startsAt {op : ReplayOp} {value : ReplayValue} {now : UInt64}
    (h : op.asks? = some (value, now)) : op.startsAt = now := by
  cases op <;> simp_all [asks?, startsAt]

/-- A recorded value is checked before, in the same call. -/
theorem Ticks.asks_of_records {op : ReplayOp} {t t' : UInt64} (h : op.Ticks t t')
    {value : ReplayValue} {now : UInt64} (hop : op.records? = some (value, now)) :
    ∃ checkedAt, op.asks? = some (value, checkedAt) ∧ checkedAt ≤ now := by
  cases op with
  | recordNonce checkedAt cleanedAt now' nonce sessionId =>
    cases hop
    exact ⟨checkedAt, rfl, UInt64.le_trans h.2.1 h.2.2.1⟩
  | recordDigest checkedAt cleanedAt now' digest sessionId =>
    cases hop
    exact ⟨checkedAt, rfl, UInt64.le_trans h.2.1 h.2.2.1⟩
  | _ => cases hop

end ReplayOp

namespace ReplayStore

def machine : Machine ReplayStore ReplayOp (Except FreshnessError Unit)
  | s, .checkNonce now nonce => ⟨s.checkNonce now nonce, s⟩
  | s, .recordNonce checkedAt cleanedAt now nonce sessionId =>
    s.recordNonce checkedAt cleanedAt now nonce sessionId
  | s, .checkDigest now digest => ⟨s.checkDigest now digest, s⟩
  | s, .recordDigest checkedAt cleanedAt now digest sessionId =>
    s.recordDigest checkedAt cleanedAt now digest sessionId
  | s, .cleanupExpired now => ⟨.ok (), s.cleanupExpired now⟩

/-! ## Live entries -/

/-- When an entry expires, as a number. -/
def expires (entry : StoreEntry) : ℕ := entry.expiresAt.toNat

/-- The entry of a value, unless it has expired. -/
def live (t : ℕ) (s : ReplayStore) : ReplayValue → Option StoreEntry
  | .inl nonce => Expiring.live expires t s.nonces nonce
  | .inr digest => Expiring.live expires t s.digests digest

theorem live_withLimits (ttl : UInt64) (maxEntries : ℕ) (t : ℕ) (value : ReplayValue) :
    (withLimits ttl maxEntries).live t value = none := by
  cases value <;> exact Expiring.live_empty

/-- How a replay of a value is reported. -/
def seen (value : ReplayValue) (entry : StoreEntry) : FreshnessError :=
  match value with
  | .inl nonce => .replayDetected s!"nonce {nonce.toHex} seen at {entry.recordedAt}"
  | .inr digest => .replayDetected s!"transcript {digest.toHex} seen at {entry.recordedAt}"

theorem exists_seen (value : ReplayValue) (entry : StoreEntry) :
    ∃ what, seen value entry = .replayDetected what := by
  cases value <;> exact ⟨_, rfl⟩

/-- A check finds the live entry. -/
theorem checkSeen_eq {κ : Type} [DecidableEq κ] [Hashable κ] (now : UInt64)
    (table : Std.HashMap κ StoreEntry) (key : κ) (name : String) :
    checkSeen now table key name =
      match Expiring.live expires now.toNat table key with
      | some entry => .error (.replayDetected s!"{name} seen at {entry.recordedAt}")
      | none => .ok () := by
  unfold checkSeen Expiring.live
  cases table[key]? with
  | none => rfl
  | some entry =>
    by_cases h : now < entry.expiresAt
    · have h' : now.toNat < expires entry := UInt64.lt_iff_toNat_lt.mp h
      simp [h, h', Option.filter]
    · have h' : ¬ now.toNat < expires entry := mt UInt64.lt_iff_toNat_lt.mpr h
      simp [h, h', Option.filter]

theorem live_cleanupExpired {now : UInt64} {t : ℕ} (h : now.toNat ≤ t) (s : ReplayStore)
    (value : ReplayValue) : (s.cleanupExpired now).live t value = s.live t value := by
  have hretain : (fun entry : StoreEntry => decide (entry.expiresAt > now)) =
      fun entry => decide (now.toNat < expires entry) := by
    funext entry
    exact decide_eq_decide.mpr UInt64.lt_iff_toNat_lt
  have hnonces : (s.cleanupExpired now).nonces = Expiring.cleanup expires now.toNat s.nonces := by
    simp only [cleanupExpired, Expiring.cleanup]
    exact congrArg (fun p => s.nonces.filter (fun _ entry => p entry)) hretain
  have hdigests :
      (s.cleanupExpired now).digests = Expiring.cleanup expires now.toNat s.digests := by
    simp only [cleanupExpired, Expiring.cleanup]
    exact congrArg (fun p => s.digests.filter (fun _ entry => p entry)) hretain
  cases value with
  | inl nonce => rw [live, hnonces, Expiring.live_cleanup h, live]
  | inr digest => rw [live, hdigests, Expiring.live_cleanup h, live]

theorem live_maybeCleanup {now : UInt64} {t : ℕ} (h : now.toNat ≤ t) (s : ReplayStore)
    (value : ReplayValue) : (s.maybeCleanup now).live t value = s.live t value := by
  unfold maybeCleanup
  split_ifs
  · exact live_cleanupExpired h s value
  · rfl

@[simp] theorem maybeCleanup_defaultTtl (now : UInt64) (s : ReplayStore) :
    (s.maybeCleanup now).defaultTtl = s.defaultTtl := by
  unfold maybeCleanup
  split_ifs <;> rfl

/-! ## What a call comes to -/

/-- A call finds its value live and fails, or checks it, records it or cleans up,
none of which takes away what is live afterwards. -/
inductive CallCases (s : ReplayStore) (op : ReplayOp) (output : Except FreshnessError Unit)
    (next : ReplayStore) : Prop where
  | refuses (value : ReplayValue) (now : UInt64) (entry : StoreEntry)
      (hop : op.asks? = some (value, now)) (hlive : s.live now.toNat value = some entry)
      (houtput : output = .error (seen value entry)) (hnext : next = s)
  | checks (value : ReplayValue) (now : UInt64) (hop : op.asks? = some (value, now))
      (hrecords : op.records? = none) (hlive : s.live now.toNat value = none)
      (houtput : output = .ok ()) (hnext : next = s)
  | records (value : ReplayValue) (checkedAt cleanedAt now : UInt64)
      (hop : op.asks? = some (value, checkedAt)) (hrecords : op.records? = some (value, now))
      (hticks : ∀ t t', op.Ticks t t' → cleanedAt ≤ t' ∧ t' = now)
      (hlive : s.live checkedAt.toNat value = none) (houtput : output = .ok ())
      (hvalue : ∀ t : ℕ, next.live t value =
        if t < expires (s.entryAt now op.sessionId?) then some (s.entryAt now op.sessionId?)
        else none)
      (hothers : ∀ t value', cleanedAt.toNat ≤ t → value' ≠ value →
        next.live t value' = s.live t value')
      (httl : next.defaultTtl = s.defaultTtl)
  | cleans (now : UInt64) (hop : op.asks? = none) (hrecords : op.records? = none)
      (hticks : ∀ t t', op.Ticks t t' → t' = now) (houtput : output = .ok ())
      (hlive : ∀ t value, now.toNat ≤ t → next.live t value = s.live t value)
      (httl : next.defaultTtl = s.defaultTtl)

theorem checkNonce_eq (now : UInt64) (s : ReplayStore) (nonce : SessionNonce) :
    s.checkNonce now nonce =
      match s.live now.toNat (.inl nonce) with
      | some entry => .error (seen (.inl nonce) entry)
      | none => .ok () := checkSeen_eq now s.nonces nonce _

theorem checkDigest_eq (now : UInt64) (s : ReplayStore) (digest : TranscriptDigest) :
    s.checkDigest now digest =
      match s.live now.toNat (.inr digest) with
      | some entry => .error (seen (.inr digest) entry)
      | none => .ok () := checkSeen_eq now s.digests digest _

/-- The check of a value of either kind. -/
def check (now : UInt64) (s : ReplayStore) : ReplayValue → Except FreshnessError Unit
  | .inl nonce => s.checkNonce now nonce
  | .inr digest => s.checkDigest now digest

theorem check_eq (now : UInt64) (s : ReplayStore) (value : ReplayValue) :
    s.check now value =
      match s.live now.toNat value with
      | some entry => .error (seen value entry)
      | none => .ok () := by
  cases value with
  | inl nonce => exact checkNonce_eq now s nonce
  | inr digest => exact checkDigest_eq now s digest

theorem check_eq_ok_iff {now : UInt64} {s : ReplayStore} {value : ReplayValue} :
    s.check now value = .ok () ↔ s.live now.toNat value = none := by
  rw [check_eq]
  cases s.live now.toNat value <;> simp

theorem check_replayed_iff {now : UInt64} {s : ReplayStore} {value : ReplayValue} :
    (∃ what, s.check now value = .error (.replayDetected what)) ↔
      s.check now value ≠ .ok () := by
  rw [ne_eq, check_eq_ok_iff, check_eq]
  cases s.live now.toNat value with
  | none => simp
  | some entry =>
    obtain ⟨what, hwhat⟩ := exists_seen value entry
    simp [hwhat]

/-! ## Recording a value -/

/-- The store with an entry for a value of either kind. -/
def insertValue (s : ReplayStore) (value : ReplayValue) (entry : StoreEntry) : ReplayStore :=
  match value with
  | .inl nonce => { s with nonces := s.nonces.insert nonce entry }
  | .inr digest => { s with digests := s.digests.insert digest entry }

@[simp] theorem insertValue_defaultTtl (s : ReplayStore) (value : ReplayValue)
    (entry : StoreEntry) : (s.insertValue value entry).defaultTtl = s.defaultTtl := by
  cases value <;> rfl

theorem live_insertValue_self (s : ReplayStore) (value : ReplayValue) (entry : StoreEntry)
    (t : ℕ) :
    (s.insertValue value entry).live t value = if t < expires entry then some entry else none := by
  cases value with
  | inl nonce => exact Expiring.live_insert_self
  | inr digest => exact Expiring.live_insert_self

theorem live_insertValue_of_ne {value value' : ReplayValue} (h : value' ≠ value)
    (s : ReplayStore) (entry : StoreEntry) (t : ℕ) :
    (s.insertValue value entry).live t value' = s.live t value' := by
  cases value with
  | inl nonce =>
    cases value' with
    | inl nonce' => exact Expiring.live_insert_of_ne (fun he => h (congrArg _ he))
    | inr digest' => rfl
  | inr digest =>
    cases value' with
    | inl nonce' => rfl
    | inr digest' => exact Expiring.live_insert_of_ne (fun he => h (congrArg _ he))

section Calls
variable {s : ReplayStore} {op : ReplayOp} {checkedAt cleanedAt now : UInt64}

/-- Recording what is not live: a cleanup, and then an entry. -/
theorem CallCases.recorded (value : ReplayValue) (hop : op.asks? = some (value, checkedAt))
    (hrecords : op.records? = some (value, now))
    (hticks : ∀ t t', op.Ticks t t' → cleanedAt ≤ t' ∧ t' = now)
    (hlive : s.live checkedAt.toNat value = none) :
    CallCases s op (.ok ())
      ((s.maybeCleanup cleanedAt).insertValue value (s.entryAt now op.sessionId?)) := by
  refine .records value checkedAt cleanedAt now hop hrecords hticks hlive rfl ?_ ?_ ?_
  · exact live_insertValue_self _ value _
  · intro t value' ht hne
    rw [live_insertValue_of_ne hne, live_maybeCleanup ht]
  · rw [insertValue_defaultTtl, maybeCleanup_defaultTtl]

/-- A check alone leaves the store as it is, whatever it finds. -/
theorem CallCases.checked (value : ReplayValue) (hop : op.asks? = some (value, now))
    (hrecords : op.records? = none) : CallCases s op (s.check now value) s := by
  cases hlive : s.live now.toNat value with
  | none => exact .checks value now hop hrecords hlive (check_eq_ok_iff.mpr hlive) rfl
  | some entry => exact .refuses value now entry hop hlive (by rw [check_eq, hlive]) rfl

end Calls

theorem machine_callCases (s : ReplayStore) (op : ReplayOp) :
    CallCases s op (machine s op).output (machine s op).next := by
  cases op with
  | checkNonce now nonce => exact .checked (.inl nonce) rfl rfl
  | checkDigest now digest => exact .checked (.inr digest) rfl rfl
  | recordNonce checkedAt cleanedAt now nonce sessionId =>
    cases hlive : s.live checkedAt.toNat (.inl nonce) with
    | some entry =>
      have hcheck : s.checkNonce checkedAt nonce = .error (seen (.inl nonce) entry) := by
        rw [checkNonce_eq, hlive]
      exact .refuses (.inl nonce) checkedAt entry rfl hlive (by simp [machine, recordNonce, hcheck])
        (by simp [machine, recordNonce, hcheck])
    | none =>
      have hcheck : s.checkNonce checkedAt nonce = .ok () := by rw [checkNonce_eq, hlive]
      have hmachine : machine s (.recordNonce checkedAt cleanedAt now nonce sessionId) =
          ⟨.ok (), (s.maybeCleanup cleanedAt).insertValue (.inl nonce)
            (s.entryAt now sessionId)⟩ := by
        simp [machine, recordNonce, hcheck, entryAt, insertValue]
      rw [hmachine]
      refine .recorded (.inl nonce) rfl rfl ?_ hlive
      rintro t t' ⟨-, -, hle, rfl⟩
      exact ⟨hle, rfl⟩
  | recordDigest checkedAt cleanedAt now digest sessionId =>
    cases hlive : s.live checkedAt.toNat (.inr digest) with
    | some entry =>
      have hcheck : s.checkDigest checkedAt digest = .error (seen (.inr digest) entry) := by
        rw [checkDigest_eq, hlive]
      exact .refuses (.inr digest) checkedAt entry rfl hlive
        (by simp [machine, recordDigest, hcheck]) (by simp [machine, recordDigest, hcheck])
    | none =>
      have hcheck : s.checkDigest checkedAt digest = .ok () := by rw [checkDigest_eq, hlive]
      have hmachine : machine s (.recordDigest checkedAt cleanedAt now digest sessionId) =
          ⟨.ok (), (s.maybeCleanup cleanedAt).insertValue (.inr digest)
            (s.entryAt now sessionId)⟩ := by
        simp [machine, recordDigest, hcheck, entryAt, insertValue]
      rw [hmachine]
      refine .recorded (.inr digest) rfl rfl ?_ hlive
      rintro t t' ⟨-, -, hle, rfl⟩
      exact ⟨hle, rfl⟩
  | cleanupExpired now =>
    exact .cleans now rfl rfl (fun t t' h => h.2) rfl
      (fun t value ht => live_cleanupExpired ht s value)
      rfl

end ReplayStore

end BlindOverlap
