import BlindOverlap.PeerHistory
import BlindOverlap.ReplayPersistence

/-!
# Reading a file again

A peer book and a replay store read their file when they are opened, into empty tables, and
when they are reloaded, into the tables they have. Reloading skips a file that is missing;
the book also skips a blank one. The store is emptied before its file is parsed, so a file
that cannot be parsed costs it all it held.
-/
namespace BlindOverlap

/-! ## Reloading against opening -/

namespace TrustedPeerBook
variable {K : Crates}

@[simp] theorem save_peers (order : PeerOrder) (b : TrustedPeerBook) :
    (b.save K order).peers = b.peers := by
  unfold TrustedPeerBook.save
  split_ifs <;> rfl

/-- A reloaded book holds what a book opened at its path does, unless the file is missing or
blank and the book is not empty. -/
theorem reload_agrees_iff (b : TrustedPeerBook) :
    (∀ reloaded, b.reload K = .ok reloaded →
      ∃ fresh, openAt K b.path b.file = .ok fresh ∧
        ∀ k : Bytes 32, reloaded.peers[k]? = fresh.peers[k]?) ↔
      (∃ contents ∈ b.file, Text.trimsToEmpty contents = false) ∨
        ∀ k : Bytes 32, b.peers[k]? = none := by
  unfold TrustedPeerBook.reload openAt
  cases b.file with
  | none => simp
  | some contents =>
    cases hblank : Text.trimsToEmpty contents with
    | true => simp [load, hblank]
    | false =>
      simp only [load, hblank]
      cases K.fromStr (StoredPeerBook.deserialize K) contents <;> simp [hblank]

end TrustedPeerBook

namespace PersistentReplayStore
variable {K : Crates}

/-- A reloaded store holds what a store opened on its file does, unless the file is missing
and the store is not empty. -/
theorem reload_agrees_iff (now ttl : UInt64) (s : PersistentReplayStore) :
    ((s.reload K now).output = .ok () →
      ∃ fresh, openWithTtl K now s.file ttl = .ok fresh ∧
        (∀ nonce : SessionNonce,
          (s.reload K now).next.inner.nonces[nonce]? = fresh.inner.nonces[nonce]?) ∧
        ∀ digest : TranscriptDigest,
          (s.reload K now).next.inner.digests[digest]? = fresh.inner.digests[digest]?) ↔
      s.file.isSome = true ∨ (∀ nonce : SessionNonce, s.inner.nonces[nonce]? = none) ∧
        ∀ digest : TranscriptDigest, s.inner.digests[digest]? = none := by
  unfold reload openWithTtl
  cases s.file with
  | none => simp [ReplayStore.withTtl, ReplayStore.withLimits]
  | some contents =>
    cases hblank : Text.trimsToEmpty contents with
    | true => simp [hblank, ReplayStore.withTtl, ReplayStore.withLimits]
    | false =>
      cases hread : K.fromStr PersistentStoreData.fromJson contents with
      | error e => simp [hblank, hread]
      | ok data =>
        simp [hblank, hread, ReplayStore.load, ReplayStore.cleanupExpired, ReplayStore.withTtl,
          ReplayStore.withLimits]

end PersistentReplayStore

/-- Reloading agrees with opening exactly if a file is there to be read, and not blank in the
case of a book, or there is nothing to forget. -/
theorem reloading_agrees_iff (K : Crates) (b : TrustedPeerBook) (s : PersistentReplayStore)
    (now ttl : UInt64) :
    ((∀ reloaded, b.reload K = .ok reloaded →
      ∃ fresh, TrustedPeerBook.openAt K b.path b.file = .ok fresh ∧
        ∀ k : Bytes 32, reloaded.peers[k]? = fresh.peers[k]?) ↔
      (∃ contents ∈ b.file, Text.trimsToEmpty contents = false) ∨
        ∀ k : Bytes 32, b.peers[k]? = none) ∧
    (((s.reload K now).output = .ok () →
      ∃ fresh, PersistentReplayStore.openWithTtl K now s.file ttl = .ok fresh ∧
        (∀ nonce : SessionNonce,
          (s.reload K now).next.inner.nonces[nonce]? = fresh.inner.nonces[nonce]?) ∧
        ∀ digest : TranscriptDigest,
          (s.reload K now).next.inner.digests[digest]? = fresh.inner.digests[digest]?) ↔
      s.file.isSome = true ∨ (∀ nonce : SessionNonce, s.inner.nonces[nonce]? = none) ∧
        ∀ digest : TranscriptDigest, s.inner.digests[digest]? = none) :=
  ⟨b.reload_agrees_iff, s.reload_agrees_iff now ttl⟩

/-- A book that has one peer, and whose file has then been emptied. -/
def emptiedBook : TrustedPeerBook :=
  { ((TrustedPeerBook.mk "peers.json" none ∅).add .reference storedPeerOrder 1000 samplePeer.1
      none).next with file := some "\n" }

/-- A store that has one nonce, and whose file has then been deleted. -/
def orphanedStore : PersistentReplayStore :=
  ⟨((ReplayStore.withTtl 3600).recordNonce 1000 1000 1000 ⟨filled 1⟩ none).next, none⟩

theorem orphanedStore_seen :
    ∃ what, orphanedStore.checkNonce 1100 ⟨filled 1⟩ = .error (.replayDetected what) := by
  simp [orphanedStore, PersistentReplayStore.checkNonce, ReplayStore.recordNonce,
    ReplayStore.checkNonce, ReplayStore.checkSeen, ReplayStore.maybeCleanup, ReplayStore.withTtl,
    ReplayStore.withLimits, ReplayStore.entryAt]

/-- The peer stays trusted and the nonce seen, where a restart forgets both. -/
theorem reloading_disagrees :
    (emptiedBook.reload .reference = .ok emptiedBook ∧
      emptiedBook.isTrusted samplePeer.1 = true ∧
      ∃ fresh, TrustedPeerBook.openAt .reference emptiedBook.path emptiedBook.file = .ok fresh ∧
        fresh.isTrusted samplePeer.1 = false) ∧
    ((orphanedStore.reload .reference 1100).output = .ok () ∧
      (∃ what, (orphanedStore.reload .reference 1100).next.checkNonce 1100 ⟨filled 1⟩ =
        .error (.replayDetected what)) ∧
      ∃ fresh, PersistentReplayStore.openWithTtl .reference 1100 orphanedStore.file 3600 =
          .ok fresh ∧
        fresh.checkNonce 1100 ⟨filled 1⟩ = .ok ()) := by
  have hadded : emptiedBook.lookup samplePeer.1 = some ⟨samplePeer.1, none, 1000⟩ := by
    obtain ⟨⟨peer, hpeer⟩, -⟩ | ⟨-, he⟩ := TrustedPeerBook.add_cases .reference storedPeerOrder
      1000 samplePeer.1 none ⟨"peers.json", none, ∅⟩
    · simp [TrustedPeerBook.lookup] at hpeer
    · simp [emptiedBook, he, TrustedPeerBook.lookup]
  refine ⟨⟨rfl, ?_, _, rfl, ?_⟩, rfl, ?_, _, rfl, ?_⟩
  · rw [TrustedPeerBook.isTrusted_eq, hadded]
    rfl
  · simp [TrustedPeerBook.isTrusted]
  · exact orphanedStore_seen
  · simp [PersistentReplayStore.checkNonce, ReplayStore.checkNonce, ReplayStore.checkSeen,
      ReplayStore.withTtl, ReplayStore.withLimits]

/-! ## Reloads that fail -/

/-- What comes of reading the file: it is missing, cannot be read, or has a text. -/
inductive FileRead where
  | missing
  | failed (error : String)
  | contents (text : String)

inductive ReloadError where
  | io (error : String)
  | store (e : ReplayStoreError)

namespace PersistentReplayStore
variable {K : Crates}

/-- The file is read before anything is touched. -/
def reloadFrom (K : Crates) (now : UInt64) (read : FileRead) (s : PersistentReplayStore) :
    Step PersistentReplayStore (Except ReloadError Unit) :=
  match read with
  | .missing => ⟨.ok (), s⟩
  | .failed error => ⟨.error (.io error), s⟩
  | .contents text =>
    let step := { s with file := some text }.reload K now
    ⟨step.output.mapError .store, step.next⟩

end PersistentReplayStore

/-! ## What is live, counted -/

/-- The live entries of a store. -/
def ReplayStore.liveCount (t : ℕ) (s : ReplayStore) : ℕ :=
  (Expiring.liveKeys expires t s.nonces).length + (Expiring.liveKeys expires t s.digests).length

/-- The live entries of a file. -/
def PersistentStoreData.liveCount (t : ℕ) (d : PersistentStoreData) : ℕ :=
  d.nonces.countP (fun e => decide (t < ReplayStore.expires e.2)) +
    d.digests.countP (fun e => decide (t < ReplayStore.expires e.2))

namespace ReplayStore

theorem liveCount_data (order : IterationOrder) (t : ℕ) (s : ReplayStore) :
    (s.data order).liveCount t = s.liveCount t := by
  simp only [PersistentStoreData.liveCount, data, liveCount, Expiring.liveKeys, List.countP_map,
    List.length_map, ← List.countP_eq_length_filter]
  congr 1
  · exact (order.nonces_perm _).countP_eq _
  · exact (order.digests_perm _).countP_eq _

/-- A store that has everything live in another has no fewer live entries. -/
theorem liveCount_le {t : ℕ} {s s' : ReplayStore}
    (h : ∀ value, (s.live t value).isSome = true → (s'.live t value).isSome = true) :
    s.liveCount t ≤ s'.liveCount t :=
  Nat.add_le_add (Expiring.length_liveKeys_le (fun nonce => h (.inl nonce)))
    (Expiring.length_liveKeys_le (fun digest => h (.inr digest)))

theorem live_cleared (s : ReplayStore) (t : ℕ) (value : ReplayValue) :
    live t { s with nonces := ∅, digests := ∅ } value = none := by
  cases value <;> exact Expiring.live_empty

/-- Nothing comes to life with time. -/
theorem live_later {t t' : ℕ} (ht : t ≤ t') {s : ReplayStore} {value : ReplayValue}
    (h : s.live t value = none) : s.live t' value = none := by
  cases value with
  | inl nonce =>
    rw [live, Expiring.live_later ht, show Expiring.live expires t s.nonces nonce = none from h]
    rfl
  | inr digest =>
    rw [live, Expiring.live_later ht, show Expiring.live expires t s.digests digest = none from h]
    rfl

/-- A call takes nothing away that is live afterwards. -/
theorem live_next_isSome (s : ReplayStore) {op : ReplayOp} {t t' : UInt64} (hop : op.Ticks t t')
    {t'' : ℕ} (ht : t'.toNat ≤ t'') (value : ReplayValue)
    (h : (s.live t'' value).isSome = true) :
    ((machine s op).next.live t'' value).isSome = true := by
  rw [live_next s hop ht]
  split
  · next value' checkedAt value'' now hasks hrecords =>
    split_ifs with hnew hfits
    · rfl
    · have hchecked : checkedAt.toNat ≤ t'' := by
        have hle := UInt64.le_iff_toNat_le.mp (ReplayOp.asks_startsAt hasks ▸ hop.le.2)
        exact hle.trans ht
      rw [hnew.2, live_later hchecked hnew.1] at h
      cases h
    · exact h
  · exact h

end ReplayStore

theorem ReplayOp.Ticks.eq_of_records {op : ReplayOp} {t t' now : UInt64} (h : op.Ticks t t')
    {value : ReplayValue} (hop : op.records? = some (value, now)) : t' = now := by
  cases op with
  | recordNonce checkedAt cleanedAt now' nonce sessionId =>
    cases hop
    exact h.2.2.2
  | recordDigest checkedAt cleanedAt now' digest sessionId =>
    cases hop
    exact h.2.2.2
  | _ => cases hop

namespace PersistentReplayStore
variable {K : Crates}

/-- The calls on a store that stays open, each writing the tables in some order. -/
def calls (K : Crates) :
    Machine PersistentReplayStore (ReplayOp × IterationOrder) (Except FreshnessError Unit) :=
  fun s c => s.call K c.2 c.1

@[simp] theorem call_inner (order : IterationOrder) (s : PersistentReplayStore) (op : ReplayOp) :
    (s.call K order op).next.inner = (ReplayStore.machine s.inner op).next := by
  obtain ⟨-, ⟨hcall, hsame⟩ | hcall⟩ := Mirrors.call_cases (K := K) order s op
  · rw [hcall, hsame]
  · rw [hcall]
    rfl

/-- A record that succeeds writes the tables. -/
theorem call_file {order : IterationOrder} {s : PersistentReplayStore} {op : ReplayOp}
    (hrecords : op.records?.isSome = true) (hok : (s.call K order op).output = .ok ()) :
    (s.call K order op).next.file = some (K.jsonToStringPretty
      ((ReplayStore.machine s.inner op).next.data order).toJson) := by
  have hflush : ∀ step : Step ReplayStore (Except FreshnessError Unit),
      (s.flushIfOk K order step).output = .ok () →
      (s.flushIfOk K order step).next.file =
        some (K.jsonToStringPretty (step.next.data order).toJson) := by
    intro step h
    unfold flushIfOk at h ⊢
    split at h
    · cases h
    · rfl
  cases op with
  | recordNonce checkedAt cleanedAt now nonce sessionId => exact hflush _ hok
  | recordDigest checkedAt cleanedAt now digest sessionId => exact hflush _ hok
  | checkNonce now nonce => cases hrecords
  | checkDigest now digest => cases hrecords
  | cleanupExpired now => cases hrecords

/-- Checks answer as before, and whatever calls follow, a record that succeeds writes as many
live entries as there were before. -/
structure KeepsProtection (K : Crates) (now : UInt64) (s s' : PersistentReplayStore) : Prop where
  nonces : ∀ t, now ≤ t → ∀ nonce, s'.checkNonce t nonce = s.checkNonce t nonce
  digests : ∀ t, now ≤ t → ∀ digest, s'.checkDigest t digest = s.checkDigest t digest
  records : ∀ (before : List (ReplayOp × IterationOrder)) (op : ReplayOp) (order : IterationOrder)
    (value : ReplayValue) (t : UInt64),
    Machine.Paced (fun t c t' => c.1.Ticks t t') now (before ++ [(op, order)]) →
    op.records? = some (value, t) →
    (((calls K).final s' before).call K order op).output = .ok () →
    ∃ data, (((calls K).final s' before).call K order op).next.file =
        some (K.jsonToStringPretty (PersistentStoreData.toJson data)) ∧
      s.inner.liveCount t.toNat ≤ data.liveCount t.toNat

/-- From a time on, what is live in the one store is live in the other. -/
def Covers (s : PersistentReplayStore) (t : UInt64) (s' : PersistentReplayStore) : Prop :=
  ∀ (t' : ℕ) value, t.toNat ≤ t' → (s.inner.live t' value).isSome = true →
    (s'.inner.live t' value).isSome = true

theorem Covers.call {s s' : PersistentReplayStore} {t t' : UInt64} (h : Covers s t s')
    {op : ReplayOp} (hop : op.Ticks t t') (order : IterationOrder) :
    Covers s t' (s'.call K order op).next := by
  intro t'' value ht hlive
  have hle : t.toNat ≤ t'.toNat :=
    UInt64.le_iff_toNat_le.mp (UInt64.le_trans hop.le.1 hop.le.2)
  rw [call_inner]
  exact s'.inner.live_next_isSome hop ht value (h t'' value (hle.trans ht) hlive)

/-- What matters is what is live from the call on. -/
theorem keepsProtection_of_live {now : UInt64} {s s' : PersistentReplayStore}
    (h : ∀ (t : ℕ) value, now.toNat ≤ t → s'.inner.live t value = s.inner.live t value) :
    KeepsProtection K now s s' := by
  constructor
  · intro t ht nonce
    rw [checkNonce, checkNonce, ReplayStore.checkNonce_eq, ReplayStore.checkNonce_eq,
      h _ _ (UInt64.le_iff_toNat_le.mp ht)]
  · intro t ht digest
    rw [checkDigest, checkDigest, ReplayStore.checkDigest_eq, ReplayStore.checkDigest_eq,
      h _ _ (UInt64.le_iff_toNat_le.mp ht)]
  · intro before op order value t hp hrecords hok
    have hstart : Covers s now s' := fun t' value ht hlive => (h t' value ht).symm ▸ hlive
    obtain ⟨t₁, hlast, hcovers⟩ := Machine.Paced.final_invariant (calls K)
      (fun _ c _ _ htick hm => hm.call htick c.2) hp hstart
    cases hlast with
    | @cons _ t₂ _ _ htick _ =>
      obtain rfl := htick.eq_of_records hrecords
      refine ⟨_, call_file (by rw [hrecords]; rfl) hok, ?_⟩
      rw [ReplayStore.liveCount_data, ← call_inner (K := K) order]
      exact ReplayStore.liveCount_le fun value' hlive => hcovers.call htick order _ _ le_rfl hlive

/-- The text is parsed after the tables have been emptied. -/
theorem reloadFrom_malformed {now : UInt64} {text : String} {s : PersistentReplayStore}
    {e : JsonError} (hblank : Text.trimsToEmpty text = false)
    (hparse : K.fromStr PersistentStoreData.fromJson text = .error e) :
    s.reloadFrom K now (.contents text) =
      ⟨.error (.store (.json e)), ⟨{ s.inner with nonces := ∅, digests := ∅ }, some text⟩⟩ := by
  simp [reloadFrom, reload, hblank, hparse]

/-- A reload fails before it touches the store, or on a text that cannot be parsed. -/
theorem reloadFrom_error {now : UInt64} {read : FileRead} {s : PersistentReplayStore}
    {e : ReloadError} (h : (s.reloadFrom K now read).output = .error e) :
    (s.reloadFrom K now read).next = s ∨
      ∃ text e, read = .contents text ∧ Text.trimsToEmpty text = false ∧
        K.fromStr PersistentStoreData.fromJson text = .error e := by
  cases read with
  | missing => cases h
  | failed error => exact .inl rfl
  | contents text =>
    simp only [reloadFrom, reload] at h
    cases hblank : Text.trimsToEmpty text with
    | true => simp [hblank] at h
    | false =>
      cases hparse : K.fromStr PersistentStoreData.fromJson text with
      | ok data => simp [hblank, hparse] at h
      | error e' => exact .inr ⟨text, e', rfl, hblank, hparse⟩

/-- A reload that fails keeps the protection, unless the file has a text that cannot be parsed
and there was something to protect. -/
theorem failed_reload_keeps_iff (K : Crates) (now : UInt64) (read : FileRead)
    (s : PersistentReplayStore) :
    (∀ e, (s.reloadFrom K now read).output = .error e →
      KeepsProtection K now s (s.reloadFrom K now read).next) ↔
      (∀ text, read = .contents text → Text.trimsToEmpty text = false →
        ∃ data, K.fromStr PersistentStoreData.fromJson text = .ok data) ∨
      ∀ value, s.inner.live now.toNat value = none := by
  constructor
  · intro hkeeps
    refine or_iff_not_imp_left.mpr fun hread value => ?_
    push Not at hread
    obtain ⟨text, rfl, hblank, hbad⟩ := hread
    cases hparse : K.fromStr PersistentStoreData.fromJson text with
    | ok data => exact absurd hparse (hbad data)
    | error e =>
      rw [reloadFrom_malformed hblank hparse] at hkeeps
      have hkept := hkeeps _ rfl
      have hsame : s.inner.check now value =
          ReplayStore.check now { s.inner with nonces := ∅, digests := ∅ } value := by
        cases value with
        | inl nonce => exact (hkept.nonces now (UInt64.le_refl _) nonce).symm
        | inr digest => exact (hkept.digests now (UInt64.le_refl _) digest).symm
      rw [← ReplayStore.check_eq_ok_iff, hsame, ReplayStore.check_eq_ok_iff,
        ReplayStore.live_cleared]
  · rintro hcond e he
    refine keepsProtection_of_live fun t value ht => ?_
    rcases reloadFrom_error he with hsame | ⟨text, e, rfl, hblank, hparse⟩
    · rw [hsame]
    · rcases hcond with hread | hlive
      · obtain ⟨data, hdata⟩ := hread text rfl hblank
        cases hdata.symm.trans hparse
      · rw [reloadFrom_malformed hblank hparse, ReplayStore.live_cleared,
          ReplayStore.live_later ht (hlive value)]

/-- With its file garbled the store forgets the nonce it had seen. -/
theorem failed_reload_forgets :
    ∃ e s', orphanedStore.reloadFrom .reference 1100 (.contents "garbled") = ⟨.error e, s'⟩ ∧
      (∃ what, orphanedStore.checkNonce 1100 ⟨filled 1⟩ = .error (.replayDetected what)) ∧
      s'.checkNonce 1100 ⟨filled 1⟩ = .ok () := by
  have hparse : Crates.reference.fromStr PersistentStoreData.fromJson "garbled" =
      .error .malformed := rfl
  refine ⟨_, _, reloadFrom_malformed (by decide) hparse, ?_, ?_⟩
  · exact orphanedStore_seen
  · simp [checkNonce, ReplayStore.checkNonce, ReplayStore.checkSeen]

end PersistentReplayStore

end BlindOverlap
