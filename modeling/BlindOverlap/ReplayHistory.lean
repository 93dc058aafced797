import BlindOverlap.Replay

/-!
# What the replay store remembers

A value is reported as replayed exactly while a successful record of it has not
expired, whatever else the store was asked and however full it was.
-/
namespace BlindOverlap

namespace ReplayStore

abbrev ReplayEvent := Event ReplayStore ReplayOp (Except FreshnessError Unit)

/-- A value was recorded at a time, in a run. -/
def Recorded (run : List ReplayEvent) (value : ReplayValue) (recordedAt : UInt64) : Prop :=
  ∃ e ∈ run, e.input.records? = some (value, recordedAt) ∧ e.output = .ok ()

/-- The clock of a run: it does not run backwards, and expiries do not overflow. -/
def Tick (ttl : UInt64) (t : UInt64) (op : ReplayOp) (t' : UInt64) : Prop :=
  op.Ticks t t' ∧ t'.toNat + ttl.toNat < UInt64.size

theorem recorded_concat {run : List ReplayEvent} {e : ReplayEvent} {value : ReplayValue}
    {recordedAt : UInt64} : Recorded (run ++ [e]) value recordedAt ↔
      Recorded run value recordedAt ∨
        e.input.records? = some (value, recordedAt) ∧ e.output = .ok () := by
  simp [Recorded, or_and_right, exists_or]

/-- The live entries of a store are those of the unexpired records of its past. -/
structure Reflects (ttl : UInt64) (run : List ReplayEvent) (t : UInt64) (s : ReplayStore) :
    Prop where
  defaultTtl : s.defaultTtl = ttl
  past : ∀ value recordedAt, Recorded run value recordedAt → recordedAt ≤ t
  live_of_recorded : ∀ value recordedAt, Recorded run value recordedAt → ∀ t' : ℕ, t.toNat ≤ t' →
    t' < recordedAt.toNat + ttl.toNat →
    ∃ entry, s.live t' value = some entry ∧ entry.recordedAt = recordedAt
  recorded_of_live : ∀ value (t' : ℕ) entry, t.toNat ≤ t' → s.live t' value = some entry →
    Recorded run value entry.recordedAt ∧ t' < entry.recordedAt.toNat + ttl.toNat

theorem reflects_start (ttl : UInt64) (maxEntries : ℕ) (t : UInt64) :
    Reflects ttl [] t (withLimits ttl maxEntries) := by
  have hnever : ∀ value recordedAt, ¬ Recorded [] value recordedAt := by simp [Recorded]
  constructor
  · rfl
  · exact fun value recordedAt h => absurd h (hnever value recordedAt)
  · exact fun value recordedAt h => absurd h (hnever value recordedAt)
  · intro value t' entry _ h
    rw [live_withLimits] at h
    cases h

/-- A call that records nothing leaves what is live. -/
theorem Reflects.of_same_live {ttl : UInt64} {run : List ReplayEvent} {t t' : UInt64}
    {s next : ReplayStore} {e : ReplayEvent} (h : Reflects ttl run t s) (ht : t ≤ t')
    (hrecords : e.input.records? = none ∨ e.output ≠ .ok ())
    (hlive : ∀ t'' value, t'.toNat ≤ t'' → next.live t'' value = s.live t'' value)
    (httl : next.defaultTtl = s.defaultTtl) : Reflects ttl (run ++ [e]) t' next := by
  have hsame : ∀ value recordedAt, Recorded (run ++ [e]) value recordedAt ↔
      Recorded run value recordedAt := by
    intro value recordedAt
    rw [recorded_concat]
    refine or_iff_left ?_
    rintro ⟨hr, ho⟩
    rcases hrecords with hnone | hne
    · simp [hnone] at hr
    · exact hne ho
  have hle : t.toNat ≤ t'.toNat := UInt64.le_iff_toNat_le.mp ht
  constructor
  · rw [httl, h.defaultTtl]
  · intro value recordedAt hr
    exact UInt64.le_trans (h.past value recordedAt ((hsame value recordedAt).mp hr)) ht
  · intro value recordedAt hr t'' ht'' hexp
    rw [hlive t'' value ht'']
    exact h.live_of_recorded value recordedAt ((hsame value recordedAt).mp hr) t''
      (hle.trans ht'') hexp
  · intro value t'' entry ht'' hentry
    rw [hlive t'' value ht''] at hentry
    rw [hsame]
    exact h.recorded_of_live value t'' entry (hle.trans ht'') hentry

/-- A call that records a value which was not live makes it live until it expires. -/
theorem Reflects.of_recorded {ttl : UInt64} {run : List ReplayEvent} {t checkedAt now : UInt64}
    {s next : ReplayStore} {e : ReplayEvent} {value : ReplayValue} {entry : StoreEntry}
    (h : Reflects ttl run t s) (hstart : t ≤ checkedAt) (hend : checkedAt ≤ now)
    (hrecords : e.input.records? = some (value, now)) (houtput : e.output = .ok ())
    (hnew : s.live checkedAt.toNat value = none) (hrecorded : entry.recordedAt = now)
    (hexpires : expires entry = now.toNat + ttl.toNat)
    (hvalue : ∀ t' : ℕ, next.live t' value = if t' < expires entry then some entry else none)
    (hothers : ∀ t' value', now.toNat ≤ t' → value' ≠ value →
      next.live t' value' = s.live t' value')
    (httl : next.defaultTtl = s.defaultTtl) : Reflects ttl (run ++ [e]) now next := by
  have hfrom : t.toNat ≤ checkedAt.toNat := UInt64.le_iff_toNat_le.mp hstart
  have hto : checkedAt.toNat ≤ now.toNat := UInt64.le_iff_toNat_le.mp hend
  have hrec : ∀ value' recordedAt, Recorded (run ++ [e]) value' recordedAt ↔
      Recorded run value' recordedAt ∨ value' = value ∧ recordedAt = now := by
    intro value' recordedAt
    rw [recorded_concat, hrecords, houtput]
    simp [eq_comm]
  constructor
  · rw [httl, h.defaultTtl]
  · intro value' recordedAt hr
    rcases (hrec value' recordedAt).mp hr with hr | ⟨-, rfl⟩
    · exact UInt64.le_trans (h.past value' recordedAt hr) (UInt64.le_trans hstart hend)
    · exact UInt64.le_refl _
  · intro value' recordedAt hr t' ht' hexp
    rcases eq_or_ne value' value with rfl | hne
    · rcases (hrec value' recordedAt).mp hr with hr | ⟨-, rfl⟩
      · -- An older record would have been live when the value was checked.
        obtain ⟨entry', hentry', -⟩ := h.live_of_recorded value' recordedAt hr checkedAt.toNat hfrom
          (by omega)
        cases hnew.symm.trans hentry'
      · rw [hvalue, if_pos (hexpires ▸ hexp)]
        exact ⟨entry, rfl, hrecorded⟩
    · rcases (hrec value' recordedAt).mp hr with hr | ⟨he, -⟩
      · rw [hothers t' value' ht' hne]
        exact h.live_of_recorded value' recordedAt hr t' (by omega) hexp
      · exact absurd he hne
  · intro value' t' entry' ht' hentry'
    rcases eq_or_ne value' value with rfl | hne
    · rw [hvalue] at hentry'
      split_ifs at hentry' with hexp
      cases hentry'
      rw [hrecorded, hrec, ← hexpires]
      exact ⟨.inr ⟨rfl, rfl⟩, hexp⟩
    · rw [hothers t' value' ht' hne] at hentry'
      obtain ⟨hr, hexp⟩ := h.recorded_of_live value' t' entry' (by omega) hentry'
      exact ⟨(hrec value' _).mpr (.inl hr), hexp⟩

/-- The step: whatever the call, the store keeps to its past. -/
theorem Reflects.step {ttl : UInt64} {run : List ReplayEvent} {t t' : UInt64} {s : ReplayStore}
    {op : ReplayOp} (h : Reflects ttl run t s) (htick : Tick ttl t op t') :
    Reflects ttl (run ++ [machine.fire s op]) t' (machine s op).next := by
  obtain ⟨hstart, hend⟩ := ReplayOp.Ticks.le htick.1
  have ht : t ≤ t' := UInt64.le_trans hstart hend
  cases machine_callCases s op with
  | refuses value now entry hop hlive houtput hnext =>
    refine h.of_same_live ht (.inr ?_) (by simp [hnext]) (by rw [hnext])
    change (machine s op).output ≠ .ok ()
    simp [houtput]
  | checks value now hop hrecords hlive houtput hnext =>
    exact h.of_same_live ht (.inl hrecords) (by simp [hnext]) (by rw [hnext])
  | cleans now hop hrecords hticks houtput hlive httl =>
    refine h.of_same_live ht (.inl hrecords) ?_ httl
    intro t'' value ht''
    exact hlive t'' value (hticks t t' htick.1 ▸ ht'')
  | records value checkedAt cleanedAt now hop hrecords hticks hlive houtput hvalue hothers httl =>
    obtain ⟨hcleaned, rfl⟩ := hticks t t' htick.1
    have hcleaned : cleanedAt.toNat ≤ t'.toNat := UInt64.le_iff_toNat_le.mp hcleaned
    have hexpires : expires (s.entryAt t' op.sessionId?) = t'.toNat + ttl.toNat := by
      have hlt := htick.2
      rw [expires, entryAt, h.defaultTtl, UInt64.toNat_add, Nat.mod_eq_of_lt hlt]
    rw [ReplayOp.asks_startsAt hop] at hstart hend
    exact h.of_recorded hstart hend hrecords houtput hlive rfl hexpires hvalue
      (fun t'' value' ht'' => hothers t'' value' (hcleaned.trans ht'')) httl

/-- The run: at every call, the store reflects the calls before it. -/
theorem Reflects.run {ttl : UInt64} {before after : List ReplayOp} {op : ReplayOp} {t : UInt64}
    {past : List ReplayEvent} {s : ReplayStore} (h : Reflects ttl past t s)
    (hp : Machine.Paced (Tick ttl) t (before ++ op :: after)) :
    ∃ t₁ t₂, Reflects ttl (past ++ machine.trace s before) t₁ (machine.final s before) ∧
      Tick ttl t₁ op t₂ := by
  induction before generalizing t past s with
  | nil =>
    cases hp with
    | cons htick _ =>
      rw [Machine.trace_nil, List.append_nil]
      exact ⟨t, _, h, htick⟩
  | cons op' before ih =>
    cases hp with
    | cons htick hp =>
      have hrest := ih (h.step htick) hp
      rw [List.append_assoc] at hrest
      exact hrest

theorem Reflects.detects {ttl : UInt64} {past : List ReplayEvent} {t t' : UInt64}
    {s : ReplayStore} {op : ReplayOp} (h : Reflects ttl past t s) (htick : Tick ttl t op t')
    {value : ReplayValue} {now : UInt64} (hop : op.asks? = some (value, now)) :
    (∃ what, (machine s op).output = .error (.replayDetected what)) ↔
      ∃ recordedAt, Recorded past value recordedAt ∧ now.toNat < recordedAt.toNat + ttl.toNat := by
  have hfrom : t.toNat ≤ now.toNat := UInt64.le_iff_toNat_le.mp
    (ReplayOp.asks_startsAt hop ▸ htick.1.le.1)
  have hlive : (∃ entry, s.live now.toNat value = some entry) ↔
      ∃ recordedAt, Recorded past value recordedAt ∧ now.toNat < recordedAt.toNat + ttl.toNat := by
    constructor
    · rintro ⟨entry, hentry⟩
      exact ⟨_, h.recorded_of_live value now.toNat entry hfrom hentry⟩
    · rintro ⟨recordedAt, hr, hexp⟩
      obtain ⟨entry, hentry, -⟩ := h.live_of_recorded value recordedAt hr now.toNat hfrom hexp
      exact ⟨entry, hentry⟩
  rw [← hlive]
  cases machine_callCases s op with
  | refuses value' now' entry hop' hentry houtput _ =>
    cases hop.symm.trans hop'
    obtain ⟨what, hwhat⟩ := exists_seen value entry
    exact ⟨fun _ => ⟨entry, hentry⟩, fun _ => ⟨what, houtput.trans (congrArg _ hwhat)⟩⟩
  | checks value' now' hop' _ hnone houtput _ =>
    cases hop.symm.trans hop'
    simp [houtput, hnone]
  | records value' checkedAt cleanedAt now' hop' _ _ hnone houtput _ _ _ =>
    cases hop.symm.trans hop'
    simp [houtput, hnone]
  | cleans now' hop' _ _ _ _ _ => cases hop.symm.trans hop'

theorem machine_answers (s : ReplayStore) (op : ReplayOp) :
    (machine s op).output = .ok () ∨
      ∃ what, (machine s op).output = .error (.replayDetected what) := by
  cases machine_callCases s op with
  | refuses value now entry _ _ houtput _ =>
    obtain ⟨what, hwhat⟩ := exists_seen value entry
    exact .inr ⟨what, houtput.trans (congrArg _ hwhat)⟩
  | checks value now _ _ _ houtput _ => exact .inl houtput
  | records value checkedAt cleanedAt now _ _ _ _ houtput _ _ _ => exact .inl houtput
  | cleans now _ _ _ houtput _ _ => exact .inl houtput

/-- The table's entry of a value, expired or not. -/
def entryOf (s : ReplayStore) : ReplayValue → Option StoreEntry
  | .inl nonce => s.nonces[nonce]?
  | .inr digest => s.digests[digest]?

theorem entry_of_live {s : ReplayStore} {t : ℕ} {value : ReplayValue} {entry : StoreEntry}
    (h : s.live t value = some entry) : s.entryOf value = some entry := by
  cases value <;> exact (Expiring.live_eq_some_iff.mp h).1

/-- A run in which the store remembers what it should, and nothing else. -/
structure Remembers (store : ReplayStore) (ops : List ReplayOp) : Prop where
  answers : ∀ e ∈ machine.trace store ops,
    e.output = .ok () ∨ ∃ what, e.output = .error (.replayDetected what)
  /-- A check fails exactly while a successful record of its value has not expired. -/
  detects : ∀ before op after, ops = before ++ op :: after → ∀ value now,
    op.asks? = some (value, now) →
    ((∃ what, (machine (machine.final store before) op).output = .error (.replayDetected what)) ↔
      ∃ recordedAt, Recorded (machine.trace store before) value recordedAt ∧
        now.toNat < recordedAt.toNat + store.defaultTtl.toNat)
  /-- No such record is evicted before it expires. -/
  keeps : ∀ before op after, ops = before ++ op :: after → ∀ value recordedAt,
    Recorded (machine.trace store before) value recordedAt →
    op.startsAt.toNat < recordedAt.toNat + store.defaultTtl.toNat →
    ∃ entry, (machine.final store before).entryOf value = some entry ∧ entry.recordedAt = recordedAt
  /-- Two successful records of a value are a lifetime apart. -/
  apart : ∀ before op after, ops = before ++ op :: after → ∀ value recordedAt now,
    Recorded (machine.trace store before) value recordedAt → op.records? = some (value, now) →
    (machine (machine.final store before) op).output = .ok () →
    recordedAt.toNat + store.defaultTtl.toNat ≤ now.toNat

end ReplayStore

/-- A store never forgets a live record and never remembers a dead one. -/
theorem replay_store_remembers (ttl : UInt64) (maxEntries : ℕ) (t : UInt64) (ops : List ReplayOp)
    (hp : Machine.Paced (ReplayStore.Tick ttl) t ops) :
    (ReplayStore.withLimits ttl maxEntries).Remembers ops := by
  have hrun : ∀ before op after, ops = before ++ op :: after → ∃ t₁ t₂,
      ReplayStore.Reflects ttl (ReplayStore.machine.trace (.withLimits ttl maxEntries) before) t₁
        (ReplayStore.machine.final (.withLimits ttl maxEntries) before) ∧
      ReplayStore.Tick ttl t₁ op t₂ := by
    rintro before op after rfl
    exact (ReplayStore.reflects_start ttl maxEntries t).run hp
  constructor
  · exact ReplayStore.machine.trace_forall (fun _ _ (h : True) => h)
      (fun s op _ => ReplayStore.machine_answers s op) trivial ops
  · intro before op after he value now hop
    obtain ⟨t₁, t₂, h, htick⟩ := hrun before op after he
    exact h.detects htick hop
  · intro before op after he value recordedAt hr hexp
    obtain ⟨t₁, t₂, h, htick⟩ := hrun before op after he
    obtain ⟨entry, hentry, hat⟩ := h.live_of_recorded value recordedAt hr op.startsAt.toNat
      (UInt64.le_iff_toNat_le.mp htick.1.1) hexp
    exact ⟨entry, ReplayStore.entry_of_live hentry, hat⟩
  · intro before op after he value recordedAt now hr hop hok
    obtain ⟨t₁, t₂, h, htick⟩ := hrun before op after he
    obtain ⟨checkedAt, hasks, hle⟩ := htick.1.asks_of_records hop
    by_contra hlt
    have hlate : checkedAt.toNat < recordedAt.toNat + ttl.toNat :=
      lt_of_le_of_lt (UInt64.le_iff_toNat_le.mp hle) (not_le.mp hlt)
    obtain ⟨what, hwhat⟩ := (h.detects htick hasks).mpr ⟨recordedAt, hr, hlate⟩
    cases hok.symm.trans hwhat

/-- A nonce is recorded, found, and recorded again once it has expired; a digest fills
the store up in between. -/
def sampleReplays : List ReplayOp :=
  [.recordNonce 100 100 101 ⟨Bytes.zero 32⟩ (some "sample"),
    .recordDigest 120 120 120 ⟨Bytes.zero 32⟩ none,
    .checkNonce 160 ⟨Bytes.zero 32⟩,
    .recordNonce 161 161 161 ⟨Bytes.zero 32⟩ none,
    .cleanupExpired 300]

theorem sampleReplays_paced : Machine.Paced (ReplayStore.Tick 60) 0 sampleReplays := by
  refine .cons (show ReplayStore.Tick 60 _ _ 101 from
    ⟨⟨by decide, by decide, by decide, rfl⟩, by decide⟩) ?_
  refine .cons (show ReplayStore.Tick 60 _ _ 120 from
    ⟨⟨by decide, by decide, by decide, rfl⟩, by decide⟩) ?_
  refine .cons (show ReplayStore.Tick 60 _ _ 160 from ⟨⟨by decide, rfl⟩, by decide⟩) ?_
  refine .cons (show ReplayStore.Tick 60 _ _ 161 from
    ⟨⟨by decide, by decide, by decide, rfl⟩, by decide⟩) ?_
  exact .cons (show ReplayStore.Tick 60 _ _ 300 from ⟨⟨by decide, rfl⟩, by decide⟩) (.nil 300)

theorem replay_store_remembers_sample : (ReplayStore.withLimits 60 1).Remembers sampleReplays :=
  replay_store_remembers 60 1 0 sampleReplays sampleReplays_paced

end BlindOverlap
