import BlindOverlap.Lib.Text
import BlindOverlap.Reference
import BlindOverlap.Replay
import BlindOverlap.WireCodec

/-!
# The replay store on disk

A store that keeps a copy of its tables in a file, writes it after every change and
reads it back when it is opened. Its tables may differ from those of a store that
was never closed, by entries that have expired; the live ones are the same.
-/
namespace BlindOverlap

/-! ## The file -/

namespace StoreEntry

def fieldNames : List String := ["recorded_at", "expires_at", "session_id"]

/-- A record without a session is written with null, unlike the optional members of messages. -/
def fields (e : StoreEntry) : List (String × Option Json) :=
  [("recorded_at", some (Json.ofUInt64 e.recordedAt)),
    ("expires_at", some (Json.ofUInt64 e.expiresAt)),
    ("session_id", some (Json.ofOption .string e.sessionId))]

def toJson (e : StoreEntry) : Json := Json.record e.fields

/-- The session may be missing as well. -/
def fromJson (j : Json) : Except DecodeError StoreEntry := do
  match ← Json.slots fieldNames j with
  | [recordedAt, expiresAt, sessionId] =>
    return {
      recordedAt := ← recordedAt.required "recorded_at" Json.asUInt64
      expiresAt := ← expiresAt.required "expires_at" Json.asUInt64
      sessionId := ← sessionId.optional Json.asString }
  | _ => throw .invalidLength

@[simp] theorem fromJson_toJson (e : StoreEntry) : fromJson e.toJson = .ok e := by
  have hslots : Json.slots (e.fields.map Prod.fst) (Json.record e.fields) = .ok _ :=
    Json.slots_record (show fieldNames.Nodup by decide)
  have hoption :
      (Json.Slot.present (Json.ofOption Json.string e.sessionId)).optional Json.asString =
        .ok e.sessionId :=
    Json.optional_ofOption Json.asString_string (fun _ h => Json.noConfusion h) e.sessionId
  rw [fromJson, toJson, show fieldNames = e.fields.map Prod.fst from rfl, hslots]
  simp [fields, hoption]

theorem storable_toJson (n : ℕ) (e : StoreEntry) : JsonText.Storable (n + 1) e.toJson := by
  have hoption : JsonText.Storable n (Json.ofOption .string e.sessionId) :=
    JsonText.storable_ofOption JsonText.storable_string e.sessionId
  refine JsonText.storable_record ?_
  simp [fields, hoption]

end StoreEntry

/-- The tables as they are written, keys in hexadecimal. -/
structure PersistentStoreData where
  version : UInt8
  defaultTtl : UInt64
  nonces : List (String × StoreEntry)
  digests : List (String × StoreEntry)

namespace PersistentStoreData

/-- A table is a list of pairs, which are lists of two. -/
def entriesToJson (entries : List (String × StoreEntry)) : Json :=
  .array (entries.map (fun e => .array [.string e.1, e.2.toJson]))

def entriesFromJson (j : Json) : Except DecodeError (List (String × StoreEntry)) :=
  Json.asList (Json.asPair Json.asString StoreEntry.fromJson) j

@[simp] theorem entriesFromJson_toJson (entries : List (String × StoreEntry)) :
    entriesFromJson (entriesToJson entries) = .ok entries :=
  Json.asList_array_map
    (fun e => Json.asPair_array (Json.asString_string e.1) e.2.fromJson_toJson) entries

def fieldNames : List String := ["version", "default_ttl", "nonces", "digests"]

def fields (d : PersistentStoreData) : List (String × Option Json) :=
  [("version", some (Json.ofUInt8 d.version)), ("default_ttl", some (Json.ofUInt64 d.defaultTtl)),
    ("nonces", some (entriesToJson d.nonces)), ("digests", some (entriesToJson d.digests))]

def toJson (d : PersistentStoreData) : Json := Json.record d.fields

/-- The version is read and compared with nothing. -/
def fromJson (j : Json) : Except DecodeError PersistentStoreData := do
  match ← Json.slots fieldNames j with
  | [version, defaultTtl, nonces, digests] =>
    return {
      version := ← version.required "version" Json.asUInt8
      defaultTtl := ← defaultTtl.required "default_ttl" Json.asUInt64
      nonces := ← nonces.required "nonces" entriesFromJson
      digests := ← digests.required "digests" entriesFromJson }
  | _ => throw .invalidLength

@[simp] theorem fromJson_toJson (d : PersistentStoreData) : fromJson d.toJson = .ok d := by
  have hslots : Json.slots (d.fields.map Prod.fst) (Json.record d.fields) = .ok _ :=
    Json.slots_record (show fieldNames.Nodup by decide)
  rw [fromJson, toJson, show fieldNames = d.fields.map Prod.fst from rfl, hslots]
  simp [fields]

theorem storable_toJson (n : ℕ) (d : PersistentStoreData) :
    JsonText.Storable (n + 4) d.toJson := by
  have hentries : ∀ entries, JsonText.Storable (n + 3) (entriesToJson entries) :=
    JsonText.storable_array_map (fun e => by
      simp [JsonText.storable_array, StoreEntry.storable_toJson])
  refine JsonText.storable_record ?_
  simp [fields, hentries]

end PersistentStoreData

/-- The order in which the two tables happen to be iterated. -/
structure IterationOrder where
  nonces : List (SessionNonce × StoreEntry) → List (SessionNonce × StoreEntry)
  digests : List (TranscriptDigest × StoreEntry) → List (TranscriptDigest × StoreEntry)
  nonces_perm : ∀ l, (nonces l).Perm l
  digests_perm : ∀ l, (digests l).Perm l

/-- Only the text of the file can be at fault here. -/
inductive ReplayStoreError where
  | json (e : JsonError)
  deriving DecidableEq

namespace ReplayStore

/-- Inserts the entries of a file, leaving out keys that are not spelled properly. -/
def loadTable {κ : Type} [DecidableEq κ] [Hashable κ] (fromHex : String → Except FromHexError κ)
    (table : Std.HashMap κ StoreEntry) (entries : List (String × StoreEntry)) :
    Std.HashMap κ StoreEntry :=
  entries.foldl (fun table e =>
    match fromHex e.1 with
    | .ok key => table.insert key e.2
    | .error _ => table) table

/-- The lifetime that the file gives is not taken over. -/
def load (s : ReplayStore) (data : PersistentStoreData) : ReplayStore :=
  { s with
    nonces := loadTable SessionNonce.fromHex s.nonces data.nonces
    digests := loadTable TranscriptDigest.fromHex s.digests data.digests }

/-- The tables as they stand, expired entries included. -/
def data (order : IterationOrder) (s : ReplayStore) : PersistentStoreData where
  version := 1
  defaultTtl := s.defaultTtl
  nonces := (order.nonces s.nonces.toList).map (fun e => (e.1.toHex, e.2))
  digests := (order.digests s.digests.toList).map (fun e => (e.1.toHex, e.2))

end ReplayStore

/-- A store and what its file holds, if there is a file. -/
structure PersistentReplayStore where
  inner : ReplayStore
  file : Option String

namespace PersistentReplayStore

/-- An empty file is a new store. What has expired is dropped at once, and the file is not
written. -/
def openWithTtl (K : Crates) (now : UInt64) (file : Option String) (ttlSecs : UInt64) :
    Except ReplayStoreError PersistentReplayStore :=
  let inner := ReplayStore.withTtl ttlSecs
  match file with
  | none => .ok ⟨inner, file⟩
  | some contents =>
    if Text.trimsToEmpty contents then .ok ⟨inner, file⟩
    else
      match K.fromStr PersistentStoreData.fromJson contents with
      | .error e => .error (.json e)
      | .ok data => .ok ⟨(inner.load data).cleanupExpired now, file⟩

/-- Writing the file is taken to succeed. -/
def flush (K : Crates) (order : IterationOrder) (s : PersistentReplayStore) :
    PersistentReplayStore :=
  { s with file := some (K.jsonToStringPretty (s.inner.data order).toJson) }

/-- Checks read the tables and never the file. -/
def checkNonce (now : UInt64) (s : PersistentReplayStore) (nonce : SessionNonce) :
    Except FreshnessError Unit := s.inner.checkNonce now nonce

def checkDigest (now : UInt64) (s : PersistentReplayStore) (digest : TranscriptDigest) :
    Except FreshnessError Unit := s.inner.checkDigest now digest

/-- A refused record is not written. -/
def flushIfOk (K : Crates) (order : IterationOrder) (s : PersistentReplayStore)
    (step : Step ReplayStore (Except FreshnessError Unit)) :
    Step PersistentReplayStore (Except FreshnessError Unit) :=
  match step.output with
  | .error e => ⟨.error e, { s with inner := step.next }⟩
  | .ok () => ⟨.ok (), { s with inner := step.next }.flush K order⟩

/-- A recorded value is written at once, with everything else. -/
def recordNonce (K : Crates) (order : IterationOrder) (checkedAt cleanedAt now : UInt64)
    (nonce : SessionNonce) (sessionId : Option String) (s : PersistentReplayStore) :
    Step PersistentReplayStore (Except FreshnessError Unit) :=
  s.flushIfOk K order (s.inner.recordNonce checkedAt cleanedAt now nonce sessionId)

def recordDigest (K : Crates) (order : IterationOrder) (checkedAt cleanedAt now : UInt64)
    (digest : TranscriptDigest) (sessionId : Option String) (s : PersistentReplayStore) :
    Step PersistentReplayStore (Except FreshnessError Unit) :=
  s.flushIfOk K order (s.inner.recordDigest checkedAt cleanedAt now digest sessionId)

/-- The file is written even if nothing was dropped. -/
def cleanupExpired (K : Crates) (order : IterationOrder) (now : UInt64)
    (s : PersistentReplayStore) : PersistentReplayStore :=
  { s with inner := s.inner.cleanupExpired now }.flush K order

/-- The tables are emptied before the file is parsed, also when that fails. -/
def reload (K : Crates) (now : UInt64) (s : PersistentReplayStore) :
    Step PersistentReplayStore (Except ReplayStoreError Unit) :=
  match s.file with
  | none => ⟨.ok (), s⟩
  | some contents =>
    let cleared := { s.inner with nonces := ∅, digests := ∅ }
    if Text.trimsToEmpty contents then ⟨.ok (), { s with inner := cleared }⟩
    else
      match K.fromStr PersistentStoreData.fromJson contents with
      | .error e => ⟨.error (.json e), { s with inner := cleared }⟩
      | .ok data => ⟨.ok (), { s with inner := (cleared.load data).cleanupExpired now }⟩

end PersistentReplayStore

/-! ## The store as a machine -/

/-- One call, with the readings of the clock and the order in which tables are iterated. -/
inductive PersistentOp where
  | call (op : ReplayOp) (order : IterationOrder)
  /-- The store is dropped, and opened again with the same lifetime. -/
  | reopen (now : UInt64)
  | reload (now : UInt64)

namespace PersistentOp

/-- The call of the inner store, if it is one. -/
def call? : PersistentOp → Option ReplayOp
  | .call op _ => some op
  | _ => none

/-- A clock that does not go back during the call. -/
def Ticks (t : UInt64) : PersistentOp → UInt64 → Prop
  | .call op _, t' => op.Ticks t t'
  | .reopen now, t' => t ≤ now ∧ t' = now
  | .reload now, t' => t ≤ now ∧ t' = now

end PersistentOp

/-- Calls answer like the inner store; opening and reloading have errors of their own. -/
inductive PersistentAnswer where
  | answered (answer : Except FreshnessError Unit)
  | restored (answer : Except ReplayStoreError Unit)

namespace PersistentAnswer

def answer? : PersistentAnswer → Option (Except FreshnessError Unit)
  | .answered answer => some answer
  | .restored _ => none

end PersistentAnswer

namespace PersistentReplayStore

/-- Calls of the inner store, written to the file. -/
def call (K : Crates) (order : IterationOrder) (s : PersistentReplayStore) :
    ReplayOp → Step PersistentReplayStore (Except FreshnessError Unit)
  | .checkNonce now nonce => ⟨s.checkNonce now nonce, s⟩
  | .recordNonce checkedAt cleanedAt now nonce sessionId =>
    s.recordNonce K order checkedAt cleanedAt now nonce sessionId
  | .checkDigest now digest => ⟨s.checkDigest now digest, s⟩
  | .recordDigest checkedAt cleanedAt now digest sessionId =>
    s.recordDigest K order checkedAt cleanedAt now digest sessionId
  | .cleanupExpired now => ⟨.ok (), s.cleanupExpired K order now⟩

/-- A store that cannot be opened again stays as it was. -/
def machine (K : Crates) : Machine PersistentReplayStore PersistentOp PersistentAnswer
  | s, .call op order => ⟨.answered (s.call K order op).output, (s.call K order op).next⟩
  | s, .reopen now =>
    match openWithTtl K now s.file s.inner.defaultTtl with
    | .error e => ⟨.restored (.error e), s⟩
    | .ok s' => ⟨.restored (.ok ()), s'⟩
  | s, .reload now => ⟨.restored (s.reload K now).output, (s.reload K now).next⟩

end PersistentReplayStore

/-! ## Stores that answer alike -/

namespace ReplayStore

/-- Stores with the same live entries, from a time on. -/
structure AgreeFrom (t : UInt64) (s s' : ReplayStore) : Prop where
  defaultTtl : s.defaultTtl = s'.defaultTtl
  live : ∀ (t' : ℕ) value, t.toNat ≤ t' → s.live t' value = s'.live t' value

/-- The answer of a call is a matter of what is live. -/
theorem output_eq (s : ReplayStore) (op : ReplayOp) :
    (machine s op).output =
      match op.asks? with
      | none => .ok ()
      | some (value, now) =>
        match s.live now.toNat value with
        | some entry => .error (seen value entry)
        | none => .ok () := by
  cases machine_callCases s op with
  | refuses value now entry hop hlive houtput _ => simp [houtput, hop, hlive]
  | checks value now hop _ hlive houtput _ => simp [houtput, hop, hlive]
  | records value checkedAt cleanedAt now hop _ _ hlive houtput _ _ _ => simp [houtput, hop, hlive]
  | cleans now hop _ _ houtput _ _ => simp [houtput, hop]

/-- So is what is live after it. -/
theorem live_next (s : ReplayStore) {op : ReplayOp} {t t' : UInt64} (hop : op.Ticks t t') {t'' : ℕ}
    (ht : t'.toNat ≤ t'') (value : ReplayValue) :
    (machine s op).next.live t'' value =
      match op.asks?, op.records? with
      | some (value', checkedAt), some (_, now) =>
        if s.live checkedAt.toNat value' = none ∧ value = value' then
          if t'' < expires (s.entryAt now op.sessionId?) then some (s.entryAt now op.sessionId?)
          else none
        else s.live t'' value
      | _, _ => s.live t'' value := by
  cases machine_callCases s op with
  | refuses value' now entry hasks hlive _ hnext =>
    cases hr : op.records? <;> simp [hasks, hlive, hnext]
  | checks value' now hasks hrecords _ _ hnext => simp [hasks, hrecords, hnext]
  | cleans now hasks hrecords hticks _ hlive _ =>
    simp only [hasks]
    exact hlive t'' value (hticks t t' hop ▸ ht)
  | records value' checkedAt cleanedAt now hasks hrecords hticks hlive _ hvalue hothers _ =>
    simp only [hasks, hrecords, hlive, true_and]
    split_ifs with he hlt
    · rw [he, hvalue, if_pos hlt]
    · rw [he, hvalue, if_neg hlt]
    · have hcleaned := UInt64.le_iff_toNat_le.mp (hticks t t' hop).1
      exact hothers t'' value (hcleaned.trans ht) he

/-- A refused call changes nothing. -/
theorem next_of_error {s : ReplayStore} {op : ReplayOp} {e : FreshnessError}
    (h : (machine s op).output = .error e) : (machine s op).next = s := by
  cases machine_callCases s op with
  | refuses _ _ _ _ _ _ hnext => exact hnext
  | checks _ _ _ _ _ _ hnext => exact hnext
  | records _ _ _ _ _ _ _ _ houtput _ _ _ => cases houtput.symm.trans h
  | cleans _ _ _ _ houtput _ _ => cases houtput.symm.trans h

theorem next_defaultTtl (s : ReplayStore) (op : ReplayOp) :
    (machine s op).next.defaultTtl = s.defaultTtl := by
  cases machine_callCases s op with
  | refuses _ _ _ _ _ _ hnext => rw [hnext]
  | checks _ _ _ _ _ _ hnext => rw [hnext]
  | records _ _ _ _ _ _ _ _ _ _ _ httl => exact httl
  | cleans _ _ _ _ _ _ httl => exact httl

namespace AgreeFrom
variable {t t' : UInt64} {s s' s'' : ReplayStore}

theorem refl (t : UInt64) (s : ReplayStore) : AgreeFrom t s s := ⟨rfl, fun _ _ _ => rfl⟩

theorem symm (h : AgreeFrom t s s') : AgreeFrom t s' s :=
  ⟨h.defaultTtl.symm, fun t' value ht => (h.live t' value ht).symm⟩

theorem trans (h : AgreeFrom t s s') (h' : AgreeFrom t s' s'') : AgreeFrom t s s'' :=
  ⟨h.defaultTtl.trans h'.defaultTtl,
    fun t' value ht => (h.live t' value ht).trans (h'.live t' value ht)⟩

theorem later (h : AgreeFrom t s s') (ht : t ≤ t') : AgreeFrom t' s s' :=
  ⟨h.defaultTtl, fun t'' value ht'' =>
    h.live t'' value ((UInt64.le_iff_toNat_le.mp ht).trans ht'')⟩

theorem cleanupExpired (t : UInt64) (s : ReplayStore) : AgreeFrom t (s.cleanupExpired t) s :=
  ⟨rfl, fun _ value ht => live_cleanupExpired ht s value⟩

theorem asked (h : AgreeFrom t s s') {op : ReplayOp} (hop : op.Ticks t t') {value : ReplayValue}
    {now : UInt64} (ha : op.asks? = some (value, now)) :
    s.live now.toNat value = s'.live now.toNat value :=
  h.live _ _ (UInt64.le_iff_toNat_le.mp (ReplayOp.asks_startsAt ha ▸ hop.le.1))

theorem output (h : AgreeFrom t s s') {op : ReplayOp} (hop : op.Ticks t t') :
    (machine s op).output = (machine s' op).output := by
  rw [output_eq, output_eq]
  cases ha : op.asks? with
  | none => rfl
  | some a => simp only [h.asked hop ha]

theorem next (h : AgreeFrom t s s') {op : ReplayOp} (hop : op.Ticks t t') :
    AgreeFrom t' (machine s op).next (machine s' op).next := by
  have hlater := h.later (UInt64.le_trans hop.le.1 hop.le.2)
  have hentry : ∀ now sessionId, s.entryAt now sessionId = s'.entryAt now sessionId := by
    intro now sessionId
    rw [entryAt, entryAt, h.defaultTtl]
  constructor
  · rw [next_defaultTtl, next_defaultTtl, h.defaultTtl]
  · intro t'' value ht
    rw [live_next s hop ht, live_next s' hop ht]
    cases ha : op.asks? with
    | none => exact hlater.live t'' value ht
    | some a =>
      cases op.records? with
      | none => exact hlater.live t'' value ht
      | some r => simp only [h.asked hop ha, hentry, hlater.live t'' value ht]

end AgreeFrom

/-! ## Reading back what was written -/

/-- A table is rebuilt from its entries, in whichever order they were written. -/
theorem loadTable_agree {κ : Type} [DecidableEq κ] [Hashable κ]
    {fromHex : String → Except FromHexError κ} {toHex : κ → String}
    (h : ∀ key, fromHex (toHex key) = .ok key) {table : Std.HashMap κ StoreEntry}
    {entries : List (κ × StoreEntry)} (hp : entries.Perm table.toList) (t : ℕ) :
    Expiring.Agree expires t
      (loadTable fromHex ∅ (entries.map (fun e => (toHex e.1, e.2)))) table := by
  have hload : loadTable fromHex ∅ (entries.map (fun e => (toHex e.1, e.2))) =
      entries.foldl (fun m e => m.insert e.1 e.2) ∅ := by
    simp only [loadTable, List.foldl_map, h]
  rw [hload]
  exact Expiring.Agree.foldl_insert hp

theorem load_data (order : IterationOrder) (s : ReplayStore) (ttl : UInt64) (t : ℕ)
    (value : ReplayValue) : ((withTtl ttl).load (s.data order)).live t value = s.live t value := by
  cases value with
  | inl nonce => exact loadTable_agree SessionNonce.fromHex_toHex (order.nonces_perm _) t nonce
  | inr digest =>
    exact loadTable_agree TranscriptDigest.fromHex_toHex (order.digests_perm _) t digest

end ReplayStore

namespace PersistentReplayStore
variable {K : Crates} {ttl now : UInt64} {file : Option String} {s : PersistentReplayStore}
  {r : ReplayStore}

/-- The tables a file holds, before expired entries are taken out. -/
def restored (K : Crates) (ttl : UInt64) : Option String → Except ReplayStoreError ReplayStore
  | none => .ok (.withTtl ttl)
  | some contents =>
    if Text.trimsToEmpty contents then .ok (.withTtl ttl)
    else
      match K.fromStr PersistentStoreData.fromJson contents with
      | .error e => .error (.json e)
      | .ok data => .ok ((ReplayStore.withTtl ttl).load data)

theorem open_of_restored (now : UInt64) (h : restored K ttl file = .ok r) :
    ∃ s, openWithTtl K now file ttl = .ok s ∧ s.file = file ∧ s.inner.AgreeFrom now r := by
  cases file with
  | none =>
    cases h
    exact ⟨_, rfl, rfl, .refl now _⟩
  | some contents =>
    simp only [restored] at h
    simp only [openWithTtl]
    split_ifs at h ⊢
    · cases h
      exact ⟨_, rfl, rfl, .refl now _⟩
    · cases hd : K.fromStr PersistentStoreData.fromJson contents with
      | error e => simp [hd] at h
      | ok data =>
        simp only [hd, Except.ok.injEq] at h
        subst h
        exact ⟨_, rfl, rfl, .cleanupExpired now _⟩

theorem reload_of_restored (now : UInt64) (h : restored K s.inner.defaultTtl s.file = .ok r) :
    (s.reload K now).output = .ok () ∧ (s.reload K now).next.file = s.file ∧
      ((s.reload K now).next.inner = s.inner ∨ (s.reload K now).next.inner.AgreeFrom now r) := by
  obtain ⟨inner, file⟩ := s
  cases file with
  | none => exact ⟨rfl, rfl, .inl rfl⟩
  | some contents =>
    simp only [restored] at h
    simp only [reload]
    split_ifs at h ⊢
    · cases h
      refine ⟨rfl, rfl, .inr ⟨rfl, fun t' value _ => ?_⟩⟩
      rw [ReplayStore.withTtl, ReplayStore.live_withLimits]
      cases value <;> exact Expiring.live_empty
    · cases hd : K.fromStr PersistentStoreData.fromJson contents with
      | error e => simp [hd] at h
      | ok data =>
        simp only [hd, Except.ok.injEq] at h
        subst h
        refine ⟨rfl, rfl, .inr ⟨rfl, fun t' value ht => ?_⟩⟩
        rw [ReplayStore.live_cleanupExpired ht]
        cases value <;> rfl

/-- Texts of stores are read back by the parser, and open with a brace. -/
structure ReadsBack (K : Crates) : Prop where
  parses : K.ParsesPretty
  opens : ∀ data : PersistentStoreData,
    ∃ rest, (K.jsonToStringPretty data.toJson).toList = '{' :: rest

theorem restored_flush (hK : ReadsBack K) (order : IterationOrder) (s : PersistentReplayStore)
    (ttl : UInt64) : ∃ r, restored K ttl (s.flush K order).file = .ok r ∧ r.defaultTtl = ttl ∧
      ∀ t value, r.live t value = s.inner.live t value := by
  refine ⟨(ReplayStore.withTtl ttl).load (s.inner.data order), ?_, rfl,
    ReplayStore.load_data order s.inner ttl⟩
  obtain ⟨rest, hrest⟩ := hK.opens (s.inner.data order)
  have hblank : Text.trimsToEmpty (K.jsonToStringPretty (s.inner.data order).toJson) = false := by
    rw [Text.trimsToEmpty, hrest, List.all_cons]
    rfl
  have hparse : K.fromStr PersistentStoreData.fromJson
      (K.jsonToStringPretty (s.inner.data order).toJson) = .ok (s.inner.data order) := by
    rw [Crates.fromStr_pretty hK.parses _ (PersistentStoreData.storable_toJson _ _),
      PersistentStoreData.fromJson_toJson]
  simp [restored, flush, hblank, hparse]

/-! ## The simulation -/

/-- A store on disk against one in memory: the same is live in its tables, and in
those its file holds. -/
structure Mirrors (K : Crates) (t : UInt64) (s : PersistentReplayStore) (m : ReplayStore) :
    Prop where
  inner : s.inner.AgreeFrom t m
  file : ∃ r, restored K m.defaultTtl s.file = .ok r ∧ r.AgreeFrom t m

/-- A store that is never closed, under the same calls. -/
def uninterrupted : Machine ReplayStore PersistentOp PersistentAnswer
  | m, .call op _ => ⟨.answered (ReplayStore.machine m op).output, (ReplayStore.machine m op).next⟩
  | m, .reopen _ => ⟨.restored (.ok ()), m⟩
  | m, .reload _ => ⟨.restored (.ok ()), m⟩

namespace Mirrors
variable {t t' : UInt64} {m : ReplayStore}

theorem later (h : Mirrors K t s m) (ht : t ≤ t') : Mirrors K t' s m := by
  obtain ⟨r, hr, hagree⟩ := h.file
  exact ⟨h.inner.later ht, r, hr, hagree.later ht⟩

/-- Once the tables are written, the file needs no more than the tables. -/
theorem of_flush (hK : ReadsBack K) (order : IterationOrder) (h : s.inner.AgreeFrom t m) :
    Mirrors K t (s.flush K order) m := by
  obtain ⟨r, hr, httl, hlive⟩ := restored_flush hK order s m.defaultTtl
  exact ⟨h, r, hr, httl, fun t' value ht => (hlive t' value).trans (h.live t' value ht)⟩

theorem flushIfOk_cases (order : IterationOrder) (s : PersistentReplayStore)
    {step : Step ReplayStore (Except FreshnessError Unit)}
    (hrefused : ∀ e, step.output = .error e → step.next = s.inner) :
    (s.flushIfOk K order step).output = step.output ∧
      ((s.flushIfOk K order step).next = s ∧ step.next = s.inner ∨
        (s.flushIfOk K order step).next = { s with inner := step.next }.flush K order) := by
  unfold flushIfOk
  cases ho : step.output with
  | error e =>
    have hsame := hrefused e ho
    exact ⟨rfl, .inl ⟨by rw [hsame], hsame⟩⟩
  | ok u => exact ⟨rfl, .inr rfl⟩

/-- A call leaves everything as it is, or writes the tables. -/
theorem call_cases (order : IterationOrder) (s : PersistentReplayStore) (op : ReplayOp) :
    (s.call K order op).output = (ReplayStore.machine s.inner op).output ∧
      ((s.call K order op).next = s ∧ (ReplayStore.machine s.inner op).next = s.inner ∨
        (s.call K order op).next =
          { s with inner := (ReplayStore.machine s.inner op).next }.flush K order) := by
  have hrefused : ∀ e, (ReplayStore.machine s.inner op).output = .error e →
      (ReplayStore.machine s.inner op).next = s.inner := fun e he => ReplayStore.next_of_error he
  cases op with
  | checkNonce now nonce => exact ⟨rfl, .inl ⟨rfl, rfl⟩⟩
  | checkDigest now digest => exact ⟨rfl, .inl ⟨rfl, rfl⟩⟩
  | recordNonce checkedAt cleanedAt now nonce sessionId => exact flushIfOk_cases order s hrefused
  | recordDigest checkedAt cleanedAt now digest sessionId => exact flushIfOk_cases order s hrefused
  | cleanupExpired now => exact ⟨rfl, .inr rfl⟩

theorem call (hK : ReadsBack K) (order : IterationOrder) {op : ReplayOp} (h : Mirrors K t s m)
    (hop : op.Ticks t t') :
    (s.call K order op).output = (ReplayStore.machine m op).output ∧
      Mirrors K t' (s.call K order op).next (ReplayStore.machine m op).next := by
  have hnext := h.inner.next hop
  obtain ⟨houtput, ⟨hcall, hsame⟩ | hcall⟩ := call_cases order s op
  · have hlater := h.later (UInt64.le_trans hop.le.1 hop.le.2)
    obtain ⟨r, hr, hagree⟩ := hlater.file
    rw [hsame] at hnext
    rw [hcall, houtput]
    refine ⟨h.inner.output hop, hnext, r, ?_, hagree.trans (hlater.inner.symm.trans hnext)⟩
    rw [ReplayStore.next_defaultTtl, hr]
  · rw [hcall, houtput]
    exact ⟨h.inner.output hop, of_flush hK order hnext⟩

/-- Opening the file again, or reading it again, changes nothing that is live. -/
theorem step (hK : ReadsBack K) {op : PersistentOp} (h : Mirrors K t s m) (hop : op.Ticks t t') :
    (machine K s op).output = (uninterrupted m op).output ∧
      Mirrors K t' (machine K s op).next (uninterrupted m op).next := by
  cases op with
  | call op order =>
    obtain ⟨houtput, hnext⟩ := h.call hK order hop
    exact ⟨congrArg _ houtput, hnext⟩
  | reopen now =>
    obtain ⟨ht, rfl⟩ := hop
    obtain ⟨r, hr, hagree⟩ := (h.later ht).file
    obtain ⟨s', hopen, hfile, hinner⟩ := open_of_restored t' hr
    have hmachine : machine K s (.reopen t') = ⟨.restored (.ok ()), s'⟩ := by
      rw [machine, h.inner.defaultTtl, hopen]
    rw [hmachine]
    exact ⟨rfl, hinner.trans hagree, r, hfile ▸ hr, hagree⟩
  | reload now =>
    obtain ⟨ht, rfl⟩ := hop
    have hlater := h.later ht
    obtain ⟨r, hr, hagree⟩ := hlater.file
    obtain ⟨houtput, hfile, hinner⟩ := reload_of_restored t' (h.inner.defaultTtl ▸ hr)
    refine ⟨congrArg _ houtput, ?_, r, hfile.symm ▸ hr, hagree⟩
    rcases hinner with hsame | hinner
    · exact hsame ▸ hlater.inner
    · exact hinner.trans hagree

end Mirrors

theorem mirrors_start (ttl t : UInt64) {file : Option String}
    (hfile : ∀ contents ∈ file, Text.trimsToEmpty contents = true) :
    Mirrors K t ⟨.withTtl ttl, file⟩ (.withTtl ttl) := by
  refine ⟨.refl t _, .withTtl ttl, ?_, .refl t _⟩
  cases file with
  | none => rfl
  | some contents => exact if_pos (hfile contents rfl)

theorem answers_uninterrupted (m : ReplayStore) (ops : List PersistentOp) :
    (uninterrupted.outputs m ops).filterMap PersistentAnswer.answer? =
      ReplayStore.machine.outputs m (ops.filterMap PersistentOp.call?) := by
  induction ops generalizing m with
  | nil => rfl
  | cons op ops ih =>
    cases op with
    | call op order => exact congrArg _ (ih _)
    | reopen now => exact ih m
    | reload now => exact ih m

theorem restored_uninterrupted (m : ReplayStore) (ops : List PersistentOp)
    {answer : Except ReplayStoreError Unit}
    (h : .restored answer ∈ uninterrupted.outputs m ops) : answer = .ok () := by
  induction ops generalizing m with
  | nil => cases h
  | cons op ops ih =>
    rcases List.mem_cons.mp h with he | h
    · cases op <;> cases he <;> rfl
    · exact ih _ h

end PersistentReplayStore

/-- A store on disk answers as one in memory that is never closed, however often it is
opened again or reloaded in between, and every file it wrote can be read. -/
theorem restarts_are_invisible (K : Crates) (hK : PersistentReplayStore.ReadsBack K)
    (ttl t : UInt64) (file : Option String)
    (hfile : ∀ contents ∈ file, Text.trimsToEmpty contents = true) (ops : List PersistentOp)
    (hp : Machine.Paced PersistentOp.Ticks t ops) :
    ∃ s, PersistentReplayStore.openWithTtl K t file ttl = .ok s ∧
      ((PersistentReplayStore.machine K).outputs s ops).filterMap PersistentAnswer.answer? =
        ReplayStore.machine.outputs (.withTtl ttl) (ops.filterMap PersistentOp.call?) ∧
      ∀ answer, .restored answer ∈ (PersistentReplayStore.machine K).outputs s ops →
        answer = .ok () := by
  have hstart := PersistentReplayStore.mirrors_start (K := K) ttl t hfile
  have hopen : PersistentReplayStore.openWithTtl K t file ttl = .ok ⟨.withTtl ttl, file⟩ := by
    cases file with
    | none => rfl
    | some contents => exact if_pos (hfile contents rfl)
  have hstep : ∀ (t : UInt64) (op : PersistentOp) (t' : UInt64) s m, op.Ticks t t' →
      PersistentReplayStore.Mirrors K t s m →
      (PersistentReplayStore.machine K s op).output =
          (PersistentReplayStore.uninterrupted m op).output ∧
        PersistentReplayStore.Mirrors K t' (PersistentReplayStore.machine K s op).next
          (PersistentReplayStore.uninterrupted m op).next :=
    fun _ _ _ _ _ htick h => h.step hK htick
  have houtputs : (PersistentReplayStore.machine K).outputs ⟨.withTtl ttl, file⟩ ops =
      PersistentReplayStore.uninterrupted.outputs (.withTtl ttl) ops :=
    (PersistentReplayStore.machine K).outputs_eq_of_simulation PersistentReplayStore.uninterrupted
      (fun t op t' s m htick h => (hstep t op t' s m htick h).1)
      (fun t op t' s m htick h => (hstep t op t' s m htick h).2) hp hstart
  refine ⟨_, hopen, ?_, ?_⟩
  · rw [houtputs, PersistentReplayStore.answers_uninterrupted]
  · rw [houtputs]
    exact fun answer h => PersistentReplayStore.restored_uninterrupted _ ops h

theorem reference_readsBack : PersistentReplayStore.ReadsBack .reference where
  parses := Crates.reference_parsesPretty
  opens := by
    intro data
    obtain ⟨m, members, hobject⟩ : ∃ m members, data.toJson = .object (m :: members) := ⟨_, _, rfl⟩
    rw [Crates.reference_pretty, JsonText.toText, String.toList_ofList, hobject, JsonText.print]
    exact ⟨_, rfl⟩

/-- The tables are written as they are stored. -/
def storedOrder : IterationOrder := ⟨id, id, List.Perm.refl, List.Perm.refl⟩

theorem restarts_are_invisible_sample :
    ∃ s, PersistentReplayStore.openWithTtl .reference 100 none 60 = .ok s ∧
      ((PersistentReplayStore.machine .reference).outputs s
        [.call (.recordNonce 100 100 100 ⟨Bytes.zero 32⟩ none) storedOrder, .reopen 120,
          .call (.checkNonce 130 ⟨Bytes.zero 32⟩) storedOrder]).filterMap PersistentAnswer.answer? =
        ReplayStore.machine.outputs (.withTtl 60)
          [.recordNonce 100 100 100 ⟨Bytes.zero 32⟩ none, .checkNonce 130 ⟨Bytes.zero 32⟩] := by
  have hp : Machine.Paced PersistentOp.Ticks 100
      [.call (.recordNonce 100 100 100 ⟨Bytes.zero 32⟩ none) storedOrder, .reopen 120,
        .call (.checkNonce 130 ⟨Bytes.zero 32⟩) storedOrder] := by
    refine .cons (show ReplayOp.Ticks _ _ 100 from ⟨by decide, by decide, by decide, rfl⟩) ?_
    refine .cons (show PersistentOp.Ticks _ (.reopen 120) 120 from ⟨by decide, rfl⟩) ?_
    exact .cons (show ReplayOp.Ticks _ _ 130 from ⟨by decide, rfl⟩) (.nil 130)
  obtain ⟨s, hs, houtputs, -⟩ := restarts_are_invisible .reference reference_readsBack 60 100 none
    (fun contents h => nomatch h) _ hp
  exact ⟨s, hs, houtputs⟩

end BlindOverlap
