import BlindOverlap.Invite
import BlindOverlap.LeaseChain
import BlindOverlap.Reference

/-!
# What the signatures of tickets and leases fix

Both payloads end the session identifier by a NUL, which the identifier may contain, and
both have one optional part of 32 bytes, as long as the issuer's key. An identifier that is
32 bytes longer makes up for the part that is missing.
-/
namespace BlindOverlap

/-- Two identifiers, each ended by a NUL before a key, run into each other over exactly the
width of that key if one of the rests is longer by as much. -/
theorem runsInto_key_iff {session session' rest rest' : List UInt8} {key key' : Bytes 32}
    (hlength : rest.length = rest'.length + 32) :
    Framing.RunsInto session (0 :: (key.toList ++ rest)) session' (0 :: (key'.toList ++ rest')) ↔
      ∃ hidden, session' = session ++ 0 :: hidden ∧ key.toList = hidden ++ [0] ∧
        rest = key'.toList ++ rest' := by
  constructor
  · rintro ⟨t, ht, hsession, h⟩
    obtain ⟨b, hidden, rfl⟩ := List.exists_cons_of_ne_nil ht
    obtain ⟨rfl, hkeys⟩ := List.cons.inj h
    have hassoc : hidden ++ 0 :: (key'.toList ++ rest') =
        (hidden ++ [0]) ++ (key'.toList ++ rest') := by
      simp
    obtain ⟨hkey, hrest⟩ := List.append_inj' (hkeys.trans hassoc) (by
      rw [List.length_append, key'.length_toList]
      omega)
    exact ⟨hidden, hsession, hkey, hrest⟩
  · rintro ⟨hidden, hsession, hkey, hrest⟩
    exact ⟨0 :: hidden, by simp, hsession, by simp [hkey, hrest]⟩

theorem not_runsInto_key {session session' rest rest' : List UInt8} {key key' : Bytes 32}
    (hlength : rest.length ≤ rest'.length) :
    ¬ Framing.RunsInto session (0 :: (key.toList ++ rest)) session'
      (0 :: (key'.toList ++ rest')) := by
  intro h
  have := h.length_lt
  simp only [List.length_cons, List.length_append, Bytes.length_toList] at this
  omega

/-! ## Tickets -/

namespace InviteTicket

/-- The same permission. -/
structure SameTerms (t u : InviteTicket) : Prop where
  sessionId : t.sessionId = u.sessionId
  issuerPubkey : t.issuerPubkey = u.issuerPubkey
  peerPubkey : t.peerPubkey = u.peerPubkey
  allowedMode : t.allowedMode = u.allowedMode
  issuedAt : t.issuedAt = u.issuedAt
  expiresAt : t.expiresAt = u.expiresAt

def scopeBytes (t : InviteTicket) : List UInt8 :=
  t.allowedMode.modeByte :: (leBytes 8 t.issuedAt.toNat ++ leBytes 8 t.expiresAt.toNat)

def peerBytes (t : InviteTicket) : List UInt8 :=
  t.peerPubkey.elim [0] (fun p => 1 :: p.bytes.toList)

theorem payload_eq_append (t : InviteTicket) :
    t.payload = (inviteTicketDomain ++ [0]) ++ (utf8 t.sessionId ++
      0 :: (t.issuerPubkey.bytes.toList ++ (t.peerBytes ++ t.scopeBytes))) := by
  unfold payload computePayload peerBytes scopeBytes
  simp only [List.append_assoc, List.cons_append, List.nil_append]

/-- `u` is open to any peer. Its identifier takes in the issuer of `t`, and its issuer the
peer of `t`; both keys end in a zero byte. -/
structure TradesPeer (t u : InviteTicket) : Prop where
  keys : ∃ p hidden, t.peerPubkey = some p ∧ u.peerPubkey = none ∧
    utf8 u.sessionId = utf8 t.sessionId ++ 0 :: hidden ∧
    t.issuerPubkey.bytes.toList = hidden ++ [0] ∧
    1 :: p.bytes.toList = u.issuerPubkey.bytes.toList ++ [0]
  allowedMode : t.allowedMode = u.allowedMode
  issuedAt : t.issuedAt = u.issuedAt
  expiresAt : t.expiresAt = u.expiresAt

theorem mode_read {m m' : AllowedMode} (h : m.modeByte = m'.modeByte) : m = m' := by
  cases m <;> cases m' <;> first | rfl | exact absurd h (by decide)

theorem scope_iff {t u : InviteTicket} :
    t.scopeBytes = u.scopeBytes ↔
      t.allowedMode = u.allowedMode ∧ t.issuedAt = u.issuedAt ∧ t.expiresAt = u.expiresAt := by
  constructor
  · intro h
    obtain ⟨hmode, h⟩ := List.cons.inj h
    obtain ⟨hissued, hexpires⟩ := Framing.SelfDelimiting.uint64 h
    exact ⟨mode_read hmode, hissued, Framing.SelfDelimiting.uint64.injective hexpires⟩
  · rintro ⟨hmode, hissued, hexpires⟩
    rw [scopeBytes, scopeBytes, hmode, hissued, hexpires]

theorem length_scopeBytes (t : InviteTicket) : t.scopeBytes.length = 17 := by
  simp [scopeBytes]

theorem sameTerms_iff {t u : InviteTicket} :
    t.SameTerms u ↔ utf8 t.sessionId = utf8 u.sessionId ∧
      0 :: (t.issuerPubkey.bytes.toList ++ (t.peerBytes ++ t.scopeBytes)) =
        0 :: (u.issuerPubkey.bytes.toList ++ (u.peerBytes ++ u.scopeBytes)) := by
  constructor
  · intro h
    rw [scope_iff.mpr ⟨h.allowedMode, h.issuedAt, h.expiresAt⟩, peerBytes, peerBytes, h.peerPubkey,
      h.issuerPubkey, h.sessionId]
    exact ⟨rfl, rfl⟩
  · rintro ⟨hid, h⟩
    obtain ⟨hissuer, h⟩ := PublicIdentity.bytes_selfDelimiting (List.cons.inj h).2
    obtain ⟨hpeer, hscope⟩ := PublicIdentity.bytes_selfDelimiting.marked h
    obtain ⟨hmode, hissued, hexpires⟩ := scope_iff.mp hscope
    exact ⟨utf8_injective hid, hissuer, hpeer, hmode, hissued, hexpires⟩

theorem length_peerBytes (t : InviteTicket) :
    t.peerBytes.length = if t.peerPubkey.isSome then 33 else 1 := by
  unfold peerBytes
  cases t.peerPubkey with
  | none => rfl
  | some p => simp [Bytes.length_toList]

theorem runsInto_iff {t u : InviteTicket} :
    Framing.RunsInto (utf8 t.sessionId)
        (0 :: (t.issuerPubkey.bytes.toList ++ (t.peerBytes ++ t.scopeBytes))) (utf8 u.sessionId)
        (0 :: (u.issuerPubkey.bytes.toList ++ (u.peerBytes ++ u.scopeBytes))) ↔
      t.TradesPeer u := by
  have hlength : ∀ x : InviteTicket, (x.peerBytes ++ x.scopeBytes).length =
      if x.peerPubkey.isSome then 50 else 18 := by
    intro x
    rw [List.length_append, length_peerBytes, length_scopeBytes]
    split_ifs <;> rfl
  constructor
  · intro h
    cases ht : t.peerPubkey with
    | none =>
      refine absurd h (not_runsInto_key ?_)
      rw [hlength, hlength, ht]
      split_ifs <;> simp_all
    | some p =>
      cases hu : u.peerPubkey with
      | some p' =>
        refine absurd h (not_runsInto_key ?_)
        rw [hlength, hlength, ht, hu]
        exact le_refl _
      | none =>
        rw [runsInto_key_iff (by rw [hlength, hlength, ht, hu]; rfl)] at h
        obtain ⟨hidden, hid, hissuer, hrest⟩ := h
        rw [← List.append_assoc] at hrest
        obtain ⟨hpeer, hscope⟩ := List.append_inj' hrest
          (by rw [length_scopeBytes, length_scopeBytes])
        obtain ⟨hmode, hissued, hexpires⟩ := scope_iff.mp hscope
        rw [peerBytes, peerBytes, ht, hu] at hpeer
        exact ⟨⟨p, hidden, ht, hu, hid, hissuer, hpeer⟩, hmode, hissued, hexpires⟩
  · rintro ⟨⟨p, hidden, ht, hu, hid, hissuer, hpeer⟩, hmode, hissued, hexpires⟩
    rw [runsInto_key_iff (by rw [hlength, hlength, ht, hu]; rfl)]
    refine ⟨hidden, hid, hissuer, ?_⟩
    rw [scope_iff.mpr ⟨hmode, hissued, hexpires⟩, peerBytes, peerBytes, ht, hu, ← List.append_assoc]
    exact congrArg (· ++ u.scopeBytes) hpeer

/-- Two tickets are signed as different payloads unless one trades its peer for a longer
session identifier. -/
theorem terms_distinguished_iff (t u : InviteTicket) :
    (¬ t.SameTerms u → t.payload ≠ u.payload) ↔ ¬ t.TradesPeer u ∧ ¬ u.TradesPeer t := by
  rw [payload_eq_append, payload_eq_append, Ne, List.append_cancel_left_eq, ← runsInto_iff,
    ← runsInto_iff]
  exact Framing.distinguished_iff sameTerms_iff

end InviteTicket

/-! ## Leases -/

namespace SessionLease

/-- The same permission. -/
structure SameTerms (l m : SessionLease) : Prop where
  sessionId : l.sessionId = m.sessionId
  issuerPubkey : l.issuerPubkey = m.issuerPubkey
  peerPubkey : l.peerPubkey = m.peerPubkey
  issuedAt : l.issuedAt = m.issuedAt
  expiresAt : l.expiresAt = m.expiresAt
  renewCount : l.renewCount = m.renewCount
  parentLeaseId : l.parentLeaseId = m.parentLeaseId

/-- The times and the count, without the parent. -/
def clockBytes (l : SessionLease) : List UInt8 :=
  leBytes 8 l.issuedAt.toNat ++ leBytes 8 l.expiresAt.toNat ++ leBytes 4 l.renewCount.toNat

theorem length_clockBytes (l : SessionLease) : l.clockBytes.length = 20 := by
  simp [clockBytes]

theorem timesBytes_eq (l : SessionLease) :
    l.timesBytes = l.clockBytes ++ l.parentLeaseId.elim [0] (fun parent => 1 :: parent.toList) :=
  rfl

/-- `m` is a first lease. Its identifier takes in the issuer of `l`, which ends in a zero
byte, its issuer is the peer of `l`, and its peer begins with the times of `l`. The end of
the parent of `l` is the times of `m`. -/
def TradesParent (l m : SessionLease) : Prop :=
  ∃ q hidden front, l.parentLeaseId = some q ∧ m.parentLeaseId = none ∧
    utf8 m.sessionId = utf8 l.sessionId ++ 0 :: hidden ∧
    l.issuerPubkey.bytes.toList = hidden ++ [0] ∧ m.issuerPubkey = l.peerPubkey ∧
    m.peerPubkey.bytes.toList = l.clockBytes ++ 1 :: front ∧
    q.toList = front ++ (m.clockBytes ++ [0])

theorem times_iff {l m : SessionLease} :
    l.timesBytes = m.timesBytes ↔ l.issuedAt = m.issuedAt ∧ l.expiresAt = m.expiresAt ∧
      l.renewCount = m.renewCount ∧ l.parentLeaseId = m.parentLeaseId := by
  constructor
  · intro h
    unfold timesBytes at h
    simp only [List.append_assoc] at h
    obtain ⟨hissued, h⟩ := Framing.SelfDelimiting.uint64 h
    obtain ⟨hexpires, h⟩ := Framing.SelfDelimiting.uint64 h
    obtain ⟨hcount, h⟩ := Framing.SelfDelimiting.uint32 h
    exact ⟨hissued, hexpires, hcount, (Framing.SelfDelimiting.bytes 32).marked.injective h⟩
  · rintro ⟨hissued, hexpires, hcount, hparent⟩
    rw [timesBytes, timesBytes, hissued, hexpires, hcount, hparent]

theorem length_timesBytes (l : SessionLease) :
    l.timesBytes.length = if l.parentLeaseId.isSome then 53 else 21 := by
  rw [timesBytes_eq, List.length_append, length_clockBytes]
  cases l.parentLeaseId with
  | none => rfl
  | some q => simp [Bytes.length_toList]

theorem sameTerms_iff {l m : SessionLease} :
    l.SameTerms m ↔ utf8 l.sessionId = utf8 m.sessionId ∧
      0 :: (l.issuerPubkey.bytes.toList ++ (l.peerPubkey.bytes.toList ++ l.timesBytes)) =
        0 :: (m.issuerPubkey.bytes.toList ++ (m.peerPubkey.bytes.toList ++ m.timesBytes)) := by
  constructor
  · intro h
    rw [times_iff.mpr ⟨h.issuedAt, h.expiresAt, h.renewCount, h.parentLeaseId⟩, h.peerPubkey,
      h.issuerPubkey, h.sessionId]
    exact ⟨rfl, rfl⟩
  · rintro ⟨hid, h⟩
    obtain ⟨hissuer, h⟩ := PublicIdentity.bytes_selfDelimiting (List.cons.inj h).2
    obtain ⟨hpeer, h⟩ := PublicIdentity.bytes_selfDelimiting h
    obtain ⟨hissued, hexpires, hcount, hparent⟩ := times_iff.mp h
    exact ⟨utf8_injective hid, hissuer, hpeer, hissued, hexpires, hcount, hparent⟩

/-- Where a lease has a parent, and another has none, the peer of the second one reaches
over the times of the first into its parent. -/
theorem parent_iff {l m : SessionLease} {q : Bytes 32} (hl : l.parentLeaseId = some q)
    (hm : m.parentLeaseId = none) :
    l.timesBytes = m.peerPubkey.bytes.toList ++ m.timesBytes ↔
      ∃ front, m.peerPubkey.bytes.toList = l.clockBytes ++ 1 :: front ∧
        q.toList = front ++ (m.clockBytes ++ [0]) := by
  rw [timesBytes_eq, timesBytes_eq, hl, hm, Option.elim_some, Option.elim_none]
  constructor
  · intro h
    have hpeer := m.peerPubkey.bytes.length_toList
    rcases List.append_eq_append_iff.mp h with ⟨t, ht, hrest⟩ | ⟨t, ht, -⟩
    · cases t with
      | nil =>
        rw [ht, List.append_nil, length_clockBytes] at hpeer
        omega
      | cons mark front =>
        obtain ⟨rfl, hq⟩ := List.cons.inj hrest
        exact ⟨front, ht, hq⟩
    · have hclock := l.length_clockBytes
      rw [ht, List.length_append, hpeer] at hclock
      omega
  · rintro ⟨front, hpeer, hq⟩
    rw [hpeer, hq]
    simp

theorem runsInto_iff {l m : SessionLease} :
    Framing.RunsInto (utf8 l.sessionId)
        (0 :: (l.issuerPubkey.bytes.toList ++ (l.peerPubkey.bytes.toList ++ l.timesBytes)))
        (utf8 m.sessionId)
        (0 :: (m.issuerPubkey.bytes.toList ++ (m.peerPubkey.bytes.toList ++ m.timesBytes))) ↔
      l.TradesParent m := by
  have hlength : ∀ x : SessionLease, (x.peerPubkey.bytes.toList ++ x.timesBytes).length =
      if x.parentLeaseId.isSome then 85 else 53 := by
    intro x
    rw [List.length_append, length_timesBytes, Bytes.length_toList]
    split_ifs <;> rfl
  constructor
  · intro h
    cases hl : l.parentLeaseId with
    | none =>
      refine absurd h (not_runsInto_key ?_)
      rw [hlength, hlength, hl]
      split_ifs <;> simp_all
    | some q =>
      cases hm : m.parentLeaseId with
      | some q' =>
        refine absurd h (not_runsInto_key ?_)
        rw [hlength, hlength, hl, hm]
        exact le_refl _
      | none =>
        rw [runsInto_key_iff (by rw [hlength, hlength, hl, hm]; rfl)] at h
        obtain ⟨hidden, hid, hissuer, hrest⟩ := h
        obtain ⟨hpeer, htimes⟩ := PublicIdentity.bytes_selfDelimiting hrest
        obtain ⟨front, hfront, hq⟩ := (parent_iff hl hm).mp htimes
        exact ⟨q, hidden, front, hl, hm, hid, hissuer, hpeer.symm, hfront, hq⟩
  · rintro ⟨q, hidden, front, hl, hm, hid, hissuer, hpeer, hfront, hq⟩
    rw [runsInto_key_iff (by rw [hlength, hlength, hl, hm]; rfl)]
    refine ⟨hidden, hid, hissuer, ?_⟩
    rw [(parent_iff hl hm).mpr ⟨front, hfront, hq⟩, hpeer]

/-- Two leases are signed as different payloads unless one trades its parent for a longer
session identifier. -/
theorem terms_distinguished_iff (l m : SessionLease) :
    (¬ l.SameTerms m → l.payload ≠ m.payload) ↔ ¬ l.TradesParent m ∧ ¬ m.TradesParent l := by
  rw [payload_eq_append, payload_eq_append, Ne, List.append_cancel_left_eq, ← runsInto_iff,
    ← runsInto_iff]
  exact Framing.distinguished_iff sameTerms_iff

end SessionLease

/-! ## Both payloads -/

/-- Tickets and leases are signed as different payloads, trades of an optional part for a
longer session identifier apart. -/
theorem grants_distinguished_iff (t u : InviteTicket) (l m : SessionLease) :
    ((¬ t.SameTerms u → t.payload ≠ u.payload) ↔ ¬ t.TradesPeer u ∧ ¬ u.TradesPeer t) ∧
      ((¬ l.SameTerms m → l.payload ≠ m.payload) ↔ ¬ l.TradesParent m ∧ ¬ m.TradesParent l) :=
  ⟨InviteTicket.terms_distinguished_iff t u, SessionLease.terms_distinguished_iff l m⟩

/-- A ticket for one peer, its issuer's key ending in a zero byte. -/
def peerTicket : InviteTicket where
  version := 1
  sessionId := "s"
  issuerPubkey := ⟨spelled "issuer-key-02iiiiiiiiiiiiiiiiii\x00"⟩
  peerPubkey := some ⟨spelled "peer-key-00pppppppppppppppppppp\x00"⟩
  allowedMode := .any
  issuedAt := 1699959635
  expiresAt := 1699961435
  signature := Bytes.zero 64

/-- The same bytes as a ticket for any peer, in another session. -/
def openTicket : InviteTicket :=
  { peerTicket with
    sessionId := "s\x00issuer-key-02iiiiiiiiiiiiiiiiii"
    issuerPubkey := ⟨spelled "\x01peer-key-00pppppppppppppppppppp"⟩
    peerPubkey := none }

/-- A renewed lease. -/
def renewedLease : SessionLease where
  version := 1
  sessionId := "s"
  issuerPubkey := ⟨spelled "issuer-key-02iiiiiiiiiiiiiiiiii\x00"⟩
  peerPubkey := ⟨spelled "peer-key-00ppppppppppppppppppppp"⟩
  issuedAt := 1699959635
  expiresAt := 1699961435
  renewCount := 1
  parentLeaseId := some (spelled ("q00qqqqqqqqSSSe\x00\x00\x00\x00[ZSe\x00\x00\x00\x00" ++
    "\x00\x00\x00\x00\x00"))
  signature := Bytes.zero 64

/-- The same bytes as a first lease, in another session. -/
def firstLease : SessionLease :=
  { renewedLease with
    sessionId := "s\x00issuer-key-02iiiiiiiiiiiiiiiiii"
    issuerPubkey := renewedLease.peerPubkey
    peerPubkey := ⟨spelled ("SSSe\x00\x00\x00\x00[ZSe\x00\x00\x00\x00\x01\x00\x00\x00" ++
      "\x01q00qqqqqqqq")⟩
    renewCount := 0
    parentLeaseId := none }

theorem grants_confused :
    ¬ (¬ peerTicket.SameTerms openTicket → peerTicket.payload ≠ openTicket.payload) ∧
      ¬ (¬ renewedLease.SameTerms firstLease → renewedLease.payload ≠ firstLease.payload) := by
  have hticket : ¬ peerTicket.SameTerms openTicket := fun h => absurd h.peerPubkey (by decide)
  have hlease : ¬ renewedLease.SameTerms firstLease := fun h => absurd h.parentLeaseId (by decide)
  have htickets : peerTicket.payload = openTicket.payload := by decide +kernel
  have hleases : renewedLease.payload = firstLease.payload := by decide +kernel
  exact ⟨fun h => h hticket htickets, fun h => h hlease hleases⟩

end BlindOverlap
