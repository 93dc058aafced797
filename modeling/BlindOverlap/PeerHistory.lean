import BlindOverlap.PeerBook

/-!
# Trust follows history

What the book holds about a key is what the last successful call that named the key
left, in the map as in the file, however often the file is read again.
-/
namespace BlindOverlap

/-! ## History -/

abbrev PeerEvent (K : Crates) :=
  Event TrustedPeerBook (PeerOp K) (Except PeerBookError (Option TrustedPeer))

namespace PeerEvent
variable {K : Crates}

/-- What a successful call that names the key leaves there: the peer it adds, or nothing. -/
def leaves (key : PublicIdentity) (e : PeerEvent K) : Option (Option TrustedPeer) :=
  match e.input, e.output with
  | .add _ now pubkey nickname, .ok _ =>
    if pubkey.1 = key then some (some ⟨key, nickname, now⟩) else none
  | .remove _ pubkey, .ok _ => if pubkey.1 = key then some none else none
  | _, _ => none

/-- What the last such call in a run left. -/
def lastLeft (key : PublicIdentity) (run : List (PeerEvent K)) : Option (Option TrustedPeer) :=
  (run.filterMap (leaves key)).getLast?

theorem lastLeft_cons (key : PublicIdentity) (e : PeerEvent K) (run : List (PeerEvent K))
    (start : Option TrustedPeer) :
    (lastLeft key (e :: run)).getD start = (lastLeft key run).getD ((e.leaves key).getD start) := by
  unfold lastLeft
  cases he : e.leaves key with
  | none => rw [List.filterMap_cons_none he]; rfl
  | some left => rw [List.filterMap_cons_some he, List.getLast?_cons]; rfl

end PeerEvent

namespace TrustedPeerBook
variable {K : Crates} {b b' : TrustedPeerBook}

/-! ## The file against the map -/

/-- The peers that a file holds; an empty file holds none. -/
def storedPeers (K : Crates) (contents : String) : Except PeerBookError (List TrustedPeer) :=
  if Text.trimsToEmpty contents then .ok []
  else
    match K.fromStr (StoredPeerBook.deserialize K) contents with
    | .error e => .error (.json e)
    | .ok stored => .ok stored.peers

/-- A book with a path, whose peers stand under their keys and can be read back. -/
structure Sound (K : Crates) (b : TrustedPeerBook) : Prop where
  path : b.path ≠ ""
  keyed : KeyedMap.Keyed TrustedPeer.key b.peers
  decodes : ∀ (k : Bytes 32) peer, b.peers[k]? = some peer → peer.pubkey.Decodes K

/-- The file holds the peers of the map. -/
structure Consistent (K : Crates) (b : TrustedPeerBook) : Prop extends Sound K b where
  file_none : b.file = none → ∀ k : Bytes 32, b.peers[k]? = none
  file_some : ∀ contents ∈ b.file, ∃ peers, storedPeers K contents = .ok peers ∧
    KeyedMap.Lists TrustedPeer.key peers b.peers

theorem Sound.lists (h : Sound K b) (order : PeerOrder) :
    KeyedMap.Lists TrustedPeer.key (b.list order) b.peers :=
  h.keyed.lists.perm ((List.perm_insertionSort _ _).trans (order.perm _))

theorem pairwise_list (order : PeerOrder) (b : TrustedPeerBook) :
    (b.list order).Pairwise (fun p q => p.addedAt ≤ q.addedAt) := by
  have htotal : Std.Total (fun p q : TrustedPeer => p.addedAt ≤ q.addedAt) :=
    ⟨fun p q => UInt64.le_total p.addedAt q.addedAt⟩
  have htrans : IsTrans TrustedPeer (fun p q => p.addedAt ≤ q.addedAt) :=
    ⟨fun _ _ _ => UInt64.le_trans⟩
  exact List.pairwise_insertionSort _ _

/-- What is written is read as the peers of the map. -/
theorem Sound.save (h : Sound K b) (hparses : K.ParsesPretty) (hopens : K.OpensObjects)
    (order : PeerOrder) :
    Consistent K (b.save K order) ∧ (b.save K order).peers = b.peers := by
  have hlists := h.lists order
  have hkeeps : Json.Keeps Crates.nestingLimit StoredPeerBook.serialize
      (StoredPeerBook.deserialize K) ⟨1, b.list order⟩ :=
    StoredPeerBook.keeps (fun p hp => h.decodes _ p ((hlists.mem_iff p).mp hp))
  obtain ⟨rest, hrest⟩ := hopens ((StoredPeerBook.fields ⟨1, b.list order⟩).filterMap
    (fun f => f.2.map (fun j => (f.1, j))))
  have hblank : Text.trimsToEmpty (K.jsonToStringPretty
      (StoredPeerBook.serialize ⟨1, b.list order⟩)) = false := by
    rw [Text.trimsToEmpty, StoredPeerBook.serialize, Json.record, hrest, List.all_cons]
    rfl
  have hread : K.fromStr (StoredPeerBook.deserialize K)
      (K.jsonToStringPretty (StoredPeerBook.serialize ⟨1, b.list order⟩)) =
        .ok ⟨1, b.list order⟩ := by
    rw [Crates.fromStr_pretty hparses _ hkeeps.storable, hkeeps.read_write]
  have hsave : b.save K order = { b with file := some (K.jsonToStringPretty
      (StoredPeerBook.serialize ⟨1, b.list order⟩)) } := if_neg h.path
  rw [hsave]
  refine ⟨⟨⟨h.path, h.keyed, h.decodes⟩, fun hfile => absurd hfile (by simp),
    fun contents hc => ?_⟩, rfl⟩
  cases hc
  exact ⟨b.list order, by simp [storedPeers, hblank, hread], hlists⟩

/-- A change of one entry keeps a book sound. -/
theorem Sound.insert (h : Sound K b) {pubkey : PublicIdentity} (hkey : pubkey.Decodes K)
    (nickname : Option String) (now : UInt64) :
    Sound K { b with peers := b.peers.insert pubkey.bytes ⟨pubkey, nickname, now⟩ } := by
  refine ⟨h.path, h.keyed.insert ⟨pubkey, nickname, now⟩, fun k peer hk => ?_⟩
  rw [Std.HashMap.getElem?_insert] at hk
  split_ifs at hk
  · cases hk
    exact hkey
  · exact h.decodes k peer hk

theorem Sound.erase (h : Sound K b) (pubkey : PublicIdentity) :
    Sound K { b with peers := b.peers.erase pubkey.bytes } := by
  refine ⟨h.path, h.keyed.erase _, fun k peer hk => ?_⟩
  rw [Std.HashMap.getElem?_erase] at hk
  split_ifs at hk
  exact h.decodes k peer hk

theorem bytes_ne {p q : PublicIdentity} (h : p ≠ q) : p.bytes ≠ q.bytes :=
  fun he => h (by cases p; cases q; exact congrArg PublicIdentity.mk he)

theorem getElem?_insert_peer (m : Std.HashMap (Bytes 32) TrustedPeer) (pubkey p : PublicIdentity)
    (peer : TrustedPeer) :
    (m.insert pubkey.bytes peer)[p.bytes]? = if pubkey = p then some peer else m[p.bytes]? := by
  rw [Std.HashMap.getElem?_insert]
  by_cases hp : pubkey = p
  · simp [hp]
  · simp [hp, bytes_ne hp]

theorem getElem?_erase_peer (m : Std.HashMap (Bytes 32) TrustedPeer) (pubkey p : PublicIdentity) :
    (m.erase pubkey.bytes)[p.bytes]? = if pubkey = p then none else m[p.bytes]? := by
  rw [Std.HashMap.getElem?_erase]
  by_cases hp : pubkey = p
  · simp [hp]
  · simp [hp, bytes_ne hp]

/-- Books at the same path with the same file, whose maps hold the same. -/
structure Same (b b' : TrustedPeerBook) : Prop where
  path : b'.path = b.path
  file : b'.file = b.file
  peers : ∀ k : Bytes 32, b'.peers[k]? = b.peers[k]?

theorem Same.refl (b : TrustedPeerBook) : Same b b := ⟨rfl, rfl, fun _ => rfl⟩

theorem Consistent.of_same (h : Consistent K b) (hs : Same b b') : Consistent K b' where
  path := hs.path ▸ h.path
  keyed := fun k peer hk => h.keyed k peer (hs.peers k ▸ hk)
  decodes := fun k peer hk => h.decodes k peer (hs.peers k ▸ hk)
  file_none := fun hnone k => (hs.peers k).trans (h.file_none (hs.file ▸ hnone) k)
  file_some := by
    intro contents hc
    obtain ⟨peers, hstored, hlists⟩ := h.file_some contents (hs.file ▸ hc)
    exact ⟨peers, hstored, hlists.nodup, fun e => (hlists.mem_iff e).trans (by rw [hs.peers])⟩

/-! ## Reading the file again -/

/-- Loading takes the peers of the file, or leaves the map to an empty file. -/
theorem load_of_stored {contents : String} {peers : List TrustedPeer}
    (h : storedPeers K contents = .ok peers) :
    b.load K contents = .ok b ∧ peers = [] ∨
      b.load K contents = .ok { b with peers := KeyedMap.insertAll TrustedPeer.key ∅ peers } := by
  unfold storedPeers at h
  unfold load
  split_ifs at h ⊢
  · exact .inl ⟨rfl, (Except.ok.inj h).symm⟩
  · cases hs : K.fromStr (StoredPeerBook.deserialize K) contents with
    | error e => simp [hs] at h
    | ok stored =>
      simp only [hs, Except.ok.injEq] at h
      subst h
      exact .inr rfl

/-- Loading the file into the book itself, or into one with an empty map, gives the book. -/
theorem Consistent.load (h : Consistent K b) (start : TrustedPeerBook) {contents : String}
    (hc : contents ∈ b.file) (hpath : start.path = b.path) (hfile : start.file = b.file)
    (hpeers : (∀ k : Bytes 32, start.peers[k]? = none) ∨ start = b) :
    ∃ b', start.load K contents = .ok b' ∧ Same b b' := by
  obtain ⟨peers, hstored, hlists⟩ := h.file_some contents hc
  obtain ⟨hload, rfl⟩ | hload := load_of_stored (b := start) hstored
  · refine ⟨start, hload, hpath, hfile, fun k => ?_⟩
    rcases hpeers with hnone | rfl
    · have hempty : b.peers[k]? = none := by
        cases hk : b.peers[k]? with
        | none => rfl
        | some peer =>
          have hkey := h.keyed k peer hk
          exact absurd ((hlists.mem_iff peer).mpr (hkey.symm ▸ hk)) (by simp)
      rw [hnone, hempty]
    · rfl
  · exact ⟨_, hload, hpath, hfile, hlists.getElem?_insertAll h.keyed⟩

theorem Consistent.reload (h : Consistent K b) : ∃ b', b.reload K = .ok b' ∧ Same b b' := by
  unfold TrustedPeerBook.reload
  cases hf : b.file with
  | none => exact ⟨b, rfl, .refl b⟩
  | some contents => exact h.load b (Option.mem_def.mpr hf) rfl rfl (.inr rfl)

theorem Consistent.openAt (h : Consistent K b) :
    ∃ b', openAt K b.path b.file = .ok b' ∧ Same b b' := by
  have hempty : ∀ k : Bytes 32, (∅ : Std.HashMap (Bytes 32) TrustedPeer)[k]? = none := by simp
  unfold TrustedPeerBook.openAt
  split
  · next hf => exact ⟨_, rfl, rfl, rfl, fun k => (hempty k).trans (h.file_none hf k).symm⟩
  · next contents hf =>
    exact h.load ⟨b.path, b.file, ∅⟩ (Option.mem_def.mpr hf) rfl rfl (.inl hempty)

/-! ## One call -/

/-- A call keeps the file and the map together, and changes what is found under a key only by
what it leaves there. -/
structure Follows (K : Crates) (b : TrustedPeerBook) (op : PeerOp K) : Prop where
  consistent : Consistent K (machine K b op).next
  lookup : ∀ key, (machine K b op).next.lookup key =
    (PeerEvent.leaves key ((machine K).fire b op)).getD (b.lookup key)

theorem Consistent.follows_of_same (h : Consistent K b) {op : PeerOp K}
    (hs : Same b (machine K b op).next)
    (hleaves : ∀ key, PeerEvent.leaves key ((machine K).fire b op) = none) : Follows K b op :=
  ⟨h.of_same hs, fun key => by rw [hleaves]; exact hs.peers key.bytes⟩

section Calls
variable (hparses : K.ParsesPretty) (hopens : K.OpensObjects)
include hparses hopens

theorem Consistent.add (h : Consistent K b) (order : PeerOrder) (now : UInt64)
    (pubkey : {p : PublicIdentity // p.Decodes K}) (nickname : Option String) :
    Follows K b (.add order now pubkey nickname) := by
  obtain ⟨-, he⟩ | ⟨-, he⟩ := add_cases K order now pubkey.1 nickname b
  · exact h.follows_of_same (by simp [machine, he, Same.refl])
      (fun key => by simp [PeerEvent.leaves, Machine.fire, machine, he, Except.map])
  · have hsound := h.toSound.insert pubkey.2 nickname now
    obtain ⟨hconsistent, hpeers⟩ := hsound.save hparses hopens order
    constructor
    · simpa [machine, he] using hconsistent
    · intro key
      have hlookup : (machine K b (.add order now pubkey nickname)).next.lookup key =
          (b.peers.insert pubkey.1.bytes ⟨pubkey.1, nickname, now⟩)[key.bytes]? := by
        simp only [machine, he, Step.mapOk_next, TrustedPeerBook.lookup, hpeers]
      have hleaves : PeerEvent.leaves key ((machine K).fire b (.add order now pubkey nickname)) =
          if pubkey.1 = key then some (some ⟨key, nickname, now⟩) else none := by
        simp [PeerEvent.leaves, Machine.fire, machine, he, Except.map]
      rw [hlookup, hleaves, getElem?_insert_peer]
      by_cases hk : pubkey.1 = key
      · simp [hk]
      · simp [hk, TrustedPeerBook.lookup]

theorem Consistent.remove (h : Consistent K b) (order : PeerOrder)
    (pubkey : {p : PublicIdentity // p.Decodes K}) : Follows K b (.remove order pubkey) := by
  obtain ⟨-, he⟩ | ⟨peer, -, he⟩ := remove_cases K order pubkey.1 b
  · exact h.follows_of_same (by simp [machine, he, Same.refl])
      (fun key => by simp [PeerEvent.leaves, Machine.fire, machine, he, Except.map])
  · have hsound := h.toSound.erase pubkey.1
    obtain ⟨hconsistent, hpeers⟩ := hsound.save hparses hopens order
    constructor
    · simpa [machine, he] using hconsistent
    · intro key
      have hlookup : (machine K b (.remove order pubkey)).next.lookup key =
          (b.peers.erase pubkey.1.bytes)[key.bytes]? := by
        simp only [machine, he, Step.mapOk_next, TrustedPeerBook.lookup, hpeers]
      have hleaves : PeerEvent.leaves key ((machine K).fire b (.remove order pubkey)) =
          if pubkey.1 = key then some none else none := by
        simp [PeerEvent.leaves, Machine.fire, machine, he, Except.map]
      rw [hlookup, hleaves, getElem?_erase_peer]
      by_cases hk : pubkey.1 = key
      · simp [hk]
      · simp [hk, TrustedPeerBook.lookup]

theorem Consistent.step (h : Consistent K b) (op : PeerOp K) : Follows K b op := by
  cases op with
  | add order now pubkey nickname => exact h.add hparses hopens order now pubkey nickname
  | remove order pubkey => exact h.remove hparses hopens order pubkey
  | flush order =>
    obtain ⟨hconsistent, hpeers⟩ := h.toSound.save hparses hopens order
    exact ⟨hconsistent, fun key => congrArg (fun m => m[key.bytes]?) hpeers⟩
  | reload =>
    obtain ⟨b', hreload, hs⟩ := h.reload
    exact h.follows_of_same (by simpa [machine, hreload] using hs) (fun _ => rfl)
  | reopen =>
    obtain ⟨b', hopen, hs⟩ := h.openAt
    exact h.follows_of_same (by simpa [machine, hopen] using hs) (fun _ => rfl)

end Calls

/-! ## Whole runs -/

/-- A book that holds what the calls of a run left, and answers accordingly. -/
structure FollowsHistory (K : Crates) (run : List (PeerEvent K)) (b : TrustedPeerBook) : Prop where
  lookup : ∀ p, b.lookup p = (PeerEvent.lastLeft p run).join
  trusted : ∀ p, b.isTrusted p = true ↔ ∃ peer, PeerEvent.lastLeft p run = some (some peer)
  required : ∀ p, (∃ peer, b.requireTrusted p = .ok peer) ↔ b.isTrusted p = true
  add : ∀ order now pubkey nickname, (machine K b (.add order now pubkey nickname)).output =
    if b.isTrusted pubkey.1 then .error (.duplicatePeer pubkey.1.toHex) else .ok none
  remove : ∀ order pubkey, (machine K b (.remove order pubkey)).output =
    if b.isTrusted pubkey.1 then .ok (b.lookup pubkey.1)
    else .error (.peerNotFound pubkey.1.toHex)
  flush : ∀ order, (machine K b (.flush order)).output = .ok none
  reload : (machine K b .reload).output = .ok none
  reopen : (machine K b .reopen).output = .ok none
  file : ∀ contents ∈ b.file, ∃ peers, storedPeers K contents = .ok peers ∧
    (peers.map TrustedPeer.pubkey).Nodup ∧
    ∀ peer, peer ∈ peers ↔ b.lookup peer.pubkey = some peer
  list : ∀ order, (b.list order).Pairwise (fun p q => p.addedAt ≤ q.addedAt) ∧
    ((b.list order).map TrustedPeer.pubkey).Nodup ∧
    ∀ peer, peer ∈ b.list order ↔ b.lookup peer.pubkey = some peer

theorem nodup_pubkey {peers : List TrustedPeer} {m : Std.HashMap (Bytes 32) TrustedPeer}
    (h : KeyedMap.Lists TrustedPeer.key peers m) : (peers.map TrustedPeer.pubkey).Nodup := by
  have hbytes : peers.map TrustedPeer.key = (peers.map TrustedPeer.pubkey).map
      PublicIdentity.bytes := by rw [List.map_map]; rfl
  exact List.Nodup.of_map _ (hbytes ▸ h.nodup)

theorem Consistent.followsHistory (h : Consistent K b) {run : List (PeerEvent K)}
    (hlookup : ∀ p, b.lookup p = (PeerEvent.lastLeft p run).join) : FollowsHistory K run b where
  lookup := hlookup
  trusted := by
    intro p
    rw [isTrusted_eq, hlookup, Option.isSome_iff_exists]
    exact exists_congr (fun peer => Option.join_eq_some_iff)
  required := by
    intro p
    rw [isTrusted_eq, requireTrusted]
    cases b.lookup p <;> simp
  add := by
    intro order now pubkey nickname
    rw [isTrusted_eq]
    obtain ⟨⟨peer, hl⟩, he⟩ | ⟨hl, he⟩ := add_cases K order now pubkey.1 nickname b
    · simp [machine, he, hl, Except.map]
    · simp [machine, he, hl, Except.map]
  remove := by
    intro order pubkey
    rw [isTrusted_eq]
    obtain ⟨hl, he⟩ | ⟨peer, hl, he⟩ := remove_cases K order pubkey.1 b
    · simp [machine, he, hl, Except.map]
    · simp [machine, he, hl, Except.map]
  flush := fun _ => rfl
  reload := by
    obtain ⟨b', hreload, -⟩ := h.reload
    simp [machine, hreload]
  reopen := by
    obtain ⟨b', hopen, -⟩ := h.openAt
    simp [machine, hopen]
  file := by
    intro contents hc
    obtain ⟨peers, hstored, hlists⟩ := h.file_some contents hc
    exact ⟨peers, hstored, nodup_pubkey hlists, hlists.mem_iff⟩
  list := fun order =>
    ⟨pairwise_list order b, nodup_pubkey (h.lists order), (h.lists order).mem_iff⟩

/-- Run lemma: the file and the map stay together, and what is found under a key is what the
last call left there, or what was found at the start. -/
theorem Consistent.run (hparses : K.ParsesPretty) (hopens : K.OpensObjects)
    (h : Consistent K b) (ops : List (PeerOp K)) :
    Consistent K ((machine K).final b ops) ∧ ∀ p, ((machine K).final b ops).lookup p =
      (PeerEvent.lastLeft p ((machine K).trace b ops)).getD (b.lookup p) := by
  induction ops generalizing b with
  | nil => exact ⟨h, fun p => rfl⟩
  | cons op ops ih =>
    have hstep := h.step hparses hopens op
    obtain ⟨hconsistent, hlookup⟩ := ih hstep.consistent
    refine ⟨hconsistent, fun p => ?_⟩
    rw [Machine.final_cons, Machine.trace_cons, PeerEvent.lastLeft_cons, hlookup, hstep.lookup]

theorem consistent_start {path : String} (hpath : path ≠ "") {file : Option String}
    (hfile : ∀ contents ∈ file, Text.trimsToEmpty contents = true) :
    Consistent K ⟨path, file, ∅⟩ where
  path := hpath
  keyed := KeyedMap.keyed_empty
  decodes := fun k peer hk => by simp at hk
  file_none := fun _ k => by simp
  file_some := fun contents hc =>
    ⟨[], if_pos (hfile contents hc), List.nodup_nil, fun peer => by simp⟩

end TrustedPeerBook

/-- A book that starts without a file, or with an empty one, follows the history of the calls
made to it, in its map and in its file. -/
theorem peer_book_follows_history {K : Crates} (hparses : K.ParsesPretty)
    (hopens : K.OpensObjects) {path : String} (hpath : path ≠ "") {file : Option String}
    (hfile : ∀ contents ∈ file, Text.trimsToEmpty contents = true) (ops : List (PeerOp K)) :
    ∃ b, TrustedPeerBook.openAt K path file = .ok b ∧
      TrustedPeerBook.FollowsHistory K ((TrustedPeerBook.machine K).trace b ops)
        ((TrustedPeerBook.machine K).final b ops) := by
  have hopen : TrustedPeerBook.openAt K path file = .ok ⟨path, file, ∅⟩ := by
    cases file with
    | none => rfl
    | some contents => exact if_pos (hfile contents rfl)
  obtain ⟨hconsistent, hlookup⟩ :=
    (TrustedPeerBook.consistent_start (K := K) hpath hfile).run hparses hopens ops
  refine ⟨_, hopen, hconsistent.followsHistory (fun p => ?_)⟩
  rw [hlookup, show TrustedPeerBook.lookup ⟨path, file, ∅⟩ p = none from by
    simp [TrustedPeerBook.lookup]]
  cases PeerEvent.lastLeft p ((TrustedPeerBook.machine K).trace ⟨path, file, ∅⟩ ops) <;> rfl

/-- The map is iterated as it is stored. -/
def storedPeerOrder : PeerOrder := ⟨id, List.Perm.refl⟩

def samplePeer : {p : PublicIdentity // p.Decodes .reference} :=
  ⟨(PartyIdentity.fromSeed (filled 7)).publicIdentity .reference,
    (Crates.reference_proper (.fromSeed (filled 7))).decodes⟩

/-- Added, dropped with the book, removed, and added under another name. -/
def samplePeerOps : List (PeerOp .reference) :=
  [.flush storedPeerOrder, .add storedPeerOrder 1000 samplePeer (some "Alice"), .reopen,
    .remove storedPeerOrder samplePeer, .reload, .add storedPeerOrder 1100 samplePeer none]

theorem peer_book_follows_history_sample :
    ∃ b, TrustedPeerBook.openAt .reference "peers.json" (some "\n") = .ok b ∧
      TrustedPeerBook.FollowsHistory .reference
        ((TrustedPeerBook.machine .reference).trace b samplePeerOps)
        ((TrustedPeerBook.machine .reference).final b samplePeerOps) :=
  peer_book_follows_history Crates.reference_parsesPretty Crates.reference_opensObjects
    (by decide) (by decide) samplePeerOps

end BlindOverlap
