import BlindOverlap.ArtefactCodec
import BlindOverlap.Lib.KeyedMap
import BlindOverlap.Lib.Machine
import BlindOverlap.Lib.Text

/-!
# The book of trusted peers

A map from keys to peers with a copy in a file, which is written after every change and
read when the book is opened or reloaded.
-/
namespace BlindOverlap

open Json (Slot Keeps)

/-- What can go wrong in a book. A key is named in hexadecimal. -/
inductive PeerBookError where
  | duplicatePeer (pubkey : String)
  | peerNotFound (pubkey : String)
  | json (e : JsonError)
  deriving DecidableEq

/-- A peer with a name for it, and when it was added. -/
structure TrustedPeer where
  pubkey : PublicIdentity
  nickname : Option String
  addedAt : UInt64
  deriving DecidableEq

namespace TrustedPeer

/-- The bytes that a peer is stored under. -/
def key (p : TrustedPeer) : Bytes 32 := p.pubkey.bytes

def fieldNames : List String := ["pubkey", "nickname", "added_at"]

/-- A peer without a nickname is written without that member. -/
def fields (p : TrustedPeer) : List (String × Option Json) :=
  [("pubkey", some p.pubkey.serialize), ("nickname", p.nickname.map .string),
    ("added_at", some (Json.ofUInt64 p.addedAt))]

/-- The key has to decode, so a book never holds one that does not. -/
def ofSlots (K : Crates) : List Slot → Except DecodeError TrustedPeer
  | [pubkey, nickname, addedAt] => do
    return {
      pubkey := ← pubkey.required "pubkey" (PublicIdentity.fromJson K)
      nickname := ← nickname.optional Json.asString
      addedAt := ← addedAt.required "added_at" Json.asUInt64 }
  | _ => throw .invalidLength

def serialize (p : TrustedPeer) : Json := Json.record p.fields

def deserialize (K : Crates) : Json → Except DecodeError TrustedPeer :=
  Json.readRecord fieldNames (ofSlots K)

theorem keeps {K : Crates} {p : TrustedPeer} {n : ℕ} (h : p.pubkey.Decodes K) :
    Keeps (n + 1) serialize (deserialize K) p := by
  have hpubkey : Keeps n _ _ _ := PublicIdentity.keeps h
  have hnickname : ∀ s ∈ p.nickname, Keeps n .string Json.asString s :=
    fun s _ => Json.keeps_string s
  have hnames : fieldNames = p.fields.map Prod.fst := rfl
  refine Json.keeps_record hnames (show fieldNames.Nodup by decide) ?_ ?_
  · simp [fields, ofSlots, hpubkey.read_write, Keeps.optional hnickname]
  · simp [fields, hpubkey.storable, Keeps.storableField hnickname]

end TrustedPeer

/-- What the file holds. -/
structure StoredPeerBook where
  version : UInt8
  peers : List TrustedPeer

namespace StoredPeerBook

def peersToJson (peers : List TrustedPeer) : Json := .array (peers.map TrustedPeer.serialize)

def fieldNames : List String := ["version", "peers"]

def fields (b : StoredPeerBook) : List (String × Option Json) :=
  [("version", some (Json.ofUInt8 b.version)), ("peers", some (peersToJson b.peers))]

/-- The version is read and compared with nothing. -/
def ofSlots (K : Crates) : List Slot → Except DecodeError StoredPeerBook
  | [version, peers] => do
    return {
      version := ← version.required "version" Json.asUInt8
      peers := ← peers.required "peers" (Json.asList (TrustedPeer.deserialize K)) }
  | _ => throw .invalidLength

def serialize (b : StoredPeerBook) : Json := Json.record b.fields

def deserialize (K : Crates) : Json → Except DecodeError StoredPeerBook :=
  Json.readRecord fieldNames (ofSlots K)

theorem keeps {K : Crates} {b : StoredPeerBook} {n : ℕ}
    (h : ∀ p ∈ b.peers, p.pubkey.Decodes K) : Keeps (n + 3) serialize (deserialize K) b := by
  have hpeers : Keeps (n + 2) peersToJson (Json.asList (TrustedPeer.deserialize K)) b.peers :=
    Json.keeps_list (fun p hp => TrustedPeer.keeps (h p hp))
  have hnames : fieldNames = b.fields.map Prod.fst := rfl
  refine Json.keeps_record hnames (show fieldNames.Nodup by decide) ?_ ?_
  · simp [fields, ofSlots, hpeers.read_write]
  · simp [fields, hpeers.storable]

end StoredPeerBook

/-- An order in which the map happens to be iterated. -/
structure PeerOrder where
  arrange : List TrustedPeer → List TrustedPeer
  perm : ∀ l, (arrange l).Perm l

/-- A book, and what its file holds if there is one. -/
structure TrustedPeerBook where
  path : String
  file : Option String
  peers : Std.HashMap (Bytes 32) TrustedPeer

namespace TrustedPeerBook

/-- Peers by the time they were added; those of one second stand as the map was iterated. -/
def list (order : PeerOrder) (b : TrustedPeerBook) : List TrustedPeer :=
  (order.arrange (b.peers.toList.map Prod.snd)).insertionSort (fun p q => p.addedAt ≤ q.addedAt)

/-- A book in memory has no path and is not written. -/
def save (K : Crates) (order : PeerOrder) (b : TrustedPeerBook) : TrustedPeerBook :=
  if b.path = "" then b
  else { b with file := some (K.jsonToStringPretty (StoredPeerBook.serialize ⟨1, b.list order⟩)) }

/-- An empty file is passed over, without a change of the map. -/
def load (K : Crates) (contents : String) (b : TrustedPeerBook) :
    Except PeerBookError TrustedPeerBook :=
  if Text.trimsToEmpty contents then .ok b
  else
    match K.fromStr (StoredPeerBook.deserialize K) contents with
    | .error e => .error (.json e)
    | .ok stored => .ok { b with peers := KeyedMap.insertAll TrustedPeer.key ∅ stored.peers }

/-- A file that is not there yet is an empty book. -/
def openAt (K : Crates) (path : String) (file : Option String) :
    Except PeerBookError TrustedPeerBook :=
  match file with
  | none => .ok ⟨path, file, ∅⟩
  | some contents => load K contents ⟨path, file, ∅⟩

/-- The empty path stands for no file. -/
def inMemory : TrustedPeerBook := ⟨"", none, ∅⟩

/-- A known key is refused, whatever its nickname, and the file is then not written. -/
def add (K : Crates) (order : PeerOrder) (now : UInt64) (pubkey : PublicIdentity)
    (nickname : Option String) (b : TrustedPeerBook) :
    Step TrustedPeerBook (Except PeerBookError Unit) :=
  if b.peers.contains pubkey.bytes then ⟨.error (.duplicatePeer pubkey.toHex), b⟩
  else
    let entry := ⟨pubkey, nickname, now⟩
    ⟨.ok (), { b with peers := b.peers.insert pubkey.bytes entry }.save K order⟩

/-- The removed peer is handed over. -/
def remove (K : Crates) (order : PeerOrder) (pubkey : PublicIdentity) (b : TrustedPeerBook) :
    Step TrustedPeerBook (Except PeerBookError TrustedPeer) :=
  match b.peers[pubkey.bytes]? with
  | none => ⟨.error (.peerNotFound pubkey.toHex), b⟩
  | some peer => ⟨.ok peer, { b with peers := b.peers.erase pubkey.bytes }.save K order⟩

def lookup (b : TrustedPeerBook) (pubkey : PublicIdentity) : Option TrustedPeer :=
  b.peers[pubkey.bytes]?

def isTrusted (b : TrustedPeerBook) (pubkey : PublicIdentity) : Bool :=
  b.peers.contains pubkey.bytes

/-- Looking a peer up, with an error for one that is not there. -/
def requireTrusted (b : TrustedPeerBook) (pubkey : PublicIdentity) :
    Except PeerBookError TrustedPeer :=
  match b.lookup pubkey with
  | some peer => .ok peer
  | none => .error (.peerNotFound pubkey.toHex)

def len (b : TrustedPeerBook) : ℕ := b.peers.size

/-- Writing the file without a change. -/
def flush (K : Crates) (order : PeerOrder) (b : TrustedPeerBook) : TrustedPeerBook :=
  b.save K order

/-- Without a file the book stays as it is. -/
def reload (K : Crates) (b : TrustedPeerBook) : Except PeerBookError TrustedPeerBook :=
  match b.file with
  | none => .ok b
  | some contents => b.load K contents

end TrustedPeerBook

/-! ## The book as a machine -/

/-- Keys come with the check that every public identity has passed. -/
inductive PeerOp (K : Crates) where
  | add (order : PeerOrder) (now : UInt64) (pubkey : {p : PublicIdentity // p.Decodes K})
      (nickname : Option String)
  | remove (order : PeerOrder) (pubkey : {p : PublicIdentity // p.Decodes K})
  | flush (order : PeerOrder)
  | reload
  /-- The book is dropped, and opened again at its path. -/
  | reopen

namespace TrustedPeerBook

/-- Only removing hands anything over. -/
def machine (K : Crates) :
    Machine TrustedPeerBook (PeerOp K) (Except PeerBookError (Option TrustedPeer))
  | b, .add order now pubkey nickname =>
    (b.add K order now pubkey.1 nickname).mapOk (fun _ => none)
  | b, .remove order pubkey => (b.remove K order pubkey.1).mapOk some
  | b, .flush order => ⟨.ok none, b.flush K order⟩
  | b, .reload =>
    match b.reload K with
    | .error e => ⟨.error e, b⟩
    | .ok b' => ⟨.ok none, b'⟩
  | b, .reopen =>
    match openAt K b.path b.file with
    | .error e => ⟨.error e, b⟩
    | .ok b' => ⟨.ok none, b'⟩

/-! ## What the calls can do -/

theorem isTrusted_eq (b : TrustedPeerBook) (pubkey : PublicIdentity) :
    b.isTrusted pubkey = (b.lookup pubkey).isSome :=
  Std.HashMap.contains_eq_isSome_getElem?

/-- A key that is there is refused; another is inserted and the book is saved. -/
theorem add_cases (K : Crates) (order : PeerOrder) (now : UInt64) (pubkey : PublicIdentity)
    (nickname : Option String) (b : TrustedPeerBook) :
    ((∃ peer, b.lookup pubkey = some peer) ∧
      b.add K order now pubkey nickname = ⟨.error (.duplicatePeer pubkey.toHex), b⟩) ∨
    (b.lookup pubkey = none ∧ b.add K order now pubkey nickname =
      ⟨.ok (), { b with peers := b.peers.insert pubkey.bytes ⟨pubkey, nickname, now⟩ }.save K
        order⟩) := by
  have hcontains : b.peers.contains pubkey.bytes = (b.lookup pubkey).isSome :=
    isTrusted_eq b pubkey
  cases hl : b.lookup pubkey with
  | some peer => exact .inl ⟨⟨peer, rfl⟩, by simp [add, hcontains, hl]⟩
  | none => exact .inr ⟨rfl, by simp [add, hcontains, hl]⟩

/-- A key that is not there is refused; another is erased and the book is saved. -/
theorem remove_cases (K : Crates) (order : PeerOrder) (pubkey : PublicIdentity)
    (b : TrustedPeerBook) :
    (b.lookup pubkey = none ∧
      b.remove K order pubkey = ⟨.error (.peerNotFound pubkey.toHex), b⟩) ∨
    ∃ peer, b.lookup pubkey = some peer ∧ b.remove K order pubkey =
      ⟨.ok peer, { b with peers := b.peers.erase pubkey.bytes }.save K order⟩ := by
  cases hl : b.lookup pubkey with
  | none => exact .inl ⟨rfl, by simp [remove, show b.peers[pubkey.bytes]? = none from hl]⟩
  | some peer =>
    exact .inr ⟨peer, rfl, by simp [remove, show b.peers[pubkey.bytes]? = some peer from hl]⟩

end TrustedPeerBook

end BlindOverlap
