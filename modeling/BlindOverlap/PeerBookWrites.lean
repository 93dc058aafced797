import BlindOverlap.Reloading

/-!
# Writes of the peer book that fail

A change is made in the map before the file is written. If the file cannot be written the
call fails, and the change stays in the map until the book is opened again.
-/
namespace BlindOverlap

inductive PeerCallError where
  | book (e : PeerBookError)
  | identity (e : IdentityError)
  | io

namespace TrustedPeerBook
variable {K : Crates}

/-- Saving when the file can or cannot be written; a book in memory has none. -/
def saveIn (K : Crates) (order : PeerOrder) (written : Bool) (b : TrustedPeerBook) :
    Except PeerCallError TrustedPeerBook :=
  if b.path = "" then .ok b
  else if written then .ok (b.save K order)
  else .error .io

/-- The change that adding and removing make once nothing is in their way. -/
def changeIn {α : Type} (K : Crates) (order : PeerOrder) (written : Bool)
    (peers : Std.HashMap (Bytes 32) TrustedPeer) (value : α) (b : TrustedPeerBook) :
    Step TrustedPeerBook (Except PeerCallError α) :=
  match saveIn K order written { b with peers } with
  | .error e => ⟨.error e, { b with peers }⟩
  | .ok saved => ⟨.ok value, saved⟩

def addIn (K : Crates) (order : PeerOrder) (written : Bool) (now : UInt64)
    (pubkey : PublicIdentity) (nickname : Option String) (b : TrustedPeerBook) :
    Step TrustedPeerBook (Except PeerCallError Unit) :=
  if b.peers.contains pubkey.bytes then ⟨.error (.book (.duplicatePeer pubkey.toHex)), b⟩
  else b.changeIn K order written (b.peers.insert pubkey.bytes ⟨pubkey, nickname, now⟩) ()

def addHexIn (K : Crates) (order : PeerOrder) (written : Bool) (now : UInt64)
    (pubkeyHex : String) (nickname : Option String) (b : TrustedPeerBook) :
    Step TrustedPeerBook (Except PeerCallError Unit) :=
  match PublicIdentity.fromHex K pubkeyHex with
  | .error e => ⟨.error (.identity e), b⟩
  | .ok pubkey => b.addIn K order written now pubkey nickname

def removeIn (K : Crates) (order : PeerOrder) (written : Bool) (pubkey : PublicIdentity)
    (b : TrustedPeerBook) : Step TrustedPeerBook (Except PeerCallError TrustedPeer) :=
  match b.peers[pubkey.bytes]? with
  | none => ⟨.error (.book (.peerNotFound pubkey.toHex)), b⟩
  | some peer => b.changeIn K order written (b.peers.erase pubkey.bytes) peer

def removeHexIn (K : Crates) (order : PeerOrder) (written : Bool) (pubkeyHex : String)
    (b : TrustedPeerBook) : Step TrustedPeerBook (Except PeerCallError TrustedPeer) :=
  match PublicIdentity.fromHex K pubkeyHex with
  | .error e => ⟨.error (.identity e), b⟩
  | .ok pubkey => b.removeIn K order written pubkey

end TrustedPeerBook

/-! ## The calls -/

theorem PublicIdentity.decodes_of_fromHex {K : Crates} {s : String} {p : PublicIdentity}
    (h : PublicIdentity.fromHex K s = .ok p) : p.Decodes K := by
  unfold PublicIdentity.fromHex at h
  split at h
  · cases h
  · split at h
    · cases h
    · next bytes _ =>
      unfold PublicIdentity.fromBytes at h
      split at h
      · cases h
      · next hkey => exact Except.ok.inj h ▸ hkey

inductive PeerWrite (K : Crates) where
  | add (now : UInt64) (pubkey : {p : PublicIdentity // p.Decodes K}) (nickname : Option String)
  | addHex (now : UInt64) (pubkeyHex : String) (nickname : Option String)
  | remove (pubkey : {p : PublicIdentity // p.Decodes K})
  | removeHex (pubkeyHex : String)

namespace PeerWrite
variable {K : Crates}

/-- The key that a call is about. -/
def named : PeerWrite K → Except IdentityError PublicIdentity
  | .add _ pubkey _ => .ok pubkey.1
  | .addHex _ pubkeyHex _ => PublicIdentity.fromHex K pubkeyHex
  | .remove pubkey => .ok pubkey.1
  | .removeHex pubkeyHex => PublicIdentity.fromHex K pubkeyHex

/-- What a call is to leave under its key. -/
def leaves (pubkey : PublicIdentity) : PeerWrite K → Option TrustedPeer
  | .add now _ nickname => some ⟨pubkey, nickname, now⟩
  | .addHex now _ nickname => some ⟨pubkey, nickname, now⟩
  | .remove _ => none
  | .removeHex _ => none

/-- The call does not come to a change: its key is not one, or is there already, or is not. -/
def Refused (b : TrustedPeerBook) (w : PeerWrite K) : Prop :=
  ∀ pubkey, w.named = .ok pubkey → b.isTrusted pubkey = (w.leaves pubkey).isSome

/-- The call, given whether the file can be written. -/
def run (order : PeerOrder) (written : Bool) (b : TrustedPeerBook) :
    PeerWrite K → Step TrustedPeerBook (Except PeerCallError (Option TrustedPeer))
  | .add now pubkey nickname =>
    (b.addIn K order written now pubkey.1 nickname).mapOk (fun _ => none)
  | .addHex now pubkeyHex nickname =>
    (b.addHexIn K order written now pubkeyHex nickname).mapOk (fun _ => none)
  | .remove pubkey => (b.removeIn K order written pubkey.1).mapOk some
  | .removeHex pubkeyHex => (b.removeHexIn K order written pubkeyHex).mapOk some

theorem decodes_of_named {w : PeerWrite K} {pubkey : PublicIdentity}
    (h : w.named = .ok pubkey) : pubkey.Decodes K := by
  cases w with
  | add now pubkey' nickname => exact Except.ok.inj h ▸ pubkey'.2
  | addHex now pubkeyHex nickname => exact PublicIdentity.decodes_of_fromHex h
  | remove pubkey' => exact Except.ok.inj h ▸ pubkey'.2
  | removeHex pubkeyHex => exact PublicIdentity.decodes_of_fromHex h

/-- A call is refused and changes nothing, or makes a sound change under its key. -/
inductive RunCases (order : PeerOrder) (written : Bool) (b : TrustedPeerBook) (w : PeerWrite K)
    (step : Step TrustedPeerBook (Except PeerCallError (Option TrustedPeer))) : Prop where
  | refuses (e : PeerCallError) (hrefused : w.Refused b) (hstep : step = ⟨.error e, b⟩)
  | changes (pubkey : PublicIdentity) (hnamed : w.named = .ok pubkey)
      (hnew : b.isTrusted pubkey ≠ (w.leaves pubkey).isSome)
      (peers : Std.HashMap (Bytes 32) TrustedPeer) (value : Option TrustedPeer)
      (hpeers : ∀ p : PublicIdentity,
        peers[p.bytes]? = if pubkey = p then w.leaves pubkey else b.lookup p)
      (hsound : b.Sound K → TrustedPeerBook.Sound K { b with peers })
      (hstep : step = b.changeIn K order written peers value)

theorem mapOk_changeIn {α β : Type} (order : PeerOrder) (written : Bool)
    (peers : Std.HashMap (Bytes 32) TrustedPeer) (value : α) (f : α → β) (b : TrustedPeerBook) :
    (b.changeIn K order written peers value).mapOk f =
      b.changeIn K order written peers (f value) := by
  unfold TrustedPeerBook.changeIn
  cases TrustedPeerBook.saveIn K order written { b with peers } <;> rfl

section Cases
variable {order : PeerOrder} {written : Bool} {b : TrustedPeerBook} {pubkey : PublicIdentity}

theorem runCases_add {w : PeerWrite K} {now : UInt64} {nickname : Option String}
    (hnamed : w.named = .ok pubkey) (hleaves : w.leaves pubkey = some ⟨pubkey, nickname, now⟩) :
    RunCases order written b w
      ((b.addIn K order written now pubkey nickname).mapOk (fun _ => none)) := by
  unfold TrustedPeerBook.addIn
  split_ifs with hc
  · refine .refuses _ (fun p hp => ?_) rfl
    cases hnamed.symm.trans hp
    rw [hleaves]
    exact hc
  · refine .changes pubkey hnamed ?_ _ none ?_ ?_ (mapOk_changeIn ..)
    · rw [hleaves]
      exact hc
    · intro p
      rw [hleaves, TrustedPeerBook.getElem?_insert_peer]
      rfl
    · exact fun hb => hb.insert (decodes_of_named hnamed) nickname now

theorem runCases_remove {w : PeerWrite K} (hnamed : w.named = .ok pubkey)
    (hleaves : w.leaves pubkey = none) :
    RunCases order written b w ((b.removeIn K order written pubkey).mapOk some) := by
  have htrusted : b.isTrusted pubkey = (b.peers[pubkey.bytes]?).isSome := b.isTrusted_eq pubkey
  unfold TrustedPeerBook.removeIn
  cases hl : b.peers[pubkey.bytes]? with
  | none =>
    refine .refuses _ (fun p hp => ?_) rfl
    cases hnamed.symm.trans hp
    rw [hleaves, htrusted, hl]
  | some peer =>
    refine .changes pubkey hnamed ?_ _ (some peer) ?_ ?_ (mapOk_changeIn ..)
    · simp [hleaves, htrusted, hl]
    · intro p
      rw [hleaves, TrustedPeerBook.getElem?_erase_peer]
      rfl
    · exact fun hb => hb.erase pubkey

theorem run_cases (order : PeerOrder) (written : Bool) (b : TrustedPeerBook) (w : PeerWrite K) :
    RunCases order written b w (w.run order written b) := by
  cases w with
  | add now pubkey nickname => exact runCases_add rfl rfl
  | remove pubkey => exact runCases_remove rfl rfl
  | addHex now pubkeyHex nickname =>
    cases hhex : PublicIdentity.fromHex K pubkeyHex with
    | error e =>
      refine .refuses (.identity e) (fun p hp => ?_) ?_
      · cases hhex.symm.trans hp
      · simp [run, TrustedPeerBook.addHexIn, hhex, Step.mapOk, Except.map]
    | ok pubkey =>
      have hrun : run order written b (.addHex now pubkeyHex nickname : PeerWrite K) =
          (b.addIn K order written now pubkey nickname).mapOk (fun _ => none) := by
        simp only [run, TrustedPeerBook.addHexIn, hhex]
      rw [hrun]
      exact runCases_add hhex rfl
  | removeHex pubkeyHex =>
    cases hhex : PublicIdentity.fromHex K pubkeyHex with
    | error e =>
      refine .refuses (.identity e) (fun p hp => ?_) ?_
      · cases hhex.symm.trans hp
      · simp [run, TrustedPeerBook.removeHexIn, hhex, Step.mapOk, Except.map]
    | ok pubkey =>
      have hrun : run order written b (.removeHex pubkeyHex : PeerWrite K) =
          (b.removeIn K order written pubkey).mapOk some := by
        simp only [run, TrustedPeerBook.removeHexIn, hhex]
      rw [hrun]
      exact runCases_remove hhex rfl

end Cases

end PeerWrite

/-! ## Atomicity -/

/-- A failed call changes neither map nor file, a successful one leaves its key as it is to in
both, and opening the file again answers alike. -/
structure PeerWrite.Atomic {K : Crates} (b : TrustedPeerBook) (w : PeerWrite K)
    (step : Step TrustedPeerBook (Except PeerCallError (Option TrustedPeer))) : Prop where
  failed : ∀ e, step.output = .error e →
    step.next.file = b.file ∧ ∀ p, step.next.lookup p = b.lookup p
  done : ∀ value, step.output = .ok value → step.next.Consistent K ∧
    ∃ pubkey, w.named = .ok pubkey ∧
      ∀ p, step.next.lookup p = if pubkey = p then w.leaves pubkey else b.lookup p
  restart : ∃ fresh, TrustedPeerBook.openAt K step.next.path step.next.file = .ok fresh ∧
    ∀ p, fresh.isTrusted p = step.next.isTrusted p

namespace TrustedPeerBook
variable {K : Crates}

section Changes
variable {α : Type} {order : PeerOrder} {peers : Std.HashMap (Bytes 32) TrustedPeer} {value : α}
  {b : TrustedPeerBook}

theorem changeIn_written (hpath : b.path ≠ "") :
    b.changeIn K order true peers value = ⟨.ok value, save K order { b with peers }⟩ := by
  simp [changeIn, saveIn, hpath]

theorem changeIn_failed (hpath : b.path ≠ "") :
    b.changeIn K order false peers value = ⟨.error .io, { b with peers }⟩ := by
  simp [changeIn, saveIn, hpath]

end Changes

/-- Opening the file of a consistent book gives the same answers. -/
theorem Consistent.restart {b : TrustedPeerBook} (h : Consistent K b) :
    ∃ fresh, TrustedPeerBook.openAt K b.path b.file = .ok fresh ∧
      ∀ p, fresh.isTrusted p = b.isTrusted p := by
  obtain ⟨fresh, hopen, hsame⟩ := h.openAt
  refine ⟨fresh, hopen, fun p => ?_⟩
  rw [isTrusted_eq, isTrusted_eq, lookup, lookup, hsame.peers]

end TrustedPeerBook

/-- A call on a book that agrees with its file is atomic exactly if the file can be written, or
there is nothing to write. -/
theorem peer_writes_atomic_iff {K : Crates} (hparses : K.ParsesPretty) (hopens : K.OpensObjects)
    {b : TrustedPeerBook} (h : b.Consistent K) (order : PeerOrder) (written : Bool)
    (w : PeerWrite K) :
    w.Atomic b (w.run order written b) ↔ written = true ∨ w.Refused b := by
  cases w.run_cases order written b with
  | refuses e hrefused hstep =>
    rw [hstep]
    simp only [hrefused, or_true, iff_true]
    refine ⟨fun e' he => ⟨rfl, fun p => rfl⟩, ?_, h.restart⟩
    intro value hv
    cases hv
  | changes pubkey hnamed hnew peers value hpeers hsound hstep =>
    have hnot : ¬ w.Refused b := fun hr => hnew (hr pubkey hnamed)
    have hlookup : ∀ p, TrustedPeerBook.lookup { b with peers } p =
        if pubkey = p then w.leaves pubkey else b.lookup p := hpeers
    cases written with
    | true =>
      obtain ⟨hconsistent, hsaved⟩ := (hsound h.toSound).save hparses hopens order
      rw [hstep, TrustedPeerBook.changeIn_written h.path]
      simp only [true_or, iff_true]
      refine ⟨?_, fun value' _ => ⟨hconsistent, pubkey, hnamed, fun p => ?_⟩, hconsistent.restart⟩
      · intro e he
        cases he
      · rw [← hlookup, TrustedPeerBook.lookup, hsaved, TrustedPeerBook.lookup]
    | false =>
      rw [hstep, TrustedPeerBook.changeIn_failed h.path]
      simp only [Bool.false_eq_true, hnot, or_false, iff_false]
      -- the key stands changed in the map after an error
      intro hatomic
      have hkept := (hatomic.failed _ rfl).2 pubkey
      rw [hlookup, if_pos rfl] at hkept
      exact hnew (by rw [b.isTrusted_eq, ← hkept])

/-- A book without a file, to which a peer is added. -/
theorem peer_writes_atomic_iff_added :
    (PeerWrite.add 1000 samplePeer none).Atomic ⟨"peers.json", none, ∅⟩
      ((PeerWrite.add 1000 samplePeer none).run storedPeerOrder true ⟨"peers.json", none, ∅⟩) :=
  (peer_writes_atomic_iff Crates.reference_parsesPretty Crates.reference_opensObjects
    (TrustedPeerBook.consistent_start (by decide) (by simp)) storedPeerOrder true
    (.add 1000 samplePeer none)).mpr (.inl rfl)

/-- If the file cannot be written, adding the peer fails and the peer is trusted, until the book
is opened again. -/
theorem peer_write_half_done :
    ∃ b', (PeerWrite.add 1000 samplePeer none).run storedPeerOrder false
        ⟨"peers.json", none, ∅⟩ = ⟨.error .io, b'⟩ ∧
      b'.isTrusted samplePeer.1 = true ∧
      ∃ fresh, TrustedPeerBook.openAt .reference b'.path b'.file = .ok fresh ∧
        fresh.isTrusted samplePeer.1 = false := by
  refine ⟨⟨"peers.json", none, Std.HashMap.insert ∅ samplePeer.1.bytes ⟨samplePeer.1, none, 1000⟩⟩,
    ?_, ?_, ⟨"peers.json", none, ∅⟩, rfl, ?_⟩
  · simp [PeerWrite.run, TrustedPeerBook.addIn, TrustedPeerBook.changeIn_failed, Step.mapOk,
      Except.map]
  · simp [TrustedPeerBook.isTrusted]
  · simp [TrustedPeerBook.isTrusted]

/-! ## Runs -/

/-- The calls in sequence, each with an order of the map and the fate of its write. -/
def PeerWrite.machine (K : Crates) : Machine TrustedPeerBook (PeerWrite K × PeerOrder × Bool)
    (Except PeerCallError (Option TrustedPeer)) :=
  fun b i => i.1.run i.2.1 i.2.2 b

theorem PeerWrite.consistent_next {K : Crates} (hparses : K.ParsesPretty)
    (hopens : K.OpensObjects) {b : TrustedPeerBook} (h : b.Consistent K) (order : PeerOrder)
    {written : Bool} {w : PeerWrite K} (hw : written = true ∨ w.Refused b) :
    (w.run order written b).next.Consistent K := by
  cases w.run_cases order written b with
  | refuses e hrefused hstep => rwa [hstep]
  | changes pubkey hnamed hnew peers value hpeers hsound hstep =>
    obtain rfl : written = true := hw.resolve_right (fun hr => hnew (hr pubkey hnamed))
    rw [hstep, TrustedPeerBook.changeIn_written h.path]
    exact ((hsound h.toSound).save hparses hopens order).1

/-- As long as no write fails that is needed, the book agrees with its file, and a restart goes
unnoticed. -/
theorem peer_writes_run {K : Crates} (hparses : K.ParsesPretty) (hopens : K.OpensObjects)
    {b : TrustedPeerBook} (h : b.Consistent K) (calls : List (PeerWrite K × PeerOrder × Bool))
    (hcalls : ∀ e ∈ (PeerWrite.machine K).trace b calls,
      e.input.2.2 = true ∨ e.input.1.Refused e.before) :
    ((PeerWrite.machine K).final b calls).Consistent K ∧
      ∃ fresh, TrustedPeerBook.openAt K ((PeerWrite.machine K).final b calls).path
          ((PeerWrite.machine K).final b calls).file = .ok fresh ∧
        ∀ p, fresh.isTrusted p = ((PeerWrite.machine K).final b calls).isTrusted p := by
  have hfinal : ((PeerWrite.machine K).final b calls).Consistent K := by
    refine Machine.final_invariant_of_events _ (fun b i hb hi => ?_) h calls hcalls
    exact PeerWrite.consistent_next hparses hopens hb i.2.1 hi
  exact ⟨hfinal, hfinal.restart⟩

end BlindOverlap
