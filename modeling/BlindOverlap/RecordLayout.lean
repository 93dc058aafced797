import BlindOverlap.SealIntegrity

/-!
# What a body digest is a digest of

Behind the session identifier of a record everything has a fixed width, a mark or a
number in front. The identifier is followed by bytes it may itself contain.
-/
namespace BlindOverlap

/-- The arguments of a body digest. The number of messages is hashed as 32 bits. -/
structure BodyParts where
  sessionId : String
  protocolVersion : UInt8
  status : SessionStatus
  startedAt : UInt64
  localPubkey : Option PublicIdentity
  peerPubkey : Option PublicIdentity
  messages : List WireMessageEntry
  transcriptDigest : Option TranscriptDigest
  messages_length : messages.length < UInt32.size

namespace BodyParts

def input (p : BodyParts) : List UInt8 :=
  bodyDigestInput p.sessionId p.protocolVersion p.status p.startedAt p.localPubkey p.peerPubkey
    p.messages p.transcriptDigest

/-- The same parts, as far as a message has any. -/
structure SameBody (p q : BodyParts) : Prop where
  sessionId : p.sessionId = q.sessionId
  protocolVersion : p.protocolVersion = q.protocolVersion
  status : p.status = q.status
  startedAt : p.startedAt = q.startedAt
  localPubkey : p.localPubkey = q.localPubkey
  peerPubkey : p.peerPubkey = q.peerPubkey
  messages : p.messages.map SealedSessionRecord.coveredEntry =
    q.messages.map SealedSessionRecord.coveredEntry
  transcriptDigest : p.transcriptDigest = q.transcriptDigest

/-- What stands behind the session identifier. -/
def afterSession (p : BodyParts) : List UInt8 :=
  p.protocolVersion :: p.status.statusByte :: (leBytes 8 p.startedAt.toNat ++
    (markedBytes (fun k : PublicIdentity => k.bytes.toList) p.localPubkey ++
      (markedBytes (fun k : PublicIdentity => k.bytes.toList) p.peerPubkey ++
        (leBytes 4 p.messages.length ++ (p.messages.flatMap entryBytes ++
          markedBytes (fun d : TranscriptDigest => d.bytes.toList) p.transcriptDigest)))))

theorem input_eq (p : BodyParts) :
    p.input = sealedRecordDomain ++ (utf8 p.sessionId ++ p.afterSession) := by
  unfold input bodyDigestInput afterSession
  simp only [List.append_assoc, List.cons_append, List.nil_append]

/-- The identifier of `q` is that of `p` with the beginning of `p`'s other parts written
behind it, and the remainder of these is made of `q`'s own. -/
def Absorbs (q p : BodyParts) : Prop :=
  Framing.RunsInto (utf8 p.sessionId) p.afterSession (utf8 q.sessionId) q.afterSession

/-! ## Reading the parts back -/

theorem marked_read {α : Type} {f : α → List UInt8} (h : Framing.SelfDelimiting f) :
    Framing.SelfDelimiting (markedBytes f) := by
  have helim : markedBytes f = fun o => o.elim [0] (fun a => 1 :: f a) := by
    funext o
    cases o <;> rfl
  rw [helim]
  exact h.marked

theorem status_read {s s' : SessionStatus} (h : s.statusByte = s'.statusByte) : s = s' := by
  cases s <;> cases s' <;> first | rfl | exact absurd h (by decide)

theorem direction_read {d d' : MessageDirection} (h : d.directionByte = d'.directionByte) :
    d = d' := by
  cases d <;> cases d' <;> first | rfl | exact absurd h (by decide)

/-- What is hashed of a message. -/
def coveredBytes (c : UInt32 × MessageDirection × Bytes 32) : List UInt8 :=
  leBytes 4 c.1.toNat ++ [c.2.1.directionByte] ++ c.2.2.toList

theorem covered_read : Framing.SelfDelimiting coveredBytes := by
  rintro ⟨sequence, direction, hash⟩ ⟨sequence', direction', hash'⟩ s t h
  simp only [coveredBytes, List.append_assoc] at h
  obtain ⟨hsequence, h⟩ := Framing.SelfDelimiting.uint32 h
  obtain ⟨hdirection, h⟩ := List.cons.inj h
  obtain ⟨hhash, hst⟩ := Framing.SelfDelimiting.bytes 32 h
  exact ⟨by rw [hsequence, direction_read hdirection, hhash], hst⟩

theorem flatMap_entryBytes (messages : List WireMessageEntry) :
    messages.flatMap entryBytes =
      (messages.map SealedSessionRecord.coveredEntry).flatMap coveredBytes := by
  rw [List.flatMap_map]
  rfl

theorem sameBody_iff {p q : BodyParts} :
    p.SameBody q ↔ utf8 p.sessionId = utf8 q.sessionId ∧ p.afterSession = q.afterSession := by
  unfold afterSession
  rw [flatMap_entryBytes, flatMap_entryBytes]
  constructor
  · intro h
    have hcount : p.messages.length = q.messages.length := by
      simpa using congrArg List.length h.messages
    rw [h.sessionId, h.protocolVersion, h.status, h.startedAt, h.localPubkey, h.peerPubkey, hcount,
      h.messages, h.transcriptDigest]
    exact ⟨rfl, rfl⟩
  · rintro ⟨hid, h⟩
    obtain ⟨hversion, h⟩ := List.cons.inj h
    obtain ⟨hstatus, h⟩ := List.cons.inj h
    obtain ⟨hstarted, h⟩ := Framing.SelfDelimiting.uint64 h
    obtain ⟨hlocal, h⟩ := marked_read PublicIdentity.bytes_selfDelimiting h
    obtain ⟨hpeer, h⟩ := marked_read PublicIdentity.bytes_selfDelimiting h
    have hp : (p.messages.map SealedSessionRecord.coveredEntry).length < 256 ^ 4 := by
      simpa using p.messages_length
    have hq : (q.messages.map SealedSessionRecord.coveredEntry).length < 256 ^ 4 := by
      simpa using q.messages_length
    have hcount : ∀ x : BodyParts,
        x.messages.length = (x.messages.map SealedSessionRecord.coveredEntry).length :=
      fun x => (List.length_map _).symm
    rw [hcount p, hcount q] at h
    obtain ⟨hmessages, h⟩ := covered_read.counted hp hq h
    exact ⟨utf8_injective hid, hversion, status_read hstatus, hstarted, hlocal, hpeer, hmessages,
      (marked_read TranscriptDigest.bytes_selfDelimiting).injective h⟩

/-- Two bodies are hashed differently unless the session identifier of one absorbs parts of
the other. -/
theorem bodies_distinguished_iff (p q : BodyParts) :
    (¬ p.SameBody q → p.input ≠ q.input) ↔ ¬ q.Absorbs p ∧ ¬ p.Absorbs q := by
  rw [input_eq, input_eq, Ne, List.append_cancel_left_eq]
  exact Framing.distinguished_iff sameBody_iff

end BodyParts

/-- The parts of a record that its digest covers. -/
def SealedSessionRecord.bodyParts (r : SealedSessionRecord)
    (h : r.messages.length < UInt32.size) : BodyParts where
  sessionId := r.sessionId
  protocolVersion := r.protocolVersion
  status := r.status
  startedAt := r.startedAt
  localPubkey := r.localPubkey
  peerPubkey := r.peerPubkey
  messages := r.messages
  transcriptDigest := r.transcriptDigest
  messages_length := h

theorem SealedSessionRecord.computedBodyDigest_eq (K : Crates) (r : SealedSessionRecord)
    (h : r.messages.length < UInt32.size) :
    r.computedBodyDigest K = K.sha256 (r.bodyParts h).input := rfl

/-- A seal is accepted over every body that is hashed alike. -/
theorem SealedSessionRecord.verifySeal_ok_of_input_eq {K : Crates} {r r' : SealedSessionRecord}
    {h : r.messages.length < UInt32.size} {h' : r'.messages.length < UInt32.size}
    (hinput : (r.bodyParts h).input = (r'.bodyParts h').input)
    (hdigest : r.bodyDigest = r'.bodyDigest) (hseal : r.recordSeal = r'.recordSeal)
    (hok : r.verifySeal K = .ok ()) : r'.verifySeal K = .ok () := by
  rw [verifySeal_eq_ok_iff] at hok ⊢
  rw [computedBodyDigest_eq K r h, hinput, ← computedBodyDigest_eq K r' h', hdigest, hseal] at hok
  simp only [sealPayload, hdigest] at hok ⊢
  exact hok

/-! ## One seal, two records -/

/-- A message whose hash ends like a record without messages. -/
def sealedMessage : WireMessageEntry where
  sequence := 0
  direction := .sent
  messageType := "offer"
  timestamp := 1699959635
  sizeBytes := 4
  messageHash := spelled ("hhhhhhhhhhhhhhhh\x02\x01SSSe\x00\x00\x00\x00\x00\x00" ++
    "\x00\x00\x00\x00")
  content := none

def recordOfOne : SealedSessionRecord :=
  (SealedSessionBuilder.recordOf .reference 1699959635 1699959700
    { SealedSessionBuilder.new with status := .completed, messages := [sealedMessage] }
      "s").sealWith .reference 1699959700 (.fromSeed (filled 7))

/-- The same digest and seal over no message, the rest being part of the identifier. -/
def recordOfNone : SealedSessionRecord :=
  { recordOfOne with
    sessionId := "s\x02\x01SSSe\x00\x00\x00\x00\x00\x00\x01\x00\x00\x00" ++
      "\x00\x00\x00\x00\x00hhhhhhhhhhhhhhhh"
    messages := [] }

theorem one_sealed_as_none :
    ¬ (¬ (recordOfOne.bodyParts (by decide)).SameBody (recordOfNone.bodyParts (by decide)) →
        (recordOfOne.bodyParts (by decide)).input ≠ (recordOfNone.bodyParts (by decide)).input) ∧
      recordOfOne.verifySeal .reference = .ok () ∧ recordOfNone.verifySeal .reference = .ok () := by
  have hne : ¬ (recordOfOne.bodyParts (by decide)).SameBody
      (recordOfNone.bodyParts (by decide)) :=
    fun h => absurd (congrArg List.length h.messages) (by decide)
  have hinput : (recordOfOne.bodyParts (by decide)).input =
      (recordOfNone.bodyParts (by decide)).input := by
    decide +kernel
  have hverified : recordOfOne.verifySeal .reference = .ok () :=
    SealedSessionBuilder.verifySeal_sealWith_recordOf (Crates.reference_proper _) _ _ _ _ _
  exact ⟨fun h => h hne hinput, hverified,
    SealedSessionRecord.verifySeal_ok_of_input_eq hinput rfl rfl hverified⟩

namespace BodyParts

/-! ## What an identifier can absorb -/

/-- The parts that every body opens with. -/
def opening (p : BodyParts) : List UInt8 :=
  p.protocolVersion :: p.status.statusByte :: leBytes 8 p.startedAt.toNat

/-- How many bytes the parts take up that depend on the record. -/
def size (p : BodyParts) : ℕ :=
  (if p.localPubkey.isSome then 32 else 0) + (if p.peerPubkey.isSome then 32 else 0) +
    37 * p.messages.length + if p.transcriptDigest.isSome then 32 else 0

/-- The identifier of `q` is that of `p` and goes on with the version, the status and the start
that follow it there, over as many bytes as the parts of `q` are shorter than those of `p`. -/
def Extends (q p : BodyParts) : Prop :=
  ∃ t ≠ [], utf8 q.sessionId = utf8 p.sessionId ++ t ∧ (t <+: p.opening ∨ p.opening <+: t) ∧
    t.length + q.size = p.size

theorem length_afterSession (p : BodyParts) : p.afterSession.length = 17 + p.size := by
  have hmarked : ∀ {α : Type} (f : α → List UInt8) (o : Option α), (∀ a, (f a).length = 32) →
      (markedBytes f o).length = 1 + if o.isSome then 32 else 0 := by
    intro α f o hf
    cases o with
    | none => rfl
    | some a => simp [markedBytes, hf, Nat.add_comm]
  have hmessages : (p.messages.flatMap entryBytes).length = 37 * p.messages.length := by
    induction p.messages with
    | nil => rfl
    | cons e messages ih =>
      rw [List.flatMap_cons, List.length_append, ih, List.length_cons]
      simp [entryBytes, Bytes.length_toList]
      omega
  unfold afterSession size
  simp only [List.length_cons, List.length_append, length_leBytes, hmessages,
    hmarked _ _ (fun k : PublicIdentity => k.bytes.length_toList),
    hmarked _ _ (fun d : TranscriptDigest => d.bytes.length_toList)]
  omega

/-- An identifier absorbs what follows another one only by extending it. -/
theorem Absorbs.extends {p q : BodyParts} (h : q.Absorbs p) : q.Extends p := by
  obtain ⟨t, ht, hid, hrest⟩ := h
  have hopening : p.opening <+: p.afterSession := by
    rw [afterSession, ← List.cons_append, ← List.cons_append]
    exact List.prefix_append _ _
  refine ⟨t, ht, hid, List.prefix_or_prefix_of_prefix ⟨_, hrest.symm⟩ hopening, ?_⟩
  have hlength := congrArg List.length hrest
  rw [List.length_append, length_afterSession, length_afterSession] at hlength
  omega

/-- Bodies of which neither extends the identifier of the other are hashed differently. -/
theorem bodies_distinguished (p q : BodyParts) (hq : ¬ q.Extends p) (hp : ¬ p.Extends q)
    (hne : ¬ p.SameBody q) : p.input ≠ q.input :=
  (bodies_distinguished_iff p q).mpr ⟨fun h => hq h.extends, fun h => hp h.extends⟩ hne

/-- The same record in a session of a longer name has another body. -/
theorem bodies_distinguished_records :
    (recordOfOne.bodyParts (by decide)).input ≠
      (SealedSessionRecord.bodyParts { recordOfOne with sessionId := "s2" } (by decide)).input := by
  have hname : utf8 "s2" = utf8 "s" ++ [50] := by decide +kernel
  refine bodies_distinguished _ _ ?_ ?_ fun h => absurd h.sessionId (by decide)
  · rintro ⟨t, -, hid, hopening, -⟩
    have ht : t = [50] := List.append_cancel_left (hid.symm.trans hname)
    rw [ht] at hopening
    exact absurd hopening (by decide +kernel)
  · rintro ⟨t, -, hid, -⟩
    have hlength : (utf8 "s").length = (utf8 "s2" ++ t).length := congrArg List.length hid
    rw [hname, List.length_append, List.length_append, List.length_singleton] at hlength
    omega

end BodyParts

end BlindOverlap
