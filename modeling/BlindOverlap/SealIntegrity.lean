import BlindOverlap.Reference
import BlindOverlap.Seal

/-!
# What a seal covers

The body digest takes the messages by their hashes and the nonces by the digest of the
transcript, and nothing computes these again from what the record stores beside them.
-/
namespace BlindOverlap

namespace SealedSessionRecord

/-- The parts of an entry that the body digest covers. -/
def coveredEntry (e : WireMessageEntry) : UInt32 × MessageDirection × Bytes 32 :=
  (e.sequence, e.direction, e.messageHash)

/-- Two records with the same seal and the same parts under it. -/
structure SameCovered (r r' : SealedSessionRecord) : Prop where
  sessionId : r'.sessionId = r.sessionId
  protocolVersion : r'.protocolVersion = r.protocolVersion
  status : r'.status = r.status
  startedAt : r'.startedAt = r.startedAt
  localPubkey : r'.localPubkey = r.localPubkey
  peerPubkey : r'.peerPubkey = r.peerPubkey
  messages : r'.messages.map coveredEntry = r.messages.map coveredEntry
  transcriptDigest : r'.transcriptDigest = r.transcriptDigest
  bodyDigest : r'.bodyDigest = r.bodyDigest
  recordSeal : r'.recordSeal = r.recordSeal

/-- What the record says of itself holds: hashes and sizes are those of the contents,
messages are numbered in order, and the transcript digest is that of the nonces. -/
structure SelfConsistent (K : Crates) (r : SealedSessionRecord) : Prop where
  contents : ∀ e ∈ r.messages, ∀ text ∈ e.content,
    e.messageHash = K.sha256 (utf8 text) ∧ e.sizeBytes = UInt64.ofNat (utf8 text).length
  sequence : r.messages.map WireMessageEntry.sequence =
    (List.range r.messages.length).map UInt32.ofNat
  transcriptDigest : r.transcriptDigest =
    computeTranscriptDigest K r.sessionId r.initiatorNonce r.responderNonce r.messages

section Covered
variable {K : Crates} {r r' : SealedSessionRecord}

theorem SameCovered.hashes (h : r.SameCovered r') :
    r'.messages.map WireMessageEntry.messageHash = r.messages.map WireMessageEntry.messageHash := by
  have hmap := congrArg (List.map (fun c => c.2.2)) h.messages
  simpa [coveredEntry, Function.comp_def] using hmap

theorem SameCovered.length (h : r.SameCovered r') : r'.messages.length = r.messages.length := by
  simpa using congrArg List.length h.messages

theorem SameCovered.computedBodyDigest (h : r.SameCovered r') :
    r'.computedBodyDigest K = r.computedBodyDigest K := by
  have hentries : r'.messages.flatMap entryBytes = r.messages.flatMap entryBytes := by
    have hflat := congrArg (List.flatMap (fun c : UInt32 × MessageDirection × Bytes 32 =>
      leBytes 4 c.1.toNat ++ [c.2.1.directionByte] ++ c.2.2.toList)) h.messages
    rw [List.flatMap_map, List.flatMap_map] at hflat
    exact hflat
  unfold SealedSessionRecord.computedBodyDigest computeBodyDigest bodyDigestInput
  rw [h.sessionId, h.protocolVersion, h.status, h.startedAt, h.localPubkey, h.peerPubkey, h.length,
    hentries, h.transcriptDigest]

/-- The verdicts depend on the covered parts only. -/
theorem SameCovered.verifySeal (h : r.SameCovered r') : r'.verifySeal K = r.verifySeal K := by
  have hintegrity : r'.verifyIntegrity K = r.verifyIntegrity K := by
    unfold verifyIntegrity
    rw [h.computedBodyDigest, h.bodyDigest]
  unfold SealedSessionRecord.verifySeal sealPayload
  rw [hintegrity, h.bodyDigest, h.recordSeal]

theorem SameCovered.verifySealFrom (h : r.SameCovered r') (expected : PublicIdentity) :
    r'.verifySealFrom K expected = r.verifySealFrom K expected := by
  unfold SealedSessionRecord.verifySealFrom
  rw [h.verifySeal, h.recordSeal]

end Covered

end SealedSessionRecord

/-! ## Exports and their edits -/

/-- A message handed to a builder, and when. -/
structure RecordedMessage where
  recordedAt : UInt64
  direction : MessageDirection
  messageType : String
  json : String
  includeContent : Bool

/-- The entry a builder makes of a message at a position. -/
def RecordedMessage.entry (K : Crates) (i : ℕ) (m : RecordedMessage) : WireMessageEntry :=
  createMessageEntry K m.recordedAt (UInt32.ofNat i) m.direction m.messageType m.json
    m.includeContent

namespace SealedSessionBuilder

def addAll (K : Crates) (b : SealedSessionBuilder) (history : List RecordedMessage) :
    SealedSessionBuilder :=
  history.foldl (fun b m => b.addEntry K m.recordedAt m.direction m.messageType m.json
    m.includeContent) b

/-- Entries are numbered on from those that are there, and nothing else changes. -/
theorem addAll_eq (K : Crates) (b : SealedSessionBuilder) (history : List RecordedMessage) :
    b.addAll K history = { b with
      messages := b.messages ++
        history.mapIdx (fun i m => m.entry K (b.messages.length + i)) } := by
  induction history generalizing b with
  | nil => simp [addAll]
  | cons m history ih =>
    have hstep : b.addAll K (m :: history) =
        (b.addEntry K m.recordedAt m.direction m.messageType m.json m.includeContent).addAll K
          history := rfl
    rw [hstep, ih]
    simp [addEntry, RecordedMessage.entry, List.mapIdx_cons, Nat.add_assoc, Nat.add_comm 1]

end SealedSessionBuilder

/-- A sealed export of a history: a builder without messages of its own, and the readings
of the clock. -/
structure SealedExport where
  builder : SealedSessionBuilder
  empty : builder.messages = []
  sessionId : String
  history : List RecordedMessage
  identity : PartyIdentity
  startedAt : UInt64
  exportedAt : UInt64
  sealedAt : UInt64

namespace SealedExport

def record (K : Crates) (x : SealedExport) : SealedSessionRecord :=
  ((x.builder.addAll K x.history).recordOf K x.startedAt x.exportedAt x.sessionId).sealWith K
    x.sealedAt x.identity

variable {K : Crates} {x : SealedExport}

theorem record_messages : (x.record K).messages = x.history.mapIdx (fun i m => m.entry K i) := by
  simp [record, SealedSessionRecord.sealWith, SealedSessionBuilder.recordOf,
    SealedSessionBuilder.addAll_eq, x.empty]

theorem record_initiatorNonce : (x.record K).initiatorNonce = x.builder.initiatorNonce := by
  simp [record, SealedSessionRecord.sealWith, SealedSessionBuilder.recordOf,
    SealedSessionBuilder.addAll_eq]

theorem record_responderNonce : (x.record K).responderNonce = x.builder.responderNonce := by
  simp [record, SealedSessionRecord.sealWith, SealedSessionBuilder.recordOf,
    SealedSessionBuilder.addAll_eq]

theorem verifySeal_record (h : x.identity.Proper K) : (x.record K).verifySeal K = .ok () :=
  SealedSessionBuilder.verifySeal_sealWith_recordOf h ..

/-- The entries of an edited export, by their place in the history. -/
theorem covered_entry {r : SealedSessionRecord} (h : (x.record K).SameCovered r) {i : ℕ}
    {m : RecordedMessage} {e : WireMessageEntry} (hm : x.history[i]? = some m)
    (he : r.messages[i]? = some e) :
    e.sequence = UInt32.ofNat i ∧ e.messageHash = K.sha256 (utf8 m.json) := by
  have hcovered := congrArg (·[i]?) h.messages
  simp only [record_messages, List.getElem?_map, List.getElem?_mapIdx, hm, he, Option.map_some]
    at hcovered
  obtain ⟨hsequence, hrest⟩ := Prod.mk.inj (Option.some.inj hcovered)
  exact ⟨hsequence, (Prod.mk.inj hrest).2⟩

theorem length_edited {r : SealedSessionRecord} (h : (x.record K).SameCovered r) :
    r.messages.length = x.history.length := by
  rw [h.length, record_messages, List.length_mapIdx]

theorem sequence_edited {r : SealedSessionRecord} (h : (x.record K).SameCovered r) :
    r.messages.map WireMessageEntry.sequence =
      (List.range r.messages.length).map UInt32.ofNat := by
  refine List.ext_getElem (by simp) ?_
  intro i hi hi'
  simp only [List.length_map] at hi
  have hm : i < x.history.length := length_edited h ▸ hi
  have hentry := covered_entry h (List.getElem?_eq_getElem hm) (List.getElem?_eq_getElem hi)
  simp [hentry.1]

/-- An edit that leaves every content, with its size, as it was recorded or takes the
content out, and leaves the nonces that the transcript has. -/
structure Unedited (x : SealedExport) (r : SealedSessionRecord) : Prop where
  contents : ∀ (i : ℕ) (m : RecordedMessage) (e : WireMessageEntry), x.history[i]? = some m →
    r.messages[i]? = some e → ∀ text ∈ e.content,
      text = m.json ∧ e.sizeBytes = UInt64.ofNat (utf8 m.json).length
  initiatorNonce : r.initiatorNonce = x.builder.initiatorNonce
  responderNonce : x.builder.initiatorNonce.isSome → r.responderNonce = x.builder.responderNonce

/-- The bytes of a transcript with the messages of the export. -/
def transcriptInput (K : Crates) (x : SealedExport) (initiatorNonce : SessionNonce)
    (responderNonce : Option SessionNonce) : List UInt8 :=
  TranscriptDigest.computeInput x.sessionId initiatorNonce responderNonce
    ((x.record K).messages.map WireMessageEntry.messageHash) none none

/-- What is hashed for an export and for an edited record. -/
def hashedInputs (K : Crates) (x : SealedExport) (r : SealedSessionRecord) : Set (List UInt8) :=
  {b | (∃ m ∈ x.history, b = utf8 m.json) ∨
    (∃ e ∈ r.messages, ∃ text ∈ e.content, b = utf8 text) ∨
    (∃ n ∈ x.builder.initiatorNonce, b = x.transcriptInput K n x.builder.responderNonce) ∨
    ∃ n ∈ r.initiatorNonce, b = x.transcriptInput K n r.responderNonce}

theorem transcriptDigest_edited {r : SealedSessionRecord} (h : (x.record K).SameCovered r) :
    r.transcriptDigest = x.builder.initiatorNonce.map (fun n =>
      ⟨K.sha256 (x.transcriptInput K n x.builder.responderNonce)⟩) := by
  have hrecord : (x.record K).transcriptDigest = computeTranscriptDigest K x.sessionId
      (x.record K).initiatorNonce (x.record K).responderNonce (x.record K).messages := rfl
  rw [h.transcriptDigest, hrecord, record_initiatorNonce, record_responderNonce]
  rfl

theorem computeTranscriptDigest_edited {r : SealedSessionRecord}
    (h : (x.record K).SameCovered r) :
    computeTranscriptDigest K r.sessionId r.initiatorNonce r.responderNonce r.messages =
      r.initiatorNonce.map (fun n => ⟨K.sha256 (x.transcriptInput K n r.responderNonce)⟩) := by
  rw [computeTranscriptDigest, h.hashes, h.sessionId]
  rfl

/-- The digest fits the nonces exactly if they are the ones it was made of. -/
theorem transcriptDigest_fits_iff {r : SealedSessionRecord} (h : (x.record K).SameCovered r)
    (hfree : K.CollisionFree (x.hashedInputs K r)) :
    r.transcriptDigest =
        computeTranscriptDigest K r.sessionId r.initiatorNonce r.responderNonce r.messages ↔
      r.initiatorNonce = x.builder.initiatorNonce ∧
        (x.builder.initiatorNonce.isSome → r.responderNonce = x.builder.responderNonce) := by
  rw [transcriptDigest_edited h, computeTranscriptDigest_edited h]
  cases hown : x.builder.initiatorNonce with
  | none => cases hedited : r.initiatorNonce <;> simp
  | some n =>
    cases hedited : r.initiatorNonce with
    | none => simp
    | some n' =>
      simp only [Option.map_some, Option.some.injEq, TranscriptDigest.mk.injEq, Option.isSome_some,
        forall_const]
      constructor
      · intro hdigest
        have hinputs := hfree (.inr (.inr (.inl ⟨n, hown, rfl⟩)))
          (.inr (.inr (.inr ⟨n', hedited, rfl⟩))) hdigest
        obtain ⟨hn, hr⟩ := TranscriptDigest.nonces_eq_of_computeInput_eq hinputs
        exact ⟨hn.symm, hr.symm⟩
      · rintro ⟨rfl, hr⟩
        rw [hr]

/-- An edited export is self-consistent exactly if the edit changed nothing that matters. -/
theorem selfConsistent_iff {r : SealedSessionRecord} (h : (x.record K).SameCovered r)
    (hfree : K.CollisionFree (x.hashedInputs K r)) : r.SelfConsistent K ↔ x.Unedited r := by
  constructor
  · intro hconsistent
    obtain ⟨hinitiator, hresponder⟩ :=
      (transcriptDigest_fits_iff h hfree).mp hconsistent.transcriptDigest
    refine ⟨?_, hinitiator, hresponder⟩
    intro i m e hm he text htext
    have hmem := List.mem_of_getElem? he
    obtain ⟨hhash, hsize⟩ := hconsistent.contents e hmem text htext
    have hsame : utf8 text = utf8 m.json := by
      refine hfree (.inr (.inl ⟨e, hmem, text, htext, rfl⟩))
        (.inl ⟨m, List.mem_of_getElem? hm, rfl⟩) ?_
      rw [← hhash, (covered_entry h hm he).2]
    exact ⟨utf8_injective hsame, hsame ▸ hsize⟩
  · intro hunedited
    refine ⟨?_, sequence_edited h, ?_⟩
    · intro e he text htext
      obtain ⟨i, he⟩ := List.getElem?_of_mem he
      have hi : i < x.history.length := by
        rw [← length_edited h]
        exact (List.getElem?_eq_some_iff.mp he).1
      have hm := List.getElem?_eq_getElem hi
      obtain ⟨rfl, hsize⟩ := hunedited.contents i _ e hm he text htext
      exact ⟨(covered_entry h hm he).2, hsize⟩
    · exact (transcriptDigest_fits_iff h hfree).mpr
        ⟨hunedited.initiatorNonce, hunedited.responderNonce⟩

/-- No edit outside the covered parts changes a verdict, whoever sealed the record. An
export edited there is accepted, and self-consistent only if it was left alone. -/
theorem sealed_edits_accepted (K : Crates) :
    (∀ r r' : SealedSessionRecord, r.SameCovered r' → r'.verifySeal K = r.verifySeal K ∧
      ∀ signer, r'.verifySealFrom K signer = r.verifySealFrom K signer) ∧
    ∀ (x : SealedExport) (r : SealedSessionRecord), x.identity.Proper K →
      (x.record K).SameCovered r → K.CollisionFree (x.hashedInputs K r) →
      ((r.verifySeal K = .ok () → r.SelfConsistent K) ↔ x.Unedited r) := by
  constructor
  · intro r r' h
    exact ⟨h.verifySeal, h.verifySealFrom⟩
  · intro x r hproper h hfree
    have haccepted : r.verifySeal K = .ok () := by
      rw [h.verifySeal, verifySeal_record hproper]
    rw [← selfConsistent_iff h hfree]
    exact forall_prop_of_true haccepted

def sampleExport : SealedExport where
  builder := { SealedSessionBuilder.new with initiatorNonce := some ⟨filled 4⟩ }
  empty := rfl
  sessionId := "s"
  history := [⟨1000, .sent, "offer", "true", true⟩]
  identity := .fromSeed (filled 7)
  startedAt := 1000
  exportedAt := 1100
  sealedAt := 1100

/-- The sample's record with another content in its entry, or with none. -/
def sampleEdited (content : Option String) : SealedSessionRecord :=
  { sampleExport.record .reference with
    messages := (sampleExport.record .reference).messages.map (fun e =>
      { e with content := content }) }

theorem sampleEdited_sameCovered (content : Option String) :
    (sampleExport.record .reference).SameCovered (sampleEdited content) :=
  ⟨rfl, rfl, rfl, rfl, rfl, rfl, by simp [sampleEdited, SealedSessionRecord.coveredEntry,
    Function.comp_def], rfl, rfl, rfl⟩

theorem sealed_edits_accepted_sample :
    ((sampleEdited none).verifySeal .reference = .ok () →
      (sampleEdited none).SelfConsistent .reference) ↔
        sampleExport.Unedited (sampleEdited none) := by
  refine (sealed_edits_accepted .reference).2 sampleExport (sampleEdited none)
    (Crates.reference_proper _) (sampleEdited_sameCovered none) ?_
  have hinputs : ∀ b ∈ sampleExport.hashedInputs .reference (sampleEdited none),
      b = utf8 "true" ∨ b = sampleExport.transcriptInput .reference ⟨filled 4⟩ none := by
    rintro b (⟨m, hm, rfl⟩ | ⟨e, he, text, htext, -⟩ | ⟨n, hn, rfl⟩ | ⟨n, hn, rfl⟩)
    · rw [List.mem_singleton.mp hm]
      exact .inl rfl
    · obtain ⟨e', -, rfl⟩ := List.mem_map.mp he
      cases htext
    · cases hn
      exact .inr rfl
    · cases hn
      exact .inr rfl
  have hapart : Crates.reference.sha256 (utf8 "true") ≠
      Crates.reference.sha256 (sampleExport.transcriptInput .reference ⟨filled 4⟩ none) := by
    decide +kernel
  intro a ha b hb hab
  rcases hinputs a ha with rfl | rfl <;> rcases hinputs b hb with rfl | rfl
  · rfl
  · exact absurd hab hapart
  · exact absurd hab.symm hapart
  · rfl

theorem forged_content_accepted :
    (sampleEdited (some "false")).verifySeal .reference = .ok () ∧
      ¬ (sampleEdited (some "false")).SelfConsistent .reference := by
  constructor
  · rw [(sampleEdited_sameCovered _).verifySeal]
    exact verifySeal_record (Crates.reference_proper _)
  · intro h
    have hhash := (h.contents _ List.mem_cons_self "false" rfl).1
    exact absurd hhash (by decide +kernel)

end SealedExport

end BlindOverlap
