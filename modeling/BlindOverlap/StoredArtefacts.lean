import BlindOverlap.ArtefactCodec

/-!
# Storing and reloading artefacts

An artefact written to a text and read from it is the artefact that was written, so that
every check answers as it did before.
-/
namespace BlindOverlap

/-! ## Texts -/

namespace InviteTicket

/-- The compact text, on one line. -/
def toJson (K : Crates) (t : InviteTicket) : String := K.jsonToString t.serialize

/-- The indented text, which is what the commands write to files. -/
def toJsonPretty (K : Crates) (t : InviteTicket) : String := K.jsonToStringPretty t.serialize

/-- Errors are the JSON errors that the ticket's own error type wraps; the same holds of the
other artefacts. -/
def fromJson (K : Crates) (text : String) : Except JsonError InviteTicket :=
  K.fromStr (deserialize K) text

end InviteTicket

namespace SessionLease

/-- Leases have the same two texts, and so have the other artefacts that
are stored by themselves. -/
def toJson (K : Crates) (l : SessionLease) : String := K.jsonToString l.serialize

def toJsonPretty (K : Crates) (l : SessionLease) : String := K.jsonToStringPretty l.serialize

/-- What is read has not been verified. -/
def fromJson (K : Crates) (text : String) : Except JsonError SessionLease :=
  K.fromStr (deserialize K) text

end SessionLease

namespace AbortReceipt

def toJson (K : Crates) (r : AbortReceipt) : String := K.jsonToString r.serialize

def toJsonPretty (K : Crates) (r : AbortReceipt) : String := K.jsonToStringPretty r.serialize

def fromJson (K : Crates) (text : String) : Except JsonError AbortReceipt :=
  K.fromStr (deserialize K) text

end AbortReceipt

namespace OverlapAttestation

def toJson (K : Crates) (a : OverlapAttestation) : String := K.jsonToString a.serialize

def toJsonPretty (K : Crates) (a : OverlapAttestation) : String := K.jsonToStringPretty a.serialize

/-- Neither of the two signatures has been verified. -/
def fromJson (K : Crates) (text : String) : Except JsonError OverlapAttestation :=
  K.fromStr (deserialize K) text

end OverlapAttestation

namespace SealedSessionRecord

def toJson (K : Crates) (r : SealedSessionRecord) : String := K.jsonToString r.serialize

def toJsonPretty (K : Crates) (r : SealedSessionRecord) : String :=
  K.jsonToStringPretty r.serialize

def fromJson (K : Crates) (text : String) : Except JsonError SealedSessionRecord :=
  K.fromStr (deserialize K) text

end SealedSessionRecord

/-! ## Verdicts -/

/-- What an artefact is checked against, and when. -/
structure Expected where
  now : UInt64
  issuer : PublicIdentity
  peer : PublicIdentity
  sessionId : String
  mode : IntersectionMode
  transcript : TranscriptDigest
  rootA : Bytes 32
  rootB : Bytes 32

/-- All checks of a ticket. Those that read the clock read one time here. -/
def InviteTicket.verdicts (K : Crates) (q : Expected) (t : InviteTicket) :
    List (Except InviteError Unit) :=
  [t.verify K q.now, t.verifyIssuer K q.now q.issuer, t.verifyForPeer K q.now q.peer,
    t.verifyForSession K q.now q.sessionId q.mode,
    t.verifyFull K q.now q.now q.now q.issuer q.peer q.sessionId q.mode]

/-- All checks of a lease, at one time. -/
def SessionLease.verdicts (K : Crates) (q : Expected) (l : SessionLease) :
    List (Except LeaseError Unit) :=
  [l.verify K q.now, l.verifyIssuer K q.now q.issuer, l.verifyForPeer K q.now q.peer,
    l.verifyForSession K q.now q.sessionId,
    l.verifyFull K q.now q.now q.now q.issuer q.peer q.sessionId]

/-- All checks of a receipt of cancellation, which has no lifetime. -/
def AbortReceipt.verdicts (K : Crates) (q : Expected) (r : AbortReceipt) :
    List (Except AbortError Unit) :=
  [r.verify K, r.verifyIssuer K q.issuer, r.verifyForSession K q.sessionId,
    r.verifyTranscript K q.transcript]

/-- All checks of an attestation, the second signature's at the end. -/
def OverlapAttestation.verdicts (K : Crates) (q : Expected) (a : OverlapAttestation) :
    List (Except AttestationError Unit) :=
  [a.verify K q.now, a.verifyIssuer q.issuer, a.verifySession q.sessionId,
    a.verifyFull K q.now q.issuer, a.verifyCoSignature K]

/-- The signature alone, and with everything the receipt is bound to. -/
def WireBoundReceipt.verdicts (K : Crates) (q : Expected) (r : WireBoundReceipt) :
    List (Except ReceiptError Unit) :=
  [r.verify K, r.verifyWithBindings K q.sessionId q.transcript q.rootA q.rootB]

/-- The signature alone, and with the two roots. -/
def IntersectionReceipt.verdicts (K : Crates) (q : Expected) (r : IntersectionReceipt) :
    List (Except ReceiptError Unit) :=
  [r.verify K, r.verifyWithRoots K q.rootA q.rootB]

/-- The digest, the seal, and the seal of one sealer. -/
def SealedSessionRecord.verdicts (K : Crates) (q : Expected) (r : SealedSessionRecord) :
    List (Except SealError Unit) :=
  [r.verifyIntegrity K, r.verifySeal K, r.verifySealFrom K q.issuer]

/-! ## Reloading -/

/-- Texts that are read as the value they were made from, and what is read is judged as that
value is. -/
def Reloads {α β : Type} (read : String → Except JsonError α) (verdicts : α → β) (a : α)
    (texts : List String) : Prop :=
  ∀ text ∈ texts, read text = .ok a ∧ (read text).map verdicts = .ok (verdicts a)

section Texts
variable {K : Crates} {α : Type} {write : α → Json} {read : Json → Except DecodeError α} {a : α}

/-- A text that holds what was written for a value is read as the value. -/
theorem fromStr_of_keeps {n : ℕ} (h : Json.Keeps n write read a) {text : String}
    (htext : K.jsonFromStr text = some (write a)) : K.fromStr read text = .ok a := by
  simp only [Crates.fromStr, htext, h.read_write]

/-- An indented text that was written for a value is read as the value. -/
theorem fromStr_pretty_of_keeps (hparses : K.ParsesPretty)
    (h : Json.Keeps Crates.nestingLimit write read a) :
    K.fromStr read (K.jsonToStringPretty (write a)) = .ok a :=
  fromStr_of_keeps h (hparses _ h.storable)

/-- What a coding keeps is reloaded from both texts. -/
theorem reloads_of_keeps (hcompact : K.ParsesCompact) (hpretty : K.ParsesPretty)
    (h : Json.Keeps Crates.nestingLimit write read a) {β : Type} (verdicts : α → β) :
    Reloads (K.fromStr read) verdicts a
      [K.jsonToString (write a), K.jsonToStringPretty (write a)] := by
  have hread : ∀ text, K.jsonFromStr text = some (write a) →
      K.fromStr read text = .ok a ∧ (K.fromStr read text).map verdicts = .ok (verdicts a) := by
    intro text htext
    rw [fromStr_of_keeps h htext]
    exact ⟨rfl, rfl⟩
  intro text htext
  rcases List.mem_pair.mp htext with rfl | rfl
  · exact hread _ (hcompact _ h.storable)
  · exact hread _ (hpretty _ h.storable)

end Texts

/-- Signed artefacts of every kind come back from their texts with all their fields, and with
every verdict on them. -/
theorem artefacts_reload {K : Crates} (hcompact : K.ParsesCompact) (hpretty : K.ParsesPretty)
    (q : Expected) :
    (∀ t : InviteTicket, (∀ p ∈ t.identities, p.Decodes K) →
      Reloads (InviteTicket.fromJson K) (InviteTicket.verdicts K q) t
        [t.toJson K, t.toJsonPretty K]) ∧
    (∀ l : SessionLease, (∀ p ∈ l.identities, p.Decodes K) →
      Reloads (SessionLease.fromJson K) (SessionLease.verdicts K q) l
        [l.toJson K, l.toJsonPretty K]) ∧
    (∀ r : AbortReceipt, (∀ p ∈ r.identities, p.Decodes K) →
      Reloads (AbortReceipt.fromJson K) (AbortReceipt.verdicts K q) r
        [r.toJson K, r.toJsonPretty K]) ∧
    (∀ a : OverlapAttestation, (∀ p ∈ a.identities, p.Decodes K) →
      Reloads (OverlapAttestation.fromJson K) (OverlapAttestation.verdicts K q) a
        [a.toJson K, a.toJsonPretty K]) ∧
    (∀ r : WireBoundReceipt,
      Reloads (K.fromStr WireBoundReceipt.deserialize) (WireBoundReceipt.verdicts K q) r
        [K.jsonToString r.serialize, K.jsonToStringPretty r.serialize]) ∧
    (∀ r : IntersectionReceipt,
      Reloads (K.fromStr IntersectionReceipt.deserialize) (IntersectionReceipt.verdicts K q) r
        [K.jsonToString r.serialize, K.jsonToStringPretty r.serialize]) ∧
    ∀ r : SealedSessionRecord, (∀ p ∈ r.identities, p.Decodes K) →
      Reloads (SealedSessionRecord.fromJson K) (SealedSessionRecord.verdicts K q) r
        [r.toJson K, r.toJsonPretty K] :=
  ⟨fun _ h => reloads_of_keeps hcompact hpretty (InviteTicket.keeps h) _,
    fun _ h => reloads_of_keeps hcompact hpretty (SessionLease.keeps h) _,
    fun _ h => reloads_of_keeps hcompact hpretty (AbortReceipt.keeps h) _,
    fun _ h => reloads_of_keeps hcompact hpretty (OverlapAttestation.keeps h) _,
    fun r => reloads_of_keeps hcompact hpretty r.keeps _,
    fun r => reloads_of_keeps hcompact hpretty r.keeps _,
    fun _ h => reloads_of_keeps hcompact hpretty (SealedSessionRecord.keeps h) _⟩

def sampleExpected : Expected where
  now := 1100
  issuer := (PartyIdentity.fromSeed (filled 7)).publicIdentity .reference
  peer := (PartyIdentity.fromSeed (filled 8)).publicIdentity .reference
  sessionId := "s"
  mode := .cardinality
  transcript := ⟨filled 1⟩
  rootA := filled 2
  rootB := filled 3

/-- An attestation that two parties signed. -/
def sampleDualSigned : OverlapAttestation :=
  (OverlapAttestation.signIntersection .reference 1000 (.fromSeed (filled 7)) (filled 2) (filled 3)
    (filled 4) none (some ⟨filled 1⟩) 600).coSign .reference (.fromSeed (filled 8))

theorem artefacts_reload_dualSigned :
    Reloads (OverlapAttestation.fromJson .reference)
      (OverlapAttestation.verdicts .reference sampleExpected) sampleDualSigned
      [sampleDualSigned.toJson .reference, sampleDualSigned.toJsonPretty .reference] := by
  refine (artefacts_reload Crates.reference_parsesCompact Crates.reference_parsesPretty
    sampleExpected).2.2.2.1 sampleDualSigned (fun p hp => ?_)
  rcases List.mem_pair.mp hp with rfl | rfl
  · exact (Crates.reference_proper (.fromSeed (filled 7))).decodes
  · exact (Crates.reference_proper (.fromSeed (filled 8))).decodes

end BlindOverlap
