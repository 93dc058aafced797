import BlindOverlap.Receipt
import BlindOverlap.Reference
import BlindOverlap.WireCodec

/-!
# Signatures that are tamper-evident

The header of a signed message can be divided in several ways; the hash of its text
behind it cannot. A wire-bound receipt has one part of variable length, so its total
length gives that part away.
-/
namespace BlindOverlap

/-! ## Messages -/

/-- Ideal signatures, under any key: what was signed for one message verifies for another
only if they are the same. -/
def Crates.SignsOnlyUnder (K : Crates) (seed key : Bytes 32) (signed message : List UInt8) : Prop :=
  K.ed25519Verify key message (K.ed25519Sign seed signed) = true → message = signed

namespace WireMessage

/-- The text whose hash is signed. -/
def bodyBytes (K : Crates) (m : WireMessage) : List UInt8 := utf8 (K.jsonToString m.toJson)

theorem bodyBytes_injective {K : Crates} (hK : K.ParsesCompact) :
    Function.Injective (bodyBytes K) := by
  intro m m' h
  have hparse := hK _ (m.storable_toJson _)
  rw [utf8_injective h, hK _ (m'.storable_toJson _)] at hparse
  have hread := m.fromJson_toJson
  rw [← Option.some.inj hparse, m'.fromJson_toJson] at hread
  exact (Except.ok.inj hread).symm

/-- Two messages with one payload have one hash, which stands at the end. -/
theorem hash_eq_of_signingPayload_eq {K : Crates} {m m' : WireMessage}
    (h : m.signingPayload K = m'.signingPayload K) :
    K.sha256 (m.bodyBytes K) = K.sha256 (m'.bodyBytes K) := by
  obtain ⟨-, hhash⟩ := List.append_inj' h (by rw [Bytes.length_toList, Bytes.length_toList])
  exact Bytes.toList_injective hhash

theorem signingPayload_ne {K : Crates} (hK : K.ParsesCompact) {m m' : WireMessage} (hne : m ≠ m')
    (hfree : K.CollisionFree {m.bodyBytes K, m'.bodyBytes K}) :
    m.signingPayload K ≠ m'.signingPayload K := by
  intro h
  have hbody := hfree (.inl rfl) (.inr rfl) (hash_eq_of_signingPayload_eq h)
  exact hne (bodyBytes_injective hK hbody)

/-- An envelope with another message does not verify under a signature of this one. -/
theorem verifySignature_ne_ok {K : Crates} {m : WireMessage} {identity : PartyIdentity}
    {s : SignedWireMessage} (hpayload : m.signingPayload K ≠ s.message.signingPayload K)
    (hsignature : s.signature = (SignedWireMessage.sign K m identity).signature)
    (hideal : K.SignsOnlyUnder identity.seed s.signerPubkey.bytes
      (identityDomain ++ m.signingPayload K) (identityDomain ++ s.message.signingPayload K)) :
    s.verifySignature K ≠ .ok () := by
  intro h
  rw [SignedWireMessage.verifySignature_eq_ok_iff, hsignature] at h
  have hsame := hideal (PublicIdentity.verify_eq_ok_iff.mp h).2
  exact hpayload (List.append_cancel_left hsame).symm

end WireMessage

/-! ## Receipts -/

namespace WireBoundReceipt

/-- The same statement, whoever signed it. -/
structure SameFields (r r' : WireBoundReceipt) : Prop where
  version : r.version = r'.version
  sessionId : r.sessionId = r'.sessionId
  transcriptDigest : r.transcriptDigest = r'.transcriptDigest
  initiatorNonce : r.initiatorNonce = r'.initiatorNonce
  responderNonce : r.responderNonce = r'.responderNonce
  setRootA : r.setRootA = r'.setRootA
  setRootB : r.setRootB = r'.setRootB
  resultCommitment : r.resultCommitment = r'.resultCommitment
  mode : r.mode = r'.mode

/-- What stands behind the session identifier and its NUL. -/
def boundBytes (r : WireBoundReceipt) : List UInt8 :=
  r.transcriptDigest.bytes.toList ++ (r.initiatorNonce.bytes.toList ++
    (r.responderNonce.bytes.toList ++ (r.setRootA.toList ++ (r.setRootB.toList ++
      (r.resultCommitment.toList ++ [r.mode.modeByte])))))

theorem messageBytes_eq (r : WireBoundReceipt) :
    r.messageBytes =
      wireBoundReceiptDomain ++ (r.version :: (utf8 r.sessionId ++ (0 :: r.boundBytes))) := by
  unfold messageBytes boundBytes
  simp only [List.append_assoc, List.cons_append, List.nil_append]

theorem length_boundBytes (r : WireBoundReceipt) : r.boundBytes.length = 193 := by
  simp [boundBytes, Bytes.length_toList]

theorem mode_read {m m' : ReceiptMode} (h : m.modeByte = m'.modeByte) : m = m' := by
  cases m <;> cases m' <;> first | rfl | exact absurd h (by decide)

/-- All that is read from the end has a fixed width, so the session identifier is what
remains. -/
theorem messageBytes_eq_iff {r r' : WireBoundReceipt} :
    r.messageBytes = r'.messageBytes ↔ r.SameFields r' := by
  constructor
  · intro h
    rw [messageBytes_eq, messageBytes_eq] at h
    obtain ⟨hversion, h⟩ := List.cons.inj (List.append_cancel_left h)
    obtain ⟨hid, h⟩ := List.append_inj' h (by simp [length_boundBytes])
    obtain ⟨hdigest, h⟩ := TranscriptDigest.bytes_selfDelimiting (List.cons.inj h).2
    obtain ⟨hinitiator, h⟩ := SessionNonce.bytes_selfDelimiting h
    obtain ⟨hresponder, h⟩ := SessionNonce.bytes_selfDelimiting h
    obtain ⟨hrootA, h⟩ := Framing.SelfDelimiting.bytes 32 h
    obtain ⟨hrootB, h⟩ := Framing.SelfDelimiting.bytes 32 h
    obtain ⟨hcommitment, h⟩ := Framing.SelfDelimiting.bytes 32 h
    exact ⟨hversion, utf8_injective hid, hdigest, hinitiator, hresponder, hrootA, hrootB,
      hcommitment, mode_read (List.cons.inj h).1⟩
  · intro h
    rw [messageBytes, messageBytes, h.version, h.sessionId, h.transcriptDigest, h.initiatorNonce,
      h.responderNonce, h.setRootA, h.setRootB, h.resultCommitment, h.mode]

/-- The two forms of a receipt are told apart by their length. -/
theorem messageBytes_ne_plain (r : WireBoundReceipt) (p : IntersectionReceipt) :
    r.messageBytes ≠ p.messageBytes := by
  intro h
  have hlength := congrArg List.length h
  rw [messageBytes_eq, p.length_messageBytes] at hlength
  simp only [List.length_append, List.length_cons, length_boundBytes] at hlength
  omega

end WireBoundReceipt

/-- The receipts of both forms that a signer has signed. -/
structure SignerLog where
  plain : Set IntersectionReceipt
  wireBound : Set WireBoundReceipt

namespace SignerLog

def signedBytes (log : SignerLog) : Set (List UInt8) :=
  IntersectionReceipt.messageBytes '' log.plain ∪ WireBoundReceipt.messageBytes '' log.wireBound

/-- Ideal signatures: what verifies under the signer's key is a signature that the signer
made, of something in the log. -/
def Unforgeable (K : Crates) (log : SignerLog) (signer : ReceiptSigner) (message : List UInt8)
    (signature : Bytes 64) : Prop :=
  K.ed25519Verify (signer.publicKey K) message signature = true →
    message ∈ log.signedBytes ∧ signature = K.ed25519Sign signer.seed message

/-- A receipt is accepted with its bindings exactly if the signer signed these fields, and
they are bound to what is expected. -/
theorem verifyWithBindings_iff_signed {K : Crates} {log : SignerLog} {signer : ReceiptSigner}
    {r : WireBoundReceipt} (hproper : (PartyIdentity.fromSeed signer.seed).Proper K)
    (hkey : r.signerPublicKey = signer.publicKey K)
    (hideal : log.Unforgeable K signer r.messageBytes r.signature) {session : String}
    {transcript : TranscriptDigest} {rootA rootB : Bytes 32} :
    r.verifyWithBindings K session transcript rootA rootB = .ok () ↔
      ((∃ x ∈ log.wireBound, x.SameFields r) ∧
          r.signature = K.ed25519Sign signer.seed r.messageBytes) ∧
        r.sessionId = session ∧ r.transcriptDigest = transcript ∧ r.setRootA = rootA ∧
        r.setRootB = rootB := by
  rw [WireBoundReceipt.verifyWithBindings_eq_ok_iff]
  refine and_congr_left fun _ => ?_
  rw [WireBoundReceipt.verify, verifyReceipt_eq_ok_iff, hkey]
  constructor
  · rintro ⟨-, hv⟩
    obtain ⟨hmem, hsignature⟩ := hideal hv
    refine ⟨?_, hsignature⟩
    rcases hmem with ⟨p, -, hp⟩ | ⟨x, hx, hxr⟩
    · exact absurd hp.symm (r.messageBytes_ne_plain p)
    · exact ⟨x, hx, WireBoundReceipt.messageBytes_eq_iff.mp hxr⟩
  · rintro ⟨-, hsignature⟩
    rw [hsignature]
    exact ⟨hproper.decodes, hproper.verifies _⟩

end SignerLog

/-- Messages and receipts cannot be exchanged under a signature: payloads of different ones
differ, and what verifies is what was signed. -/
theorem signatures_tamper_evident {K : Crates} (hK : K.ParsesCompact) :
    (∀ m m' : WireMessage, m ≠ m' → K.CollisionFree {m.bodyBytes K, m'.bodyBytes K} →
      m.signingPayload K ≠ m'.signingPayload K ∧
        ∀ (identity : PartyIdentity) (s : SignedWireMessage), s.message = m' →
          s.signature = (SignedWireMessage.sign K m identity).signature →
          K.SignsOnlyUnder identity.seed s.signerPubkey.bytes
            (identityDomain ++ m.signingPayload K) (identityDomain ++ m'.signingPayload K) →
          s.verifySignature K ≠ .ok () ∧ ∀ peer, s.verifyPeer K peer ≠ .ok ()) ∧
    (∀ r r' : WireBoundReceipt, ¬ r.SameFields r' → r.messageBytes ≠ r'.messageBytes) ∧
    ∀ (log : SignerLog) (signer : ReceiptSigner) (r : WireBoundReceipt),
      (PartyIdentity.fromSeed signer.seed).Proper K → r.signerPublicKey = signer.publicKey K →
      log.Unforgeable K signer r.messageBytes r.signature →
      ∀ session transcript rootA rootB,
        r.verifyWithBindings K session transcript rootA rootB = .ok () ↔
          ((∃ x ∈ log.wireBound, x.SameFields r) ∧
              r.signature = K.ed25519Sign signer.seed r.messageBytes) ∧
            r.sessionId = session ∧ r.transcriptDigest = transcript ∧ r.setRootA = rootA ∧
            r.setRootB = rootB := by
  refine ⟨?_, ?_, ?_⟩
  · intro m m' hne hfree
    have hpayload := WireMessage.signingPayload_ne hK hne hfree
    refine ⟨hpayload, ?_⟩
    rintro identity s rfl hsignature hideal
    have hrejected := WireMessage.verifySignature_ne_ok hpayload hsignature hideal
    exact ⟨hrejected, fun peer h => hrejected (SignedWireMessage.verifyPeer_eq_ok_iff.mp h).2⟩
  · intro r r' hne h
    exact hne (WireBoundReceipt.messageBytes_eq_iff.mp h)
  · intro log signer r hproper hkey hideal session transcript rootA rootB
    exact SignerLog.verifyWithBindings_iff_signed hproper hkey hideal

theorem ReceiptSigner.signature_signWireBound (K : Crates) (s : ReceiptSigner) (sessionId : String)
    (digest : TranscriptDigest) (initiatorNonce responderNonce : SessionNonce)
    (rootA rootB : Bytes 32) (result : PsiResult) (mode : IntersectionMode) :
    (s.signWireBound K sessionId digest initiatorNonce responderNonce rootA rootB result
        mode).signature =
      K.ed25519Sign s.seed (s.signWireBound K sessionId digest initiatorNonce responderNonce rootA
        rootB result mode).messageBytes :=
  rfl

def sampleAbort (reason : String) : WireMessage := .abort (.new 1000 "s" reason)

/-- The signature of one message on another. -/
def forgedAbort : SignedWireMessage :=
  { SignedWireMessage.sign .reference (sampleAbort "late") (.fromSeed (filled 7)) with
    message := sampleAbort "done" }

def sampleSigner : ReceiptSigner := ⟨filled 9⟩

/-- A receipt over empty results, its session identifier containing a NUL. -/
def sampleBound : WireBoundReceipt :=
  sampleSigner.signWireBound .reference "s\x00t" ⟨filled 1⟩ ⟨filled 2⟩ ⟨filled 3⟩ (filled 4)
    (filled 5) (.cardinality 0) .cardinality

theorem signatures_tamper_evident_sample :
    forgedAbort.verifySignature .reference ≠ .ok () ∧
      sampleBound.verifyWithBindings .reference "s\x00t" ⟨filled 1⟩ (filled 4) (filled 5) =
        .ok () := by
  have hevident := signatures_tamper_evident Crates.reference_parsesCompact
  constructor
  · have hfree : Crates.reference.CollisionFree {(sampleAbort "late").bodyBytes .reference,
        (sampleAbort "done").bodyBytes .reference} :=
      Crates.collisionFree_pair (by decide +kernel)
    have hsigned := (hevident.1 (sampleAbort "late") (sampleAbort "done") (by decide) hfree).2
    refine (hsigned (.fromSeed (filled 7)) forgedAbort rfl (by rw [forgedAbort]) ?_).1
    intro hv
    exact absurd hv (by decide +kernel)
  · have hsignature : sampleBound.signature =
        Crates.reference.ed25519Sign sampleSigner.seed sampleBound.messageBytes :=
      ReceiptSigner.signature_signWireBound ..
    have hlog : SignerLog.Unforgeable .reference ⟨∅, {sampleBound}⟩ sampleSigner
        sampleBound.messageBytes sampleBound.signature := by
      intro _
      exact ⟨.inr ⟨sampleBound, rfl, rfl⟩, hsignature⟩
    refine (hevident.2.2 ⟨∅, {sampleBound}⟩ sampleSigner sampleBound (Crates.reference_proper _) rfl
      hlog _ _ _ _).mpr ?_
    have hsame : sampleBound.SameFields sampleBound :=
      ⟨rfl, rfl, rfl, rfl, rfl, rfl, rfl, rfl, rfl⟩
    exact ⟨⟨⟨sampleBound, rfl, hsame⟩, hsignature⟩, rfl, rfl, rfl, rfl⟩

end BlindOverlap
