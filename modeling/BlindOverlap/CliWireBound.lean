import BlindOverlap.CliVerify
import BlindOverlap.TranscriptLayout

/-!
# Receipts for message files

One command signs a receipt for the exchange in two message files, another compares a receipt
with two such files. Both take the lists from the files. The session is the one that the user or
the receipt names, and the nonces of a receipt are compared with nothing.
-/
namespace BlindOverlap

namespace Cli

inductive ParseIntError where
  | empty
  | invalidDigit
  | posOverflow
  deriving DecidableEq

inductive SignError where
  | cli (e : CliError)
  | parseInt (e : ParseIntError)
  deriving DecidableEq

def parseDigits (value : ℕ) : List Char → Except ParseIntError ℕ
  | [] => .ok value
  | c :: cs =>
    if ¬ c.isDigit then .error .invalidDigit
    else if UInt64.size ≤ value * 10 + (c.toNat - 48) then .error .posOverflow
    else parseDigits (value * 10 + (c.toNat - 48)) cs

/-- A number of machine size, perhaps with a plus sign in front. -/
def parseUsize (s : String) : Except ParseIntError ℕ :=
  match s.toList with
  | [] => .error .empty
  | ['+'] => .error .invalidDigit
  | '+' :: digits => parseDigits 0 digits
  | digits => parseDigits 0 digits

structure WireBoundSignArgs where
  session : String
  offer : String
  reply : String
  rootA : String
  rootB : String
  /-- A count, or the name of a file. -/
  result : String
  /-- What is in the file of that name, if there is one. -/
  resultFile : Option String
  mode : String
  keySeed : Option String

structure SignDrawn where
  initiatorNonce : SessionNonce
  responderNonce : SessionNonce
  seed : Bytes 32

/-- Without a file the intersection is taken to be empty. -/
def psiResult (K : Crates) (args : WireBoundSignArgs) :
    IntersectionMode → Except SignError PsiResult
  | .cardinality => do
    let count ← (parseUsize args.result).mapError SignError.parseInt
    return .cardinality count
  | .intersection => do
    let ids ← match args.resultFile with
      | some contents => (loadFactIds contents).mapError SignError.cli
      | none => pure []
    return .intersection ids (FactSet.fromIds K ids).root

def receiptSigner (drawn : Bytes 32) : Option String → Except SignError ReceiptSigner
  | some seedHex => do
    let seed ← (parseBytes32 "key_seed" seedHex).mapError SignError.cli
    return ⟨seed⟩
  | none => .ok ⟨drawn⟩

/-- A nonce that a message does not carry is drawn. -/
def signedReceipt (K : Crates) (drawn : SignDrawn) (session : String) (offer : MaskedSetOffer)
    (reply : MaskedSetReply) (signer : ReceiptSigner) (rootA rootB : Bytes 32)
    (result : PsiResult) (mode : IntersectionMode) : WireBoundReceipt :=
  let initiatorNonce := offer.nonce.getD drawn.initiatorNonce
  let responderNonce := reply.responderNonce.getD drawn.responderNonce
  let transcript := .compute K session initiatorNonce (some responderNonce) offer.maskedElements
    (some reply.responderMasked) (some reply.initiatorDoublyMasked)
  signer.signWireBound K session transcript initiatorNonce responderNonce rootA rootB result mode

def cmdWireBoundSign (K : Crates) (drawn : SignDrawn) (args : WireBoundSignArgs) :
    Except SignError String := do
  let offer ← (decodeOffer K args.offer).mapError SignError.cli
  let reply ← (decodeReply K args.reply).mapError SignError.cli
  let rootA ← (parseBytes32 "root_a" args.rootA).mapError SignError.cli
  let rootB ← (parseBytes32 "root_b" args.rootB).mapError SignError.cli
  let mode ← (parseMode args.mode).mapError SignError.cli
  let result ← psiResult K args mode
  let signer ← receiptSigner drawn.seed args.keySeed
  let receipt := signedReceipt K drawn args.session offer reply signer rootA rootB result mode
  return K.jsonToStringPretty receipt.serialize

section Signing
variable {K : Crates} {drawn : SignDrawn} {args : WireBoundSignArgs} {text : String}

/-- A receipt is written of what the arguments are read as. -/
theorem cmdWireBoundSign_eq_ok_iff :
    cmdWireBoundSign K drawn args = .ok text ↔ ∃ offer reply rootA rootB mode result signer,
      decode K args.offer = .ok (.offer offer) ∧ decode K args.reply = .ok (.reply reply) ∧
      Hex.decode args.rootA = .ok rootA.toList ∧ Hex.decode args.rootB = .ok rootB.toList ∧
      parseMode args.mode = .ok mode ∧ psiResult K args mode = .ok result ∧
      receiptSigner drawn.seed args.keySeed = .ok signer ∧
      K.jsonToStringPretty (signedReceipt K drawn args.session offer reply signer rootA rootB
        result mode).serialize = text := by
  simp only [cmdWireBoundSign, Except.bind_eq_ok_iff, Except.mapError_eq_ok_iff,
    decodeOffer_eq_ok_iff, decodeReply_eq_ok_iff, parseBytes32_eq_ok_iff, Except.pure_eq_ok,
    Except.ok.injEq]
  constructor
  · rintro ⟨offer, hoffer, reply, hreply, rootA, ha, rootB, hb, mode, hmode, result, hresult,
      signer, hsigner, htext⟩
    exact ⟨offer, reply, rootA, rootB, mode, result, signer, hoffer, hreply, ha, hb, hmode,
      hresult, hsigner, htext⟩
  · rintro ⟨offer, reply, rootA, rootB, mode, result, signer, hoffer, hreply, ha, hb, hmode,
      hresult, hsigner, htext⟩
    exact ⟨offer, hoffer, reply, hreply, rootA, ha, rootB, hb, mode, hmode, result, hresult,
      signer, hsigner, htext⟩

theorem verify_signedReceipt (hproper : ∀ p : PartyIdentity, p.Proper K) (session : String)
    (offer : MaskedSetOffer) (reply : MaskedSetReply) (signer : ReceiptSigner)
    (rootA rootB : Bytes 32) (result : PsiResult) (mode : IntersectionMode) :
    (signedReceipt K drawn session offer reply signer rootA rootB result mode).verify K = .ok () :=
  (WireBoundReceipt.verifyWithBindings_eq_ok_iff.mp
    (ReceiptSigner.verify_signWireBound (hproper _) _ _ _ _ _ _ _ _)).1

end Signing

/-- A transcript of the two messages in the session and with the nonces of the receipt. -/
structure TranscriptOf (p : TranscriptParts) (receipt : WireBoundReceipt) (offer : MaskedSetOffer)
    (reply : MaskedSetReply) : Prop where
  sessionId : p.sessionId = receipt.sessionId
  initiatorNonce : p.initiatorNonce = receipt.initiatorNonce
  responderNonce : p.responderNonce = some receipt.responderNonce
  offerElements : p.offerElements = offer.maskedElements
  replyResponderMasked : p.replyResponderMasked = some reply.responderMasked
  replyInitiatorDoublyMasked : p.replyInitiatorDoublyMasked = some reply.initiatorDoublyMasked

theorem TranscriptOf.digest {K : Crates} {p : TranscriptParts} {receipt : WireBoundReceipt}
    {offer : MaskedSetOffer} {reply : MaskedSetReply} (h : TranscriptOf p receipt offer reply) :
    p.digest K = expectedTranscript K receipt offer reply := by
  rw [TranscriptParts.digest, expectedTranscript, h.sessionId, h.initiatorNonce, h.responderNonce,
    h.offerElements, h.replyResponderMasked, h.replyInitiatorDoublyMasked]

/-- A receipt that is accepted with two files carries the digest of their lists in its own session
and with its own nonces, and so of no other transcript, as far as the hash and the layout tell
the two apart. A receipt that was signed for two files is accepted with them, for the session it
was asked for and with their nonces. -/
theorem wire_bound_files {K : Crates} (hK : K.ParsesPretty)
    (hproper : ∀ p : PartyIdentity, p.Proper K) :
    (∀ text session offer reply rootA rootB,
      cmdWireBoundVerify K text session (some offer) (some reply) rootA rootB = .ok () →
        ∃ r o p, K.fromStr WireBoundReceipt.deserialize text = .ok r ∧
          decode K offer = .ok (.offer o) ∧ decode K reply = .ok (.reply p) ∧
          r.verify K = .ok () ∧ (∀ s ∈ session, r.sessionId = s) ∧
          ∀ own t : TranscriptParts, TranscriptOf own r o p → r.transcriptDigest = t.digest K →
            K.CollisionFree {own.input, t.input} → ¬ t.Absorbs own → ¬ own.Absorbs t →
            own = t) ∧
    ∀ drawn args text, cmdWireBoundSign K drawn args = .ok text →
      (∀ session rootA rootB, (∀ s ∈ session, s = args.session) → (∀ a ∈ rootA, a = args.rootA) →
        (∀ b ∈ rootB, b = args.rootB) →
        cmdWireBoundVerify K text session (some args.offer) (some args.reply) rootA rootB =
          .ok ()) ∧
      ∃ r o p, K.fromStr WireBoundReceipt.deserialize text = .ok r ∧
        decode K args.offer = .ok (.offer o) ∧ decode K args.reply = .ok (.reply p) ∧
        r.sessionId = args.session ∧ (∀ n ∈ o.nonce, r.initiatorNonce = n) ∧
        ∀ n ∈ p.responderNonce, r.responderNonce = n := by
  constructor
  · intro text session offer reply rootA rootB h
    obtain ⟨r, hr, hverify, hsession, hfiles, -⟩ := cmdWireBoundVerify_eq_ok_iff.mp h
    obtain ⟨o, p, ho, hp, hdigest⟩ := hfiles offer rfl reply rfl
    refine ⟨r, o, p, hr, ho, hp, hverify, hsession, ?_⟩
    intro own t hown ht hfree habsorbs habsorbs'
    have hsame : own.digest K = t.digest K := by
      rw [hown.digest, ← hdigest, ht]
    have hdistinct := ((TranscriptParts.digests_distinguished_iff own t).2 K hfree).mpr
      ⟨habsorbs, habsorbs'⟩
    exact not_imp_not.mp hdistinct hsame
  · intro drawn args text h
    obtain ⟨o, p, rootA, rootB, mode, result, signer, ho, hp, ha, hb, -, -, -, rfl⟩ :=
      cmdWireBoundSign_eq_ok_iff.mp h
    let r := signedReceipt K drawn args.session o p signer rootA rootB result mode
    have hr : K.fromStr WireBoundReceipt.deserialize (K.jsonToStringPretty r.serialize) = .ok r :=
      fromStr_pretty_of_keeps hK r.keeps
    constructor
    · intro session expectA expectB hsession hexpectA hexpectB
      refine cmdWireBoundVerify_eq_ok_iff.mpr
        ⟨r, hr, verify_signedReceipt hproper _ _ _ _ _ _ _ _, ?_, ?_, ?_⟩
      · exact fun s hs => (hsession s hs).symm
      · intro offer hoffer reply hreply
        cases hoffer
        cases hreply
        exact ⟨o, p, ho, hp, rfl⟩
      · intro a hmemA b hmemB
        rw [hexpectA a hmemA, hexpectB b hmemB]
        exact ⟨ha, hb⟩
    · refine ⟨r, o, p, hr, ho, hp, rfl, fun n hn => ?_, fun n hn => ?_⟩
      · change o.nonce.getD _ = n
        rw [Option.mem_def.mp hn, Option.getD_some]
      · change p.responderNonce.getD _ = n
        rw [Option.mem_def.mp hn, Option.getD_some]

/-! ## One receipt with other files -/

/-- The files of an exchange in version 1. -/
def otherOffer : MaskedSetOffer := .new "other" [filled 1]
def otherReply : MaskedSetReply := .new "other" [filled 2] [filled 3]

/-- The same lists in a session of their own, with nonces. -/
def sameListsOffer : MaskedSetOffer := .newV2 "s" [filled 1] ⟨filled 4⟩ ⟨1000, 1300⟩

def sameListsReply : MaskedSetReply :=
  .newV2 "s" [filled 2] [filled 3] ⟨filled 4⟩ ⟨filled 5⟩ ⟨1000, 1300⟩

def otherArgs : WireBoundSignArgs where
  session := "other"
  offer := encodePretty .reference (.offer otherOffer)
  reply := encodePretty .reference (.reply otherReply)
  rootA := Hex.encode (filled 8).toList
  rootB := Hex.encode (filled 9).toList
  result := "1"
  resultFile := none
  mode := "cardinality"
  keySeed := none

def otherDrawn : SignDrawn := ⟨⟨filled 6⟩, ⟨filled 7⟩, filled 10⟩

def otherReceipt : WireBoundReceipt :=
  signedReceipt .reference otherDrawn "other" otherOffer otherReply ⟨filled 10⟩ (filled 8)
    (filled 9) (.cardinality 1) .cardinality

theorem decode_reference {m : WireMessage} (hm : m.validate = .ok ()) :
    decode .reference (encodePretty .reference m) = .ok m :=
  decode_encodePretty Crates.reference_parsesPretty hm

theorem cmdWireBoundSign_otherArgs :
    cmdWireBoundSign .reference otherDrawn otherArgs =
      .ok (Crates.reference.jsonToStringPretty otherReceipt.serialize) :=
  cmdWireBoundSign_eq_ok_iff.mpr ⟨otherOffer, otherReply, filled 8, filled 9, .cardinality,
    .cardinality 1, ⟨filled 10⟩, decode_reference (MaskedSetOffer.validate_new ..),
    decode_reference (MaskedSetReply.validate_new ..), Hex.decode_encode _, Hex.decode_encode _,
    rfl, rfl, rfl, rfl⟩

theorem wire_bound_files_other :
    cmdWireBoundVerify .reference (Crates.reference.jsonToStringPretty otherReceipt.serialize)
      (some "other") (some otherArgs.offer) (some otherArgs.reply) none none = .ok () :=
  ((wire_bound_files Crates.reference_parsesPretty Crates.reference_proper).2 otherDrawn otherArgs
    _ cmdWireBoundSign_otherArgs).1 (some "other") none none (by simp [otherArgs]) (by simp)
    (by simp)

/-- The receipt of one exchange is accepted with the files of another that has the same lists,
though neither the session nor the nonces agree. -/
theorem receipt_accepted_with_other_files :
    cmdWireBoundVerify .reference (Crates.reference.jsonToStringPretty otherReceipt.serialize)
        none (some (encodePretty .reference (.offer sameListsOffer)))
        (some (encodePretty .reference (.reply sameListsReply))) none none = .ok () ∧
      otherReceipt.sessionId ≠ sameListsOffer.sessionId ∧
      otherReceipt.sessionId ≠ sameListsReply.sessionId ∧
      sameListsOffer.nonce = some ⟨filled 4⟩ ∧ otherReceipt.initiatorNonce ≠ ⟨filled 4⟩ ∧
      sameListsReply.responderNonce = some ⟨filled 5⟩ ∧
      otherReceipt.responderNonce ≠ ⟨filled 5⟩ := by
  refine ⟨cmdWireBoundVerify_eq_ok_iff.mpr ⟨otherReceipt, read_pretty otherReceipt.keeps,
    verify_signedReceipt Crates.reference_proper _ _ _ _ _ _ _ _, by simp, ?_, by simp⟩,
    by decide, by decide, rfl, by decide, rfl, by decide⟩
  intro offer hoffer reply hreply
  rw [← Option.mem_some_iff.mp hoffer, ← Option.mem_some_iff.mp hreply]
  exact ⟨sameListsOffer, sameListsReply, decode_reference (MaskedSetOffer.validate_newV2 ..),
    decode_reference (MaskedSetReply.validate_newV2 ..), rfl⟩

end Cli

end BlindOverlap
