import BlindOverlap.Cli
import BlindOverlap.StoredArtefacts

/-!
# The verifying commands

Three commands that check an artefact in a file, and what else a user expects of it. Set roots
are compared when both are given, a transcript when both messages are, and the mode of an invite
when a session is.
-/
namespace BlindOverlap

namespace Cli

/-- What a verifying command fails with. -/
inductive VerifyError where
  | cli (e : CliError)
  | receipt (e : ReceiptError)
  | invite (e : InviteError)
  /-- The JSON error that the error of the ticket wraps. -/
  | ticketFile (e : JsonError)
  deriving DecidableEq

/-- An argument of 32 bytes in hexadecimal. -/
def parseBytes32 (name hex : String) : Except CliError (Bytes 32) := do
  let bytes ← (Hex.decode hex).mapError .hex
  match Bytes.ofList? 32 bytes with
  | none => throw (.message s!"{name} must be 32 bytes")
  | some b => return b

theorem parseBytes32_eq_ok_iff {name hex : String} {b : Bytes 32} :
    parseBytes32 name hex = .ok b ↔ Hex.decode hex = .ok b.toList := by
  unfold parseBytes32
  cases Hex.decode hex with
  | error e => simp
  | ok bytes =>
    rw [Except.ok.injEq, ← Bytes.ofList?_eq_some_iff]
    cases hb : Bytes.ofList? 32 bytes <;> simp [hb]

/-! ## Receipts -/

/-- One root that is given alone is not even parsed. -/
def cmdReceiptVerify (K : Crates) (receipt : String) (expectRootA expectRootB : Option String) :
    Except VerifyError Unit := do
  let receipt ← (K.fromStr IntersectionReceipt.deserialize receipt).mapError
    (fun e => VerifyError.cli (.json e))
  match expectRootA, expectRootB with
  | some a, some b =>
    let rootA ← (parseBytes32 "expect_root_a" a).mapError VerifyError.cli
    let rootB ← (parseBytes32 "expect_root_b" b).mapError VerifyError.cli
    (receipt.verifyWithRoots K rootA rootB).mapError VerifyError.receipt
  | _, _ => (receipt.verify K).mapError VerifyError.receipt

/-- The roots are compared only if both are given. -/
theorem cmdReceiptVerify_eq_ok_iff {K : Crates} {receipt : String}
    {expectRootA expectRootB : Option String} :
    cmdReceiptVerify K receipt expectRootA expectRootB = .ok () ↔
      ∃ r, K.fromStr IntersectionReceipt.deserialize receipt = .ok r ∧ r.verify K = .ok () ∧
        ∀ a ∈ expectRootA, ∀ b ∈ expectRootB,
          Hex.decode a = .ok r.setRootA.toList ∧ Hex.decode b = .ok r.setRootB.toList := by
  unfold cmdReceiptVerify
  rw [Except.bind_eq_ok_iff]
  simp only [Except.mapError_eq_ok_iff]
  refine exists_congr fun r => and_congr_right fun _ => ?_
  cases expectRootA with
  | none => simp
  | some a =>
    cases expectRootB with
    | none => simp
    | some b =>
      simp only [Except.bind_eq_ok_iff, Except.mapError_eq_ok_iff, parseBytes32_eq_ok_iff,
        IntersectionReceipt.verifyWithRoots_eq_ok_iff, Option.mem_some_iff, forall_eq']
      constructor
      · rintro ⟨rootA, ha, rootB, hb, hverify, rfl, rfl⟩
        exact ⟨hverify, ha, hb⟩
      · rintro ⟨hverify, ha, hb⟩
        exact ⟨_, ha, _, hb, hverify, rfl, rfl⟩

/-! ## Wire-bound receipts -/

/-- Message files are taken unsigned here. -/
def decodeOffer (K : Crates) (text : String) : Except CliError MaskedSetOffer := do
  match ← (decode K text).mapError CliError.wire with
  | .offer offer => return offer
  | _ => throw (.message "expected offer message")

def decodeReply (K : Crates) (text : String) : Except CliError MaskedSetReply := do
  match ← (decode K text).mapError CliError.wire with
  | .reply reply => return reply
  | _ => throw (.message "expected reply message")

/-- The receipt's own session is compared as a text. -/
def checkExpectSession (receipt : WireBoundReceipt) : Option String → Except CliError Unit
  | none => .ok ()
  | some expected =>
    if receipt.sessionId ≠ expected then
      .error (.message s!"session ID mismatch: expected {expected}, got {receipt.sessionId}")
    else .ok ()

/-- The digest of the lists in the files, in the session and with the nonces of the receipt. -/
def expectedTranscript (K : Crates) (receipt : WireBoundReceipt) (offer : MaskedSetOffer)
    (reply : MaskedSetReply) : TranscriptDigest :=
  .compute K receipt.sessionId receipt.initiatorNonce (some receipt.responderNonce)
    offer.maskedElements (some reply.responderMasked) (some reply.initiatorDoublyMasked)

/-- A message that is given alone is not even read. -/
def checkTranscript (K : Crates) (receipt : WireBoundReceipt) :
    Option String → Option String → Except CliError Unit
  | some offer, some reply => do
    let offer ← decodeOffer K offer
    let reply ← decodeReply K reply
    if receipt.transcriptDigest ≠ expectedTranscript K receipt offer reply then
      throw (.message "transcript digest mismatch")
  | _, _ => .ok ()

/-- The roots are parsed before either is compared. -/
def checkExpectRoots (receipt : WireBoundReceipt) :
    Option String → Option String → Except CliError Unit
  | some a, some b => do
    let rootA ← parseBytes32 "expect_root_a" a
    let rootB ← parseBytes32 "expect_root_b" b
    if receipt.setRootA ≠ rootA then
      throw (.message ("root_a mismatch: expected " ++ Hex.encode rootA.toList ++ ", got " ++
        Hex.encode receipt.setRootA.toList))
    if receipt.setRootB ≠ rootB then
      throw (.message ("root_b mismatch: expected " ++ Hex.encode rootB.toList ++ ", got " ++
        Hex.encode receipt.setRootB.toList))
  | _, _ => .ok ()

/-- The signature comes before everything that is expected of the receipt. -/
def cmdWireBoundVerify (K : Crates) (receipt : String)
    (expectSession offer reply expectRootA expectRootB : Option String) :
    Except VerifyError Unit := do
  let receipt ← (K.fromStr WireBoundReceipt.deserialize receipt).mapError
    (fun e => VerifyError.cli (.json e))
  (receipt.verify K).mapError VerifyError.receipt
  (checkExpectSession receipt expectSession).mapError VerifyError.cli
  (checkTranscript K receipt offer reply).mapError VerifyError.cli
  (checkExpectRoots receipt expectRootA expectRootB).mapError VerifyError.cli

section WireBound
variable {K : Crates} {receipt : WireBoundReceipt}

theorem decodeOffer_eq_ok_iff {text : String} {offer : MaskedSetOffer} :
    decodeOffer K text = .ok offer ↔ decode K text = .ok (.offer offer) := by
  unfold decodeOffer
  cases decode K text with
  | error e => simp
  | ok m => cases m <;> simp

theorem decodeReply_eq_ok_iff {text : String} {reply : MaskedSetReply} :
    decodeReply K text = .ok reply ↔ decode K text = .ok (.reply reply) := by
  unfold decodeReply
  cases decode K text with
  | error e => simp
  | ok m => cases m <;> simp

theorem checkExpectSession_eq_ok_iff {expectSession : Option String} :
    checkExpectSession receipt expectSession = .ok () ↔
      ∀ s ∈ expectSession, receipt.sessionId = s := by
  cases expectSession with
  | none => simp [checkExpectSession]
  | some s => by_cases hs : receipt.sessionId = s <;> simp [checkExpectSession, hs]

/-- Two files hold an offer and a reply that the digest of the receipt fits. -/
def FitsFiles (K : Crates) (receipt : WireBoundReceipt) (offer reply : String) : Prop :=
  ∃ o r, decode K offer = .ok (.offer o) ∧ decode K reply = .ok (.reply r) ∧
    receipt.transcriptDigest = expectedTranscript K receipt o r

theorem checkTranscript_eq_ok_iff {offer reply : Option String} :
    checkTranscript K receipt offer reply = .ok () ↔
      ∀ o ∈ offer, ∀ r ∈ reply, FitsFiles K receipt o r := by
  cases offer with
  | none => simp [checkTranscript]
  | some o =>
    cases reply with
    | none => simp [checkTranscript]
    | some r =>
      simp only [checkTranscript, Except.bind_eq_ok_iff, decodeOffer_eq_ok_iff,
        decodeReply_eq_ok_iff, Option.mem_some_iff, forall_eq', FitsFiles, Except.throw_eq_error,
        Except.ite_error_eq_ok_iff, not_not, Except.pure_eq_ok, and_true]
      constructor
      · rintro ⟨o', ho, r', hr, hdigest⟩
        exact ⟨o', r', ho, hr, hdigest⟩
      · rintro ⟨o', r', ho, hr, hdigest⟩
        exact ⟨o', ho, r', hr, hdigest⟩

theorem checkExpectRoots_eq_ok_iff {expectRootA expectRootB : Option String} :
    checkExpectRoots receipt expectRootA expectRootB = .ok () ↔
      ∀ a ∈ expectRootA, ∀ b ∈ expectRootB,
        Hex.decode a = .ok receipt.setRootA.toList ∧
          Hex.decode b = .ok receipt.setRootB.toList := by
  cases expectRootA with
  | none => simp [checkExpectRoots]
  | some a =>
    cases expectRootB with
    | none => simp [checkExpectRoots]
    | some b =>
      simp only [checkExpectRoots, Except.bind_eq_ok_iff, parseBytes32_eq_ok_iff,
        Option.mem_some_iff, forall_eq', Except.throw_eq_error, Except.error_bind,
        Except.ite_error_eq_ok_iff, not_not, Except.pure_eq_ok, and_true]
      constructor
      · rintro ⟨rootA, ha, rootB, hb, rfl, rfl⟩
        exact ⟨ha, hb⟩
      · rintro ⟨ha, hb⟩
        exact ⟨_, ha, _, hb, rfl, rfl⟩

/-- A transcript is compared only if both files are given, and roots only if both are. -/
theorem cmdWireBoundVerify_eq_ok_iff {receipt : String}
    {expectSession offer reply expectRootA expectRootB : Option String} :
    cmdWireBoundVerify K receipt expectSession offer reply expectRootA expectRootB = .ok () ↔
      ∃ r, K.fromStr WireBoundReceipt.deserialize receipt = .ok r ∧ r.verify K = .ok () ∧
        (∀ s ∈ expectSession, r.sessionId = s) ∧
        (∀ o ∈ offer, ∀ p ∈ reply, FitsFiles K r o p) ∧
        ∀ a ∈ expectRootA, ∀ b ∈ expectRootB,
          Hex.decode a = .ok r.setRootA.toList ∧ Hex.decode b = .ok r.setRootB.toList := by
  unfold cmdWireBoundVerify
  rw [Except.bind_eq_ok_iff]
  simp only [Except.bind_unit_eq_ok_iff, Except.mapError_eq_ok_iff, checkExpectSession_eq_ok_iff,
    checkTranscript_eq_ok_iff, checkExpectRoots_eq_ok_iff]

end WireBound

/-! ## Invites -/

/-- The clock is read again for every check. -/
structure InviteReadings where
  verifiedAt : UInt64
  issuerAt : UInt64
  peerAt : UInt64
  sessionAt : UInt64

def checkExpectIssuer (K : Crates) (now : UInt64) (ticket : InviteTicket) :
    Option String → Except VerifyError Unit
  | none => .ok ()
  | some hex => do
    let expected ← (PublicIdentity.fromHex K hex).mapError (fun e => VerifyError.cli (.identity e))
    (ticket.verifyIssuer K now expected).mapError VerifyError.invite

def checkForPeer (K : Crates) (now : UInt64) (ticket : InviteTicket) :
    Option String → Except VerifyError Unit
  | none => .ok ()
  | some hex => do
    let peer ← (PublicIdentity.fromHex K hex).mapError (fun e => VerifyError.cli (.identity e))
    (ticket.verifyForPeer K now peer).mapError VerifyError.invite

/-- The default is there for the check of a session. -/
def verificationMode : Option String → Except CliError IntersectionMode
  | none => .ok .intersection
  | some m => parseMode m

def checkForSession (K : Crates) (now : UInt64) (ticket : InviteTicket) :
    Option String → Option String → Except VerifyError Unit
  | none, _ => .ok ()
  | some session, forMode => do
    let mode ← (verificationMode forMode).mapError VerifyError.cli
    (ticket.verifyForSession K now session mode).mapError VerifyError.invite

def cmdInviteVerify (K : Crates) (t : InviteReadings) (ticket : String)
    (expectIssuer forPeer forSession forMode : Option String) : Except VerifyError Unit := do
  let ticket ← (InviteTicket.fromJson K ticket).mapError VerifyError.ticketFile
  (ticket.verify K t.verifiedAt).mapError VerifyError.invite
  checkExpectIssuer K t.issuerAt ticket expectIssuer
  checkForPeer K t.peerAt ticket forPeer
  checkForSession K t.sessionAt ticket forSession forMode

section Invites
variable {K : Crates} {now : UInt64} {ticket : InviteTicket}

theorem checkExpectIssuer_eq_ok_iff {expectIssuer : Option String} :
    checkExpectIssuer K now ticket expectIssuer = .ok () ↔
      ∀ hex ∈ expectIssuer, ticket.verify K now = .ok () ∧
        PublicIdentity.fromHex K hex = .ok ticket.issuerPubkey := by
  cases expectIssuer with
  | none => simp [checkExpectIssuer]
  | some hex =>
    simp only [checkExpectIssuer, Except.bind_eq_ok_iff, Except.mapError_eq_ok_iff,
      InviteTicket.verifyIssuer_eq_ok_iff, Option.mem_some_iff, forall_eq']
    constructor
    · rintro ⟨_, hhex, hverify, rfl⟩
      exact ⟨hverify, hhex⟩
    · rintro ⟨hverify, hhex⟩
      exact ⟨_, hhex, hverify, rfl⟩

theorem checkForPeer_eq_ok_iff {forPeer : Option String} :
    checkForPeer K now ticket forPeer = .ok () ↔
      ∀ hex ∈ forPeer, ticket.verify K now = .ok () ∧
        ∃ peer, PublicIdentity.fromHex K hex = .ok peer ∧ ∀ p ∈ ticket.peerPubkey, p = peer := by
  cases forPeer with
  | none => simp [checkForPeer]
  | some hex =>
    simp only [checkForPeer, Except.bind_eq_ok_iff, Except.mapError_eq_ok_iff,
      InviteTicket.verifyForPeer_eq_ok_iff, Option.mem_some_iff, forall_eq']
    constructor
    · rintro ⟨peer, hhex, hverify, hpeer⟩
      exact ⟨hverify, peer, hhex, hpeer⟩
    · rintro ⟨hverify, peer, hhex, hpeer⟩
      exact ⟨peer, hhex, hverify, hpeer⟩

theorem checkForSession_eq_ok_iff {forSession forMode : Option String} :
    checkForSession K now ticket forSession forMode = .ok () ↔
      ∀ s ∈ forSession, ticket.verify K now = .ok () ∧ ticket.sessionId = s ∧
        ∃ mode, verificationMode forMode = .ok mode ∧
          ticket.allowedMode.permits mode = true := by
  cases forSession with
  | none => simp [checkForSession]
  | some s =>
    simp only [checkForSession, Except.bind_eq_ok_iff, Except.mapError_eq_ok_iff,
      InviteTicket.verifyForSession_eq_ok_iff, Option.mem_some_iff, forall_eq']
    constructor
    · rintro ⟨mode, hparse, hverify, hsession, hpermits⟩
      exact ⟨hverify, hsession, mode, hparse, hpermits⟩
    · rintro ⟨hverify, hsession, mode, hparse, hpermits⟩
      exact ⟨mode, hparse, hverify, hsession, hpermits⟩

/-- The readings that a call with the given arguments takes. -/
def InviteReadings.taken (t : InviteReadings) (expectIssuer forPeer forSession : Option String) :
    List UInt64 :=
  t.verifiedAt :: ((expectIssuer.map fun _ => t.issuerAt).toList ++
    ((forPeer.map fun _ => t.peerAt).toList ++ (forSession.map fun _ => t.sessionAt).toList))

theorem forall_mem_taken {t : InviteReadings} {expectIssuer forPeer forSession : Option String}
    {p : UInt64 → Prop} :
    (∀ now ∈ t.taken expectIssuer forPeer forSession, p now) ↔ p t.verifiedAt ∧
      (∀ _ ∈ expectIssuer, p t.issuerAt) ∧ (∀ _ ∈ forPeer, p t.peerAt) ∧
        ∀ _ ∈ forSession, p t.sessionAt := by
  have hoption : ∀ (o : Option String) (now : UInt64),
      (∀ n ∈ (o.map fun _ => now).toList, p n) ↔ ∀ _ ∈ o, p now := by
    intro o now
    cases o <;> simp
  rw [InviteReadings.taken, List.forall_mem_cons, List.forall_mem_append, List.forall_mem_append,
    hoption, hoption, hoption]

/-- A mode is looked at only if a session is given. -/
theorem cmdInviteVerify_eq_ok_iff {t : InviteReadings} {ticket : String}
    {expectIssuer forPeer forSession forMode : Option String} :
    cmdInviteVerify K t ticket expectIssuer forPeer forSession forMode = .ok () ↔
      ∃ i, InviteTicket.fromJson K ticket = .ok i ∧
        (∀ now ∈ t.taken expectIssuer forPeer forSession, i.verify K now = .ok ()) ∧
        (∀ hex ∈ expectIssuer, PublicIdentity.fromHex K hex = .ok i.issuerPubkey) ∧
        (∀ hex ∈ forPeer, ∃ peer, PublicIdentity.fromHex K hex = .ok peer ∧
          ∀ p ∈ i.peerPubkey, p = peer) ∧
        (∀ s ∈ forSession, i.sessionId = s) ∧
        ∀ _ ∈ forSession, ∃ mode, verificationMode forMode = .ok mode ∧
          i.allowedMode.permits mode = true := by
  unfold cmdInviteVerify
  rw [Except.bind_eq_ok_iff]
  simp only [Except.bind_unit_eq_ok_iff, Except.mapError_eq_ok_iff, checkExpectIssuer_eq_ok_iff,
    checkForPeer_eq_ok_iff, checkForSession_eq_ok_iff, forall_mem_taken]
  refine exists_congr fun i => and_congr_right fun _ => ?_
  constructor
  · rintro ⟨hverified, hissuer, hpeer, hsession⟩
    exact ⟨⟨hverified, fun hex h => (hissuer hex h).1, fun hex h => (hpeer hex h).1,
      fun s h => (hsession s h).1⟩, fun hex h => (hissuer hex h).2, fun hex h => (hpeer hex h).2,
      fun s h => (hsession s h).2.1, fun s h => (hsession s h).2.2⟩
  · rintro ⟨⟨hverified, hissuerAt, hpeerAt, hsessionAt⟩, hissuer, hpeer, hsession, hmode⟩
    exact ⟨hverified, fun hex h => ⟨hissuerAt hex h, hissuer hex h⟩,
      fun hex h => ⟨hpeerAt hex h, hpeer hex h⟩,
      fun s h => ⟨hsessionAt s h, hsession s h, hmode s h⟩⟩

end Invites

/-- Roots that are given together, messages that are given together, and a mode that is given
with a session are enforced, each for itself, as every other expectation is. -/
theorem expectations_enforced (K : Crates) :
    (∀ (text : String) (roots : Option (String × String)),
      cmdReceiptVerify K text (roots.map Prod.fst) (roots.map Prod.snd) = .ok () ↔
        ∃ r, K.fromStr IntersectionReceipt.deserialize text = .ok r ∧ r.verify K = .ok () ∧
          (∀ a ∈ roots.map Prod.fst, Hex.decode a = .ok r.setRootA.toList) ∧
          ∀ b ∈ roots.map Prod.snd, Hex.decode b = .ok r.setRootB.toList) ∧
    (∀ (text : String) (session : Option String) (files roots : Option (String × String)),
      cmdWireBoundVerify K text session (files.map Prod.fst) (files.map Prod.snd)
          (roots.map Prod.fst) (roots.map Prod.snd) = .ok () ↔
        ∃ r, K.fromStr WireBoundReceipt.deserialize text = .ok r ∧ r.verify K = .ok () ∧
          (∀ s ∈ session, r.sessionId = s) ∧ (∀ f ∈ files, FitsFiles K r f.1 f.2) ∧
          (∀ a ∈ roots.map Prod.fst, Hex.decode a = .ok r.setRootA.toList) ∧
          ∀ b ∈ roots.map Prod.snd, Hex.decode b = .ok r.setRootB.toList) ∧
    ∀ (t : InviteReadings) (text : String) (issuer peer : Option String)
        (session : Option (String × Option String)),
      cmdInviteVerify K t text issuer peer (session.map Prod.fst) (session.bind Prod.snd) =
          .ok () ↔
        ∃ i, InviteTicket.fromJson K text = .ok i ∧
          (∀ now ∈ t.taken issuer peer (session.map Prod.fst), i.verify K now = .ok ()) ∧
          (∀ hex ∈ issuer, PublicIdentity.fromHex K hex = .ok i.issuerPubkey) ∧
          (∀ hex ∈ peer, ∃ p, PublicIdentity.fromHex K hex = .ok p ∧
            ∀ q ∈ i.peerPubkey, q = p) ∧
          (∀ s ∈ session.map Prod.fst, i.sessionId = s) ∧
          ∀ s ∈ session, ∃ mode, verificationMode s.2 = .ok mode ∧
            i.allowedMode.permits mode = true := by
  have hpair : ∀ (roots : Option (String × String)) (p q : String → Prop),
      (∀ a ∈ roots.map Prod.fst, ∀ b ∈ roots.map Prod.snd, p a ∧ q b) ↔
        (∀ a ∈ roots.map Prod.fst, p a) ∧ ∀ b ∈ roots.map Prod.snd, q b := by
    intro roots p q
    cases roots <;> simp
  refine ⟨fun text roots => ?_, fun text session files roots => ?_,
    fun t text issuer peer session => ?_⟩
  · rw [cmdReceiptVerify_eq_ok_iff]
    simp only [hpair]
  · have hfiles : ∀ r, (∀ o ∈ files.map Prod.fst, ∀ p ∈ files.map Prod.snd, FitsFiles K r o p) ↔
        ∀ f ∈ files, FitsFiles K r f.1 f.2 := by
      intro r
      cases files <;> simp
    rw [cmdWireBoundVerify_eq_ok_iff]
    simp only [hpair, hfiles]
  · have hmode : ∀ i : InviteTicket, (∀ _ ∈ session.map Prod.fst,
        ∃ mode, verificationMode (session.bind Prod.snd) = .ok mode ∧
          i.allowedMode.permits mode = true) ↔
        ∀ s ∈ session, ∃ mode, verificationMode s.2 = .ok mode ∧
          i.allowedMode.permits mode = true := by
      intro i
      cases session <;> simp
    rw [cmdInviteVerify_eq_ok_iff]
    simp only [hmode]

/-! ## Expectations on their own -/

def countReceipt : IntersectionReceipt :=
  (ReceiptSigner.mk (filled 7)).sign .reference (filled 1) (filled 2) (.cardinality 3) .cardinality

def countWireReceipt : WireBoundReceipt :=
  (ReceiptSigner.mk (filled 7)).signWireBound .reference "s" ⟨filled 3⟩ ⟨filled 4⟩ ⟨filled 5⟩
    (filled 1) (filled 2) (.cardinality 3) .cardinality

def countTicket : InviteTicket :=
  .issue .reference 1000 (.fromSeed (filled 7)) "s" none .cardinality 600

theorem read_pretty {α : Type} {write : α → Json} {read : Json → Except DecodeError α} {a : α}
    (h : Json.Keeps Crates.nestingLimit write read a) :
    Crates.reference.fromStr read (Crates.reference.jsonToStringPretty (write a)) = .ok a :=
  fromStr_pretty_of_keeps Crates.reference_parsesPretty h

theorem read_countTicket :
    InviteTicket.fromJson .reference (countTicket.toJsonPretty .reference) = .ok countTicket :=
  read_pretty (InviteTicket.keeps (fun _ _ => rfl))

theorem verify_countTicket : countTicket.verify .reference 1000 = .ok () :=
  InviteTicket.verify_issue (Crates.reference_proper _) (by decide) _ _ _

/-- One root without the other, one message without the other and a mode without a session are
ignored, and a session without a mode is checked for more than the session. -/
theorem expectations_ignored :
    (cmdReceiptVerify .reference (Crates.reference.jsonToStringPretty countReceipt.serialize)
        (some "no root") none = .ok () ∧
      ∃ e, Hex.decode "no root" = .error e) ∧
    (cmdWireBoundVerify .reference (Crates.reference.jsonToStringPretty countWireReceipt.serialize)
        none (some "no message") none none (some "no root") = .ok () ∧
      ∃ e, decode .reference "no message" = .error e) ∧
    (cmdInviteVerify .reference ⟨1000, 1000, 1000, 1000⟩ (countTicket.toJsonPretty .reference)
        none none none (some "no mode") = .ok () ∧ ∃ e, parseMode "no mode" = .error e) ∧
    countTicket.verify .reference 1000 = .ok () ∧ countTicket.sessionId = "s" ∧
      cmdInviteVerify .reference ⟨1000, 1000, 1000, 1000⟩ (countTicket.toJsonPretty .reference)
        none none (some "s") none ≠ .ok () := by
  refine ⟨⟨?_, _, rfl⟩, ⟨?_, _, rfl⟩, ⟨?_, _, rfl⟩, verify_countTicket, rfl, ?_⟩
  · refine cmdReceiptVerify_eq_ok_iff.mpr ⟨_, read_pretty countReceipt.keeps, ?_, by simp⟩
    exact ReceiptSigner.verify_sign (Crates.reference_proper _) _ _ _ _
  · refine cmdWireBoundVerify_eq_ok_iff.mpr ⟨_, read_pretty countWireReceipt.keeps, ?_, by simp⟩
    exact (WireBoundReceipt.verifyWithBindings_eq_ok_iff.mp
      (ReceiptSigner.verify_signWireBound (Crates.reference_proper _) _ _ _ _ _ _ _ _)).1
  · refine cmdInviteVerify_eq_ok_iff.mpr ⟨_, read_countTicket, ?_, by simp⟩
    simpa [InviteReadings.taken] using verify_countTicket
  · rw [Ne, cmdInviteVerify_eq_ok_iff]
    rintro ⟨i, hi, -, -, -, -, hmode⟩
    cases read_countTicket.symm.trans hi
    obtain ⟨mode, hmode, hpermits⟩ := hmode "s" rfl
    cases hmode
    exact absurd hpermits (by decide)

end Cli

end BlindOverlap
