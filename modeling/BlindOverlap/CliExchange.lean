import BlindOverlap.CliRestore
import BlindOverlap.Correctness

/-!
# An exchange through files

The four commands in order, each reading what the earlier ones wrote. The later two
work with sessions that are rebuilt from state files, and the secret in these is
always zero: they compare masks of two different secrets on one side, and masks of
identifiers with masks of the zero point on the other.
-/
namespace BlindOverlap

namespace Cli

/-- The arguments of an exchange, up to the files it writes itself. Signing is a
choice of each sending command, and expecting a signer one of each command. -/
structure ExchangeArgs where
  session : String
  mode : IntersectionMode
  inputA : String
  inputB : String
  ttlA : Option UInt64
  ttlB : Option UInt64
  offerIdentity : Option PartyIdentity
  replyIdentity : Option PartyIdentity
  revealIdentity : Option PartyIdentity
  offerExpects : Option PublicIdentity
  replyExpects : Option PublicIdentity
  completeExpects : Option PublicIdentity
  revealExpects : Option PublicIdentity

/-- Clock readings and drawn values of the four commands. -/
structure CommandReadings where
  createdAt : UInt64
  offerCheckedAt : UInt64
  replySentAt : UInt64
  rebuiltAt : UInt64
  replyCheckedAt : UInt64
  revealSentAt : UInt64
  rebuiltOfferCheckedAt : UInt64
  rebuiltReplySentAt : UInt64
  revealCheckedAt : UInt64
  drawnA : Drawn
  drawnB : Drawn
  paddingA : Bytes 32
  paddingB : Bytes 32
  replyNonce : SessionNonce
  rebuiltNonceA : SessionNonce
  revealNonce : SessionNonce
  rebuiltNonceB : SessionNonce
  rebuiltReplyNonce : SessionNonce

structure ExchangeFiles where
  offered : Written
  replied : Written
  completed : Completed
  revealed : String

namespace ExchangeArgs

/-- Identity files hold what was saved in them. -/
def identityFile (K : Crates) (o : Option PartyIdentity) : Option String :=
  o.map (PartyIdentity.saveToFile K)

def offerArgs (K : Crates) (args : ExchangeArgs) : OfferArgs where
  input := args.inputA
  session := args.session
  mode := modeName args.mode
  ttlSecs := args.ttlA
  padTo := none
  padSecret := none
  identity := identityFile K args.offerIdentity
  expectPeer := args.offerExpects.map PublicIdentity.toHex

def replyArgs (K : Crates) (args : ExchangeArgs) (offered : Written) : ReplyArgs where
  input := args.inputB
  offer := offered.message
  mode := modeName args.mode
  ttlSecs := args.ttlB
  padTo := none
  padSecret := none
  identity := identityFile K args.replyIdentity
  expectPeer := args.replyExpects.map PublicIdentity.toHex

def completeArgs (K : Crates) (args : ExchangeArgs) (offered replied : Written) :
    CompleteArgs where
  reply := replied.message
  state := offered.state
  withReveal := true
  identity := identityFile K args.revealIdentity
  expectPeer := args.completeExpects.map PublicIdentity.toHex

def revealArgs (args : ExchangeArgs) (replied : Written) (completed : Completed) :
    RevealArgs where
  reveal := completed.reveal.getD ""
  state := replied.state
  expectPeer := args.revealExpects.map PublicIdentity.toHex

end ExchangeArgs

/-- The four commands, without padding. -/
def exchangeFiles (K : Crates) (c : CommandReadings) (args : ExchangeArgs) :
    Except CliError ExchangeFiles := do
  let offered ← cmdOnlineOffer K c.createdAt c.drawnA c.paddingA (args.offerArgs K)
  let replied ← cmdOnlineReply K c.offerCheckedAt c.replySentAt c.drawnB c.replyNonce c.paddingB
    (args.replyArgs K offered)
  let completed ← cmdOnlineComplete K c.rebuiltAt c.replyCheckedAt c.revealSentAt c.rebuiltNonceA
    c.revealNonce (args.completeArgs K offered replied)
  let revealed ← cmdOnlineReveal K c.rebuiltOfferCheckedAt c.rebuiltReplySentAt c.revealCheckedAt
    c.rebuiltNonceB c.rebuiltReplyNonce (args.revealArgs replied completed)
  return { offered, replied, completed, revealed }

/-! ## Files read back -/

theorem loadIdentity_saveToFile {K : Crates} (hK : K.ParsesPretty) (o : Option PartyIdentity) :
    loadIdentity K (ExchangeArgs.identityFile K o) = .ok o := by
  cases o with
  | none => rfl
  | some p =>
    simp [ExchangeArgs.identityFile, loadIdentity, PartyIdentity.loadFromFile_saveToFile hK]

theorem parseExpectPeer_toHex {K : Crates} {o : Option PublicIdentity}
    (h : ∀ p ∈ o, K.verifyingKeyFromBytes p.bytes = .ok ()) :
    parseExpectPeer K (o.map PublicIdentity.toHex) = .ok o := by
  cases o with
  | none => rfl
  | some p =>
    simp [parseExpectPeer, PublicIdentity.fromHex_toHex, PublicIdentity.fromBytes, h p rfl]

/-- Whoever is expected is the one who signs. -/
def Expects (K : Crates) (expected : Option PublicIdentity) (signer : Option PartyIdentity) :
    Prop :=
  ∀ p ∈ expected, ∃ identity ∈ signer, identity.publicIdentity K = p

theorem Expects.decodes {K : Crates} {expected : Option PublicIdentity}
    {signer : Option PartyIdentity} (h : Expects K expected signer)
    (hs : ∀ identity ∈ signer, identity.Proper K) :
    ∀ p ∈ expected, K.verifyingKeyFromBytes p.bytes = .ok () := by
  intro p hp
  obtain ⟨identity, hid, rfl⟩ := h p hp
  exact (hs identity hid).decodes

/-- A valid message reads back, signed or not. -/
theorem readMessage_writeMessage {K : Crates} (hK : K.ParsesPretty)
    {expected : Option PublicIdentity} {signer : Option PartyIdentity}
    (h : Expects K expected signer) (hs : ∀ identity ∈ signer, identity.Proper K)
    {m : WireMessage} (hm : m.validate = .ok ()) :
    readMessage K expected (writeMessage K signer m) = .ok m := by
  cases expected with
  | some p =>
    obtain ⟨identity, hid, rfl⟩ := h p rfl
    obtain rfl := Option.mem_def.mp hid
    simp only [readMessage, writeMessage,
      decodeSignedFromPeer_encodeSignedPretty hK (hs identity rfl) hm]
    rfl
  | none =>
    cases signer with
    | some identity =>
      simp only [readMessage, writeMessage,
        decodeSigned_encodeSignedPretty hK (hs identity rfl) hm]
      rfl
    | none =>
      simp only [readMessage, writeMessage, decodeSigned_encodePretty hK,
        decode_encodePretty hK hm, Except.mapError_ok]

section Messages
variable {K : Crates} {expected : Option PublicIdentity} {signer : Option PartyIdentity}

theorem readOffer_writeMessage (hK : K.ParsesPretty) (h : Expects K expected signer)
    (hs : ∀ identity ∈ signer, identity.Proper K) {offer : MaskedSetOffer}
    (hoffer : offer.validate = .ok ()) :
    readOffer K expected (writeMessage K signer (.offer offer)) = .ok offer := by
  have hread := readMessage_writeMessage (m := .offer offer) hK h hs hoffer
  rw [readOffer, hread]
  rfl

theorem readReply_writeMessage (hK : K.ParsesPretty) (h : Expects K expected signer)
    (hs : ∀ identity ∈ signer, identity.Proper K) {reply : MaskedSetReply}
    (hreply : reply.validate = .ok ()) :
    readReply K expected (writeMessage K signer (.reply reply)) = .ok reply := by
  have hread := readMessage_writeMessage (m := .reply reply) hK h hs hreply
  rw [readReply, hread]
  rfl

theorem readReveal_writeMessage (hK : K.ParsesPretty) (h : Expects K expected signer)
    (hs : ∀ identity ∈ signer, identity.Proper K) {reveal : IntersectionReveal}
    (hreveal : reveal.validate = .ok ()) :
    readReveal K expected (writeMessage K signer (.reveal reveal)) = .ok reveal := by
  have hread := readMessage_writeMessage (m := .reveal reveal) hK h hs hreveal
  rw [readReveal, hread]
  rfl

end Messages

/-! ## The run -/

/-- Two readable sets of allowed size, an offer answered in time, proper keys, and
each command expecting whoever signs for it, if anyone. -/
structure Honest (K : Crates) (c : CommandReadings) (args : ExchangeArgs) (s t : FactSet) :
    Prop where
  readsA : loadFactSet K args.inputA = .ok s
  readsB : loadFactSet K args.inputB = .ok t
  sizeA : s.len ≤ maxSetSize
  sizeB : t.len ≤ maxSetSize
  inTime : InTime (args.ttlA.getD defaultTtlSecs) c.createdAt c.offerCheckedAt
  offerProper : ∀ identity ∈ args.offerIdentity, identity.Proper K
  replyProper : ∀ identity ∈ args.replyIdentity, identity.Proper K
  revealProper : ∀ identity ∈ args.revealIdentity, identity.Proper K
  offerExpects : Expects K args.offerExpects args.replyIdentity
  replyExpects : Expects K args.replyExpects args.offerIdentity
  completeExpects : Expects K args.completeExpects args.replyIdentity
  revealExpects : Expects K args.revealExpects args.revealIdentity

section Run
variable {K : Crates} {c : CommandReadings} {args : ExchangeArgs} {s t : FactSet}

/-- The session behind the offer. -/
def initiator (c : CommandReadings) (args : ExchangeArgs) (s : FactSet) : InitiatorSession :=
  .created c.createdAt c.drawnA args.session s args.mode (.withTtl (args.ttlA.getD defaultTtlSecs))

/-- The session behind the reply. -/
def responder (c : CommandReadings) (args : ExchangeArgs) (t : FactSet) : ResponderSession :=
  .created c.drawnB args.session t args.mode (.withTtl (args.ttlB.getD defaultTtlSecs))

/-- The state that the offer command saves. -/
def savedInitiator (K : Crates) (c : CommandReadings) (args : ExchangeArgs) (s : FactSet) :
    InitiatorState :=
  initiatorState (args.offerArgs K) s.idList ((initiator c args s).afterOffer K)
    ((initiator c args s).offerMessage K) (args.ttlA.getD defaultTtlSecs)

/-- What the offer command writes. -/
def offered (K : Crates) (c : CommandReadings) (args : ExchangeArgs) (s : FactSet) : Written where
  message := writeMessage K args.offerIdentity (.offer ((initiator c args s).offerMessage K))
  state := K.jsonToStringPretty (savedInitiator K c args s).toJson

theorem Honest.withConfig_initiator (h : Honest K c args s t) :
    InitiatorSession.withConfig c.createdAt c.drawnA args.session s args.mode
      (.withTtl (args.ttlA.getD defaultTtlSecs)) = .ok (initiator c args s) :=
  InitiatorSession.withConfig_eq_ok_iff.mpr ⟨h.sizeA, rfl⟩

theorem Honest.withConfig_responder (h : Honest K c args s t) :
    ResponderSession.withConfig c.drawnB args.session t args.mode
      (.withTtl (args.ttlB.getD defaultTtlSecs)) = .ok (responder c args t) :=
  ResponderSession.withConfig_eq_ok_iff.mpr ⟨h.sizeB, rfl⟩

theorem initiator_generateOffer (K : Crates) (c : CommandReadings) (args : ExchangeArgs)
    (s : FactSet) : (initiator c args s).generateOffer K =
      ⟨.ok ((initiator c args s).offerMessage K), (initiator c args s).afterOffer K⟩ :=
  rfl

theorem Honest.cmdOnlineOffer_eq (hK : K.ParsesPretty) (h : Honest K c args s t) :
    cmdOnlineOffer K c.createdAt c.drawnA c.paddingA (args.offerArgs K) =
      .ok (offered K c args s) := by
  simp only [cmdOnlineOffer, ExchangeArgs.offerArgs, h.readsA, Except.ok_bind, parseMode_modeName,
    h.withConfig_initiator, Except.mapError_ok, loadIdentity_saveToFile hK,
    parseExpectPeer_toHex (h.offerExpects.decodes h.replyProper), initiator_generateOffer, padTo,
    Except.pure_eq_ok]
  rfl

/-- The reply of the session behind it. -/
def replyOf (K : Crates) (c : CommandReadings) (args : ExchangeArgs) (s t : FactSet) :
    MaskedSetReply :=
  (responder c args t).replyMessage K c.replySentAt c.replyNonce
    ((initiator c args s).offerMessage K)

theorem replyOf_fresh (K : Crates) (c : CommandReadings) (args : ExchangeArgs) (s t : FactSet) :
    replyOf K c args s t =
      .newV2 args.session (Session.maskIds K c.drawnB.secret t.idList)
        (Session.maskReceived K c.drawnB.secret (Session.maskIds K c.drawnA.secret s.idList))
        c.drawnA.nonce c.drawnB.nonce (.new c.replySentAt (args.ttlB.getD defaultTtlSecs)) := rfl

/-- The state that the reply command saves. -/
def savedResponder (K : Crates) (c : CommandReadings) (args : ExchangeArgs) (s t : FactSet) :
    ResponderState :=
  responderState (args.replyArgs K (offered K c args s)) t.idList
    (((responder c args t).noteInitiatorNonce ((initiator c args s).offerMessage K)).afterReply K
      ((initiator c args s).offerMessage K))
    ((initiator c args s).offerMessage K) (replyOf K c args s t) (args.ttlB.getD defaultTtlSecs)

/-- What the reply command writes. -/
def replied (K : Crates) (c : CommandReadings) (args : ExchangeArgs) (s t : FactSet) : Written where
  message := writeMessage K args.replyIdentity (.reply (replyOf K c args s t))
  state := K.jsonToStringPretty (savedResponder K c args s t).toJson

theorem Honest.acceptsOffer (h : Honest K c args s t) :
    (responder c args t).AcceptsOffer c.offerCheckedAt ((initiator c args s).offerMessage K) where
  state := rfl
  sessionId := rfl
  fresh := fun _ _ => ⟨_, rfl, h.inTime.validate⟩

theorem Honest.readOffer_offered (hK : K.ParsesPretty) (h : Honest K c args s t) :
    readOffer K args.replyExpects (offered K c args s).message =
      .ok ((initiator c args s).offerMessage K) :=
  readOffer_writeMessage hK h.replyExpects h.offerProper
    ((initiator c args s).offerMessage_validate K)

theorem Honest.cmdOnlineReply_eq (hK : K.ParsesPretty) (h : Honest K c args s t) :
    cmdOnlineReply K c.offerCheckedAt c.replySentAt c.drawnB c.replyNonce c.paddingB
      (args.replyArgs K (offered K c args s)) = .ok (replied K c args s t) := by
  have hwith : ResponderSession.withConfig c.drawnB ((initiator c args s).offerMessage K).sessionId
      t args.mode (.withTtl (args.ttlB.getD defaultTtlSecs)) = .ok (responder c args t) :=
    h.withConfig_responder
  simp only [cmdOnlineReply, ExchangeArgs.replyArgs, h.readsB, Except.ok_bind,
    loadIdentity_saveToFile hK, parseExpectPeer_toHex (h.replyExpects.decodes h.offerProper),
    h.readOffer_offered hK, parseMode_modeName, hwith, Except.mapError_ok,
    ResponderSession.processOfferAndReply_of_accepts h.acceptsOffer, padTo, Except.pure_eq_ok]
  rfl

/-! ### The rebuilt sessions -/

/-- The initiator's session as it is rebuilt: its secret is the saved one. -/
def rebuiltInitiator (c : CommandReadings) (args : ExchangeArgs) (s : FactSet) :
    InitiatorSession :=
  .created c.rebuiltAt ⟨savedSecret, c.rebuiltNonceA⟩ args.session s args.mode .v1Compatible

def rebuiltResponder (c : CommandReadings) (args : ExchangeArgs) (t : FactSet) :
    ResponderSession :=
  .created ⟨savedSecret, c.rebuiltNonceB⟩ args.session t args.mode .v1Compatible

/-- What the two commands save of an honest exchange. -/
theorem Honest.savedInitiator_saved (h : Honest K c args s t) :
    SavedSet K (savedInitiator K c args s).mode (savedInitiator K c args s).factIdsHex
      (savedInitiator K c args s).secretHex s args.mode :=
  ⟨parseMode_modeName args.mode, rfl, rfl, fromIds_of_loadFactSet h.readsA, h.sizeA⟩

theorem Honest.savedResponder_saved (h : Honest K c args s t) :
    SavedSet K (savedResponder K c args s t).mode (savedResponder K c args s t).factIdsHex
      (savedResponder K c args s t).secretHex t args.mode :=
  ⟨parseMode_modeName args.mode, rfl, rfl, fromIds_of_loadFactSet h.readsB, h.sizeB⟩

theorem Honest.rebuild_initiator (h : Honest K c args s t) :
    (savedInitiator K c args s).rebuild K c.rebuiltAt c.rebuiltNonceA =
      .ok (rebuiltInitiator c args s) :=
  InitiatorState.rebuild_of_saved h.savedInitiator_saved c.rebuiltAt c.rebuiltNonceA

theorem Honest.rebuild_responder (h : Honest K c args s t) :
    (savedResponder K c args s t).rebuild K c.rebuiltNonceB = .ok (rebuiltResponder c args t) :=
  ResponderState.rebuild_of_saved h.savedResponder_saved c.rebuiltNonceB

/-- The state files read back. -/
theorem fromStr_offered (hK : K.ParsesPretty) :
    K.fromStr InitiatorState.fromJson (offered K c args s).state =
      .ok (savedInitiator K c args s) :=
  InitiatorState.fromStr_pretty hK _

theorem fromStr_replied (hK : K.ParsesPretty) :
    K.fromStr ResponderState.fromJson (replied K c args s t).state =
      .ok (savedResponder K c args s t) :=
  ResponderState.fromStr_pretty hK _

/-- The reveal of the rebuilt session, which is of version 1. -/
def revealOf (K : Crates) (c : CommandReadings) (args : ExchangeArgs) (t : FactSet) :
    IntersectionReveal :=
  .new args.session
    (Session.maskReceived K savedSecret (Session.maskIds K c.drawnB.secret t.idList))

/-- What the initiator's last command compares: its identifiers under both secrets
with the responder's under the saved secret and the responder's. -/
def completedResult (K : Crates) (c : CommandReadings) (args : ExchangeArgs) (s t : FactSet) :
    PsiResult :=
  intersectMasked K
    (Session.maskReceived K c.drawnB.secret (Session.maskIds K c.drawnA.secret s.idList))
    (Session.maskReceived K savedSecret (Session.maskIds K c.drawnB.secret t.idList))
    s.idList args.mode

/-- What the responder's last command compares: the reveal with zero points under
the saved secret. -/
def revealedResult (K : Crates) (c : CommandReadings) (args : ExchangeArgs) (s t : FactSet) :
    PsiResult :=
  intersectMasked K
    (Session.maskReceived K savedSecret (Session.maskIds K c.drawnB.secret t.idList))
    (Session.maskReceived K savedSecret (List.replicate s.len (Bytes.zero 32))) t.idList args.mode

def completed (K : Crates) (c : CommandReadings) (args : ExchangeArgs) (s t : FactSet) :
    Completed where
  report := report (completedResult K c args s t)
  reveal := some (writeMessage K args.revealIdentity (.reveal (revealOf K c args t)))

theorem Honest.readReply_replied (hK : K.ParsesPretty) (h : Honest K c args s t) :
    readReply K args.completeExpects (replied K c args s t).message =
      .ok (replyOf K c args s t) :=
  readReply_writeMessage hK h.completeExpects h.replyProper
    ((responder c args t).replyMessage_validate K ..)

theorem Honest.complete_reads (hK : K.ParsesPretty) (h : Honest K c args s t) :
    (args.completeArgs K (offered K c args s) (replied K c args s t)).Reads K
      (savedInitiator K c args s) args.revealIdentity args.completeExpects
        (replyOf K c args s t) where
  readsState := fromStr_offered hK
  readsIdentity := loadIdentity_saveToFile hK args.revealIdentity
  readsPeer := parseExpectPeer_toHex (h.completeExpects.decodes h.replyProper)
  readsReply := h.readReply_replied hK

theorem Honest.cmdOnlineComplete_eq (hK : K.ParsesPretty) (h : Honest K c args s t) :
    cmdOnlineComplete K c.rebuiltAt c.replyCheckedAt c.revealSentAt c.rebuiltNonceA c.revealNonce
      (args.completeArgs K (offered K c args s) (replied K c args s t)) =
        .ok (completed K c args s t) := by
  have hcount : (replyOf K c args s t).initiatorDoublyMasked.length = s.len := by
    rw [replyOf_fresh]
    exact (Session.length_maskReceived ..).trans (Session.length_maskIds ..)
  rw [cmdOnlineComplete_of_accepts (h.complete_reads hK) h.savedInitiator_saved rfl hcount]
  rfl

theorem savedResponder_rebuiltOffer (K : Crates) (c : CommandReadings) (args : ExchangeArgs)
    (s t : FactSet) :
    (savedResponder K c args s t).rebuiltOffer =
      .new args.session (List.replicate s.len (Bytes.zero 32)) := by
  have hlength : (savedResponder K c args s t).initiatorDoublyMaskedHex.length = s.len :=
    (List.length_map _).trans ((Session.length_maskReceived ..).trans (Session.length_maskIds ..))
  rw [ResponderState.rebuiltOffer, hlength]
  rfl

theorem acceptsOffer_rebuilt (c : CommandReadings) (args : ExchangeArgs) (t : FactSet)
    (elements : List MaskedElement) :
    (rebuiltResponder c args t).AcceptsOffer c.rebuiltOfferCheckedAt
      (.new args.session elements) :=
  ⟨rfl, rfl, fun h => nomatch h⟩

theorem Honest.reveal_reads (hK : K.ParsesPretty) (h : Honest K c args s t) :
    (args.revealArgs (replied K c args s t) (completed K c args s t)).Reads K
      (savedResponder K c args s t) args.revealExpects (revealOf K c args t) where
  readsState := fromStr_replied hK
  readsPeer := parseExpectPeer_toHex (h.revealExpects.decodes h.revealProper)
  readsReveal := readReveal_writeMessage hK h.revealExpects h.revealProper
    (IntersectionReveal.validate_new ..)

theorem Honest.cmdOnlineReveal_eq (hK : K.ParsesPretty) (h : Honest K c args s t) :
    cmdOnlineReveal K c.rebuiltOfferCheckedAt c.rebuiltReplySentAt c.revealCheckedAt c.rebuiltNonceB
      c.rebuiltReplyNonce (args.revealArgs (replied K c args s t) (completed K c args s t)) =
        .ok (report (revealedResult K c args s t)) := by
  have hcount : (revealOf K c args t).responderDoublyMasked.length = t.len :=
    (Session.length_maskReceived ..).trans (Session.length_maskIds ..)
  have hresult : revealedWith K (savedResponder K c args s t) t args.mode (revealOf K c args t) =
      revealedResult K c args s t := by
    rw [revealedWith, savedResponder_rebuiltOffer]
    rfl
  rw [cmdOnlineReveal_of_accepts (h.reveal_reads hK) h.savedResponder_saved rfl hcount, hresult]

theorem Honest.exchangeFiles_eq (hK : K.ParsesPretty) (h : Honest K c args s t) :
    exchangeFiles K c args =
      .ok ⟨offered K c args s, replied K c args s t, completed K c args s t,
        report (revealedResult K c args s t)⟩ := by
  simp only [exchangeFiles, h.cmdOnlineOffer_eq hK, h.cmdOnlineReply_eq hK,
    h.cmdOnlineComplete_eq hK, h.cmdOnlineReveal_eq hK, Except.ok_bind, Except.pure_eq_ok]

end Run

/-! ## What the reports say -/

/-- Key agreement as a commuting action that is injective for each secret: masks of
different secrets differ, and only zero is masked to zero. -/
structure ActsIdeally (K : Crates) (secrets : List StaticSecret) (points : List PublicKey) :
    Prop where
  commute : ∀ a ∈ secrets, ∀ b ∈ secrets, ∀ p ∈ points,
    K.diffieHellman a (K.diffieHellman b p) = K.diffieHellman b (K.diffieHellman a p)
  injective : ∀ a ∈ secrets, ∀ p ∈ points, ∀ q ∈ points,
    K.diffieHellman a p = K.diffieHellman a q → p = q
  injective_masked : ∀ a ∈ secrets, ∀ b ∈ secrets, ∀ b' ∈ secrets, ∀ p ∈ points, ∀ q ∈ points,
    K.diffieHellman a (K.diffieHellman b p) = K.diffieHellman a (K.diffieHellman b' q) →
      K.diffieHellman b p = K.diffieHellman b' q
  apart : ∀ a ∈ secrets, ∀ b ∈ secrets, ∀ p ∈ points, ∀ q ∈ points,
    K.diffieHellman a p = K.diffieHellman b q → clampInteger a = clampInteger b
  zero : ∀ a ∈ secrets, K.diffieHellman a (Bytes.zero 32) = Bytes.zero 32
  nonzero : ∀ a ∈ secrets, ∀ b ∈ secrets, ∀ p ∈ points,
    K.diffieHellman a (K.diffieHellman b p) ≠ Bytes.zero 32

/-- The secrets and points of an exchange through files. -/
abbrev MasksIdeally (K : Crates) (c : CommandReadings) (s t : FactSet) : Prop :=
  ActsIdeally K [c.drawnA.secret, c.drawnB.secret, savedSecret]
    ((s.idList ++ t.idList).map (Session.hashToPublicKey K))

section Reports
variable {K : Crates} {c : CommandReadings} {args : ExchangeArgs} {s t : FactSet}

theorem diffieHellman_congr (K : Crates) {a b : StaticSecret}
    (h : clampInteger a = clampInteger b) (p : PublicKey) :
    K.diffieHellman a p = K.diffieHellman b p := by
  rw [Crates.diffieHellman, h, Crates.diffieHellman]

theorem point_left {x : FactId} (hx : x ∈ s.ids) (t : FactSet) :
    Session.hashToPublicKey K x ∈ (s.idList ++ t.idList).map (Session.hashToPublicKey K) :=
  List.mem_map_of_mem (List.mem_append_left _ hx)

theorem point_right {y : FactId} (hy : y ∈ t.ids) (s : FactSet) :
    Session.hashToPublicKey K y ∈ (s.idList ++ t.idList).map (Session.hashToPublicKey K) :=
  List.mem_map_of_mem (List.mem_append_right _ hy)

/-- The initiator matches what it masked with its own secret against the saved one. -/
theorem completed_match_iff (hm : MasksIdeally K c s t) {x y : FactId} (hx : x ∈ s.ids)
    (hy : y ∈ t.ids) :
    K.diffieHellman savedSecret
        (K.diffieHellman c.drawnB.secret (Session.hashToPublicKey K y)) =
      K.diffieHellman c.drawnB.secret
        (K.diffieHellman c.drawnA.secret (Session.hashToPublicKey K x)) ↔
      clampInteger c.drawnA.secret = clampInteger savedSecret ∧
        Session.hashToPublicKey K x = Session.hashToPublicKey K y := by
  have hpx := point_left (K := K) hx t
  have hpy := point_right (K := K) hy s
  rw [hm.commute savedSecret (by simp) c.drawnB.secret (by simp) _ hpy]
  constructor
  · intro he
    have hmasked := hm.injective_masked _ (by simp) _ (by simp) _ (by simp) _ hpy _ hpx he
    have hclamp := hm.apart _ (by simp) _ (by simp) _ hpy _ hpx hmasked
    rw [diffieHellman_congr K hclamp] at hmasked
    exact ⟨hclamp.symm, (hm.injective _ (by simp) _ hpy _ hpx hmasked).symm⟩
  · rintro ⟨hclamp, he⟩
    rw [he, diffieHellman_congr K hclamp]

/-- The initiator's report: nothing, unless its secret acts as the saved one. -/
theorem completedResult_eq (hm : MasksIdeally K c s t) :
    completedResult K c args s t =
      .ofSet K (if clampInteger c.drawnA.secret = clampInteger savedSecret then
        alike K s.ids t.ids else .empty) args.mode := by
  rw [completedResult, doublyMasked_eq_map, doublyMasked_eq_map, FactSet.idList,
    intersectMasked_map]
  congr 1
  ext x
  simp only [OrderedSet.mem_filter, decide_eq_true_eq, List.mem_map]
  constructor
  · rintro ⟨hx, y, hy, he⟩
    obtain ⟨hclamp, hpoint⟩ := (completed_match_iff hm hx hy).mp he
    rw [if_pos hclamp, mem_alike]
    exact ⟨hx, y, hy, hpoint.symm⟩
  · intro hx
    split_ifs at hx with hclamp
    · obtain ⟨hx, y, hy, hpoint⟩ := mem_alike.mp hx
      exact ⟨hx, y, hy, (completed_match_iff hm hx hy).mpr ⟨hclamp, hpoint.symm⟩⟩
    · exact absurd hx (OrderedSet.mem_empty x)

/-- The responder's report: always nothing. -/
theorem revealedResult_eq (hm : MasksIdeally K c s t) :
    revealedResult K c args s t = .ofSet K .empty args.mode := by
  rw [revealedResult, doublyMasked_eq_map, FactSet.idList, intersectMasked_map]
  congr 1
  ext y
  simp only [OrderedSet.mem_filter, decide_eq_true_eq, OrderedSet.mem_empty, iff_false, not_and]
  intro hy hmem
  obtain ⟨-, he⟩ : s.len ≠ 0 ∧ _ := by
    simpa [Session.maskReceived, List.mem_replicate] using hmem
  rw [hm.zero _ (by simp)] at he
  exact hm.nonzero _ (by simp) _ (by simp) _ (point_right hy s) he

/-- Both final commands report the common identifiers. -/
def ExchangeFiles.ReportIntersection (K : Crates) (files : ExchangeFiles) (s t : FactSet)
    (mode : IntersectionMode) : Prop :=
  files.completed.report = report (.ofSet K (s.ids.inter t.ids) mode) ∧
    files.revealed = report (.ofSet K (s.ids.inter t.ids) mode)

theorem reportIntersection_iff (hm : MasksIdeally K c s t) {files : ExchangeFiles}
    (hc : files.completed.report = report (completedResult K c args s t))
    (hr : files.revealed = report (revealedResult K c args s t)) :
    files.ReportIntersection K s t args.mode ↔
      (∀ x ∈ s.ids, x ∉ t.ids) ∧
        (clampInteger c.drawnA.secret = clampInteger savedSecret →
          ∀ x ∈ s.ids, ∀ y ∈ t.ids,
            Session.hashToPublicKey K x ≠ Session.hashToPublicKey K y) := by
  have hempty : ∀ {u : OrderedSet FactId},
      report (.ofSet K .empty args.mode) = report (.ofSet K u args.mode) ↔ ∀ x, x ∉ u := by
    intro u
    rw [report_injective.eq_iff, eq_comm, PsiResult.ofSet_eq_empty_iff]
  have hcommon : (∀ x, x ∉ s.ids.inter t.ids) ↔ ∀ x ∈ s.ids, x ∉ t.ids := by
    simp
  rw [ExchangeFiles.ReportIntersection, hc, hr, completedResult_eq hm, revealedResult_eq hm, hempty,
    hcommon, and_comm]
  refine and_congr_right (fun hdisjoint => ?_)
  have hinter : s.ids.inter t.ids = .empty :=
    OrderedSet.eq_empty_iff.mpr (hcommon.mpr hdisjoint)
  rw [hinter, report_injective.eq_iff, PsiResult.ofSet_eq_empty_iff]
  split_ifs with hclamp
  · simp only [mem_alike, hclamp, true_imp_iff, not_and, not_exists, ne_eq]
    exact forall₂_congr (fun x hx => forall₂_congr (fun y hy => not_congr eq_comm))
  · simp [hclamp]

/-! ## What the rebuilt sessions regenerate -/

/-- The rebuilt session offers the elements that were saved. -/
def InitiatorState.Regenerates (K : Crates) (now : UInt64) (nonce : SessionNonce)
    (state : InitiatorState) : Prop :=
  ∃ session, state.rebuild K now nonce = .ok session ∧
    (session.generateOffer K).next.maskedElements.map hexList = some state.maskedElementsHex

/-- The rebuilt session masks its own elements and the initiator's as they were saved. -/
def ResponderState.Regenerates (K : Crates) (now sentAt : UInt64)
    (nonce replyNonce : SessionNonce) (state : ResponderState) : Prop :=
  ∃ session, state.rebuild K nonce = .ok session ∧
    let next := (session.processOfferAndReply K now sentAt replyNonce state.rebuiltOffer).next
    next.maskedElements.map hexList = some state.maskedElementsHex ∧
      next.initiatorDoublyMasked.map hexList = some state.initiatorDoublyMaskedHex

/-- Both state files of an exchange hold what their sessions regenerate. -/
def ExchangeFiles.RegenerateMasks (K : Crates) (c : CommandReadings) (files : ExchangeFiles) :
    Prop :=
  (∃ state, K.fromStr InitiatorState.fromJson files.offered.state = .ok state ∧
    state.Regenerates K c.rebuiltAt c.rebuiltNonceA) ∧
  ∃ state, K.fromStr ResponderState.fromJson files.replied.state = .ok state ∧
    state.Regenerates K c.rebuiltOfferCheckedAt c.rebuiltReplySentAt c.rebuiltNonceB
      c.rebuiltReplyNonce

theorem Honest.regenerates_initiator_iff (h : Honest K c args s t) :
    (savedInitiator K c args s).Regenerates K c.rebuiltAt c.rebuiltNonceA ↔
      Session.maskIds K savedSecret s.idList = Session.maskIds K c.drawnA.secret s.idList := by
  rw [InitiatorState.Regenerates, h.rebuild_initiator]
  constructor
  · rintro ⟨session, hsession, he⟩
    obtain rfl := Except.ok.inj hsession
    exact hexList_injective (Option.some.inj he)
  · intro he
    exact ⟨_, rfl, congrArg (some ∘ hexList) he⟩

theorem Honest.regenerates_responder_iff (h : Honest K c args s t) :
    (savedResponder K c args s t).Regenerates K c.rebuiltOfferCheckedAt c.rebuiltReplySentAt
        c.rebuiltNonceB c.rebuiltReplyNonce ↔
      Session.maskIds K savedSecret t.idList = Session.maskIds K c.drawnB.secret t.idList ∧
        Session.maskReceived K savedSecret (List.replicate s.len (Bytes.zero 32)) =
          Session.maskReceived K c.drawnB.secret (Session.maskIds K c.drawnA.secret s.idList) := by
  rw [ResponderState.Regenerates, h.rebuild_responder, savedResponder_rebuiltOffer]
  constructor
  · rintro ⟨session, hsession, hown, htheirs⟩
    obtain rfl := Except.ok.inj hsession
    rw [ResponderSession.processOfferAndReply_of_accepts (acceptsOffer_rebuilt ..)] at hown htheirs
    exact ⟨hexList_injective (Option.some.inj hown), hexList_injective (Option.some.inj htheirs)⟩
  · rintro ⟨hown, htheirs⟩
    refine ⟨_, rfl, ?_⟩
    rw [ResponderSession.processOfferAndReply_of_accepts (acceptsOffer_rebuilt ..)]
    exact ⟨congrArg (some ∘ hexList) hown, congrArg (some ∘ hexList) htheirs⟩

theorem maskIds_saved_iff (hm : MasksIdeally K c s t) :
    Session.maskIds K savedSecret t.idList = Session.maskIds K c.drawnB.secret t.idList ↔
      t.ids = .empty ∨ clampInteger c.drawnB.secret = clampInteger savedSecret := by
  rw [Session.maskIds, Session.maskIds, List.map_inj_left]
  constructor
  · intro he
    by_cases hnone : ∀ y, y ∉ t.ids
    · exact .inl (OrderedSet.eq_empty_iff.mpr hnone)
    · obtain ⟨y, hy⟩ := not_forall_not.mp hnone
      have hpy := point_right (K := K) hy s
      exact .inr (hm.apart _ (by simp) _ (by simp) _ hpy _ hpy (he y hy).symm)
  · rintro (hnone | hclamp) y hy
    · exact absurd hy (OrderedSet.eq_empty_iff.mp hnone y)
    · exact diffieHellman_congr K hclamp.symm _

/-- Zero points stand in for the initiator's elements, so it must have had none. -/
theorem maskReceived_zero_iff (hm : MasksIdeally K c s t) :
    Session.maskReceived K savedSecret (List.replicate s.len (Bytes.zero 32)) =
        Session.maskReceived K c.drawnB.secret (Session.maskIds K c.drawnA.secret s.idList) ↔
      s.ids = .empty := by
  rw [doublyMasked_eq_map, Session.maskReceived, List.map_replicate, hm.zero _ (by simp),
    OrderedSet.eq_empty_iff]
  constructor
  · intro he x hx
    have hmem : K.diffieHellman c.drawnB.secret
        (K.diffieHellman c.drawnA.secret (Session.hashToPublicKey K x)) ∈
          s.idList.map (fun x => K.diffieHellman c.drawnB.secret
            (K.diffieHellman c.drawnA.secret (Session.hashToPublicKey K x))) :=
      List.mem_map.mpr ⟨x, hx, rfl⟩
    rw [← he] at hmem
    exact hm.nonzero _ (by simp) _ (by simp) _ (point_left hx t) (List.eq_of_mem_replicate hmem)
  · intro hnone
    have hnil : s.idList = [] := List.eq_nil_iff_forall_not_mem.mpr hnone
    have hlen : s.len = 0 := congrArg List.length hnil
    rw [hnil, hlen]
    rfl

/-- The masks are regenerated only where there is nothing to mask, or where the
responder's secret acts as the saved one. -/
theorem Honest.regenerateMasks_iff (hK : K.ParsesPretty) (h : Honest K c args s t)
    (hm : MasksIdeally K c s t) {files : ExchangeFiles}
    (ho : files.offered = offered K c args s) (hr : files.replied = replied K c args s t) :
    files.RegenerateMasks K c ↔
      s.ids = .empty ∧
        (t.ids = .empty ∨ clampInteger c.drawnB.secret = clampInteger savedSecret) := by
  have hinitiator : (∃ state, K.fromStr InitiatorState.fromJson files.offered.state = .ok state ∧
      state.Regenerates K c.rebuiltAt c.rebuiltNonceA) ↔
        Session.maskIds K savedSecret s.idList = Session.maskIds K c.drawnA.secret s.idList := by
    rw [ho, fromStr_offered hK, ← h.regenerates_initiator_iff]
    simp
  have hresponder : (∃ state, K.fromStr ResponderState.fromJson files.replied.state = .ok state ∧
      state.Regenerates K c.rebuiltOfferCheckedAt c.rebuiltReplySentAt c.rebuiltNonceB
        c.rebuiltReplyNonce) ↔
        (t.ids = .empty ∨ clampInteger c.drawnB.secret = clampInteger savedSecret) ∧
          s.ids = .empty := by
    rw [hr, fromStr_replied hK, ← maskIds_saved_iff hm, ← maskReceived_zero_iff hm,
      ← h.regenerates_responder_iff]
    simp
  rw [ExchangeFiles.RegenerateMasks, hinitiator, hresponder]
  constructor
  · rintro ⟨-, hresponder, hnone⟩
    exact ⟨hnone, hresponder⟩
  · rintro ⟨hnone, hresponder⟩
    have hnil : s.idList = [] :=
      List.eq_nil_iff_forall_not_mem.mpr (OrderedSet.eq_empty_iff.mp hnone)
    exact ⟨by rw [hnil]; rfl, hresponder, hnone⟩

end Reports

/-- The four commands never fail on honest files. Both reports are the intersection
exactly when it is empty, provided the initiator's secret does not act as the saved
one; the rebuilt sessions also regenerate the saved masks exactly when the initiator
has no identifier, and the responder none or a secret that acts as the saved one. -/
theorem exchangeFiles_faithful_iff (K : Crates) (hK : K.ParsesPretty) (c : CommandReadings)
    (args : ExchangeArgs) (s t : FactSet) (h : Honest K c args s t) (hm : MasksIdeally K c s t) :
    ∃ files, exchangeFiles K c args = .ok files ∧
      (files.ReportIntersection K s t args.mode ↔
        (∀ x ∈ s.ids, x ∉ t.ids) ∧
          (clampInteger c.drawnA.secret = clampInteger savedSecret →
            ∀ x ∈ s.ids, ∀ y ∈ t.ids,
              Session.hashToPublicKey K x ≠ Session.hashToPublicKey K y)) ∧
      (files.ReportIntersection K s t args.mode ∧ files.RegenerateMasks K c ↔
        s.ids = .empty ∧
          (t.ids = .empty ∨ clampInteger c.drawnB.secret = clampInteger savedSecret)) := by
  refine ⟨_, h.exchangeFiles_eq hK, reportIntersection_iff hm rfl rfl, ?_⟩
  rw [reportIntersection_iff hm rfl rfl, h.regenerateMasks_iff hK hm rfl rfl]
  constructor
  · exact fun hboth => hboth.2
  · intro hcond
    have hnone := OrderedSet.eq_empty_iff.mp hcond.1
    exact ⟨⟨fun x hx => absurd hx (hnone x), fun _ x hx => absurd hx (hnone x)⟩, hcond⟩

/-! ### A concrete exchange -/

def sampleCommands : CommandReadings where
  createdAt := 1000
  offerCheckedAt := 1001
  replySentAt := 1002
  rebuiltAt := 1003
  replyCheckedAt := 1004
  revealSentAt := 1005
  rebuiltOfferCheckedAt := 1006
  rebuiltReplySentAt := 1007
  revealCheckedAt := 1008
  drawnA := ⟨sampleSecretA, ⟨filled 18⟩⟩
  drawnB := ⟨sampleSecretB, ⟨filled 34⟩⟩
  paddingA := filled 40
  paddingB := filled 41
  replyNonce := ⟨filled 42⟩
  rebuiltNonceA := ⟨filled 43⟩
  revealNonce := ⟨filled 44⟩
  rebuiltNonceB := ⟨filled 45⟩
  rebuiltReplyNonce := ⟨filled 46⟩

/-- Both sides have the same identifier, and the offer is signed. -/
def sampleArgs : ExchangeArgs where
  session := "sample"
  mode := .intersection
  inputA := report (.intersection [filled 5] (Bytes.zero 32))
  inputB := report (.intersection [filled 5] (Bytes.zero 32))
  ttlA := none
  ttlB := some 60
  offerIdentity := some ⟨filled 7⟩
  replyIdentity := none
  revealIdentity := none
  offerExpects := none
  replyExpects := some (PartyIdentity.publicIdentity .reference ⟨filled 7⟩)
  completeExpects := none
  revealExpects := none

def sampleSet : FactSet := .fromIds .reference [filled 5]

theorem loadFactSet_sample :
    loadFactSet .reference (report (.intersection [filled 5] (Bytes.zero 32))) = .ok sampleSet := by
  simp [loadFactSet, loadFactIds_report, sampleSet]

theorem sample_honest : Honest .reference sampleCommands sampleArgs sampleSet sampleSet where
  readsA := loadFactSet_sample
  readsB := loadFactSet_sample
  sizeA := by decide +kernel
  sizeB := by decide +kernel
  inTime := ⟨by decide, by decide⟩
  offerProper := fun identity _ => Crates.reference_proper identity
  replyProper := fun _ h => nomatch h
  revealProper := fun _ h => nomatch h
  offerExpects := fun _ h => nomatch h
  replyExpects := fun _ h => ⟨_, rfl, Option.some.inj h⟩
  completeExpects := fun _ h => nomatch h
  revealExpects := fun _ h => nomatch h

/-- The point of the sample identifier under each secret of the exchange. -/
def fiveUnder (a : StaticSecret) : Bytes 32 :=
  if a = sampleSecretA then pointsOfFive.underA
  else if a = sampleSecretB then pointsOfFive.underB
  else point "1006774eb9d63fb51c7850103f13bb55ab9ba6d1f82b28edb2378aeed2adbb21"

/-- And under two of them, the second first. -/
def fiveUnderTwo (a b : StaticSecret) : Bytes 32 :=
  if a = b then
    if a = sampleSecretA then
      point "296db68bb82d282870d46565dc731eb8045c6d1e564e5915c0508d4b5c6c4723"
    else if a = sampleSecretB then
      point "38c8f4bd1114456b017ac7ad431afdb135c16f21cfa1c2339f2947cb1f86083c"
    else point "0899ba01291e06ad207ca7657821790934c591dde4e11f97cde2b3483599b85b"
  else if a ≠ savedSecret ∧ b ≠ savedSecret then pointsOfFive.underBoth
  else if a = sampleSecretA ∨ b = sampleSecretA then
    point "42c283ffb4eedd018cc98ea77c34d8cd93ad080e8e9143d567fdc221cc308003"
  else point "0fcc1864dd678b7d52a58731a87fde1d34846d7124d3fb2aee2e766e76334467"

/-- Masks of a single point that are known for every secret. -/
theorem actsIdeally_of_table {K : Crates} {secrets : List StaticSecret} {p : PublicKey}
    {points : List PublicKey} (under : StaticSecret → Bytes 32)
    (underTwo : StaticSecret → StaticSecret → Bytes 32) (hp : ∀ q ∈ points, q = p)
    (hone : ∀ a ∈ secrets, K.diffieHellman a p = under a)
    (htwo : ∀ a ∈ secrets, ∀ b ∈ secrets, K.diffieHellman a (under b) = underTwo a b)
    (hcomm : ∀ a ∈ secrets, ∀ b ∈ secrets, underTwo a b = underTwo b a)
    (hinj : ∀ a ∈ secrets, ∀ b ∈ secrets, ∀ b' ∈ secrets,
      underTwo a b = underTwo a b' → under b = under b')
    (hapart : ∀ a ∈ secrets, ∀ b ∈ secrets, under a = under b → clampInteger a = clampInteger b)
    (hzero : ∀ a ∈ secrets, K.diffieHellman a (Bytes.zero 32) = Bytes.zero 32)
    (hnonzero : ∀ a ∈ secrets, ∀ b ∈ secrets, underTwo a b ≠ Bytes.zero 32) :
    ActsIdeally K secrets points where
  commute a ha b hb q hq := by
    rw [hp q hq, hone a ha, hone b hb, htwo a ha b hb, htwo b hb a ha, hcomm a ha b hb]
  injective a _ q hq q' hq' _ := (hp q hq).trans (hp q' hq').symm
  injective_masked a ha b hb b' hb' q hq q' hq' he := by
    rw [hp q hq, hp q' hq', hone b hb, hone b' hb', htwo a ha b hb, htwo a ha b' hb'] at he
    rw [hp q hq, hp q' hq', hone b hb, hone b' hb']
    exact hinj a ha b hb b' hb' he
  apart a ha b hb q hq q' hq' he := by
    rw [hp q hq, hp q' hq', hone a ha, hone b hb] at he
    exact hapart a ha b hb he
  zero := hzero
  nonzero a ha b hb q hq := by
    rw [hp q hq, hone b hb, htwo a ha b hb]
    exact hnonzero a ha b hb

theorem sample_masksIdeally : MasksIdeally .reference sampleCommands sampleSet sampleSet := by
  have hids : ∀ x ∈ sampleSet.idList ++ sampleSet.idList, x = filled 5 := by decide +kernel
  refine actsIdeally_of_table (p := pointsOfFive.plain) fiveUnder fiveUnderTwo ?_
    (by decide +kernel) (by decide +kernel) (by decide +kernel) (by decide +kernel)
    (by decide +kernel) (by decide +kernel) (by decide +kernel)
  intro q hq
  obtain ⟨x, hx, rfl⟩ := List.mem_map.mp hq
  rw [hids x hx]
  exact pointsOfFive_of.plain

theorem exchangeFiles_faithful_iff_sample :
    ∃ files, exchangeFiles .reference sampleCommands sampleArgs = .ok files ∧
      (files.ReportIntersection .reference sampleSet sampleSet .intersection ∧
          files.RegenerateMasks .reference sampleCommands ↔
        sampleSet.ids = .empty ∧
          (sampleSet.ids = .empty ∨ clampInteger sampleSecretB = clampInteger savedSecret)) := by
  obtain ⟨files, hfiles, -, hboth⟩ := exchangeFiles_faithful_iff .reference
    Crates.reference_parsesPretty sampleCommands sampleArgs sampleSet sampleSet sample_honest
    sample_masksIdeally
  exact ⟨files, hfiles, hboth⟩

/-- Two sides that share an identifier, and commands that report nothing. -/
theorem shared_identifier_unreported :
    Honest .reference sampleCommands sampleArgs sampleSet sampleSet ∧
      MasksIdeally .reference sampleCommands sampleSet sampleSet ∧
      ∃ files, exchangeFiles .reference sampleCommands sampleArgs = .ok files ∧
        files.completed.report ≠
          report (.ofSet .reference (sampleSet.ids.inter sampleSet.ids) .intersection) ∧
        files.revealed ≠
          report (.ofSet .reference (sampleSet.ids.inter sampleSet.ids) .intersection) ∧
        ¬ files.RegenerateMasks .reference sampleCommands := by
  have hmem : filled 5 ∈ sampleSet.ids := by decide +kernel
  have hclamp : clampInteger sampleSecretA ≠ clampInteger savedSecret := by decide +kernel
  have hnothing : ∀ {r : PsiResult}, r = .ofSet .reference .empty .intersection →
      report r ≠ report (.ofSet .reference (sampleSet.ids.inter sampleSet.ids) .intersection) := by
    rintro r rfl he
    have hnone := PsiResult.ofSet_eq_empty_iff.mp (report_injective he).symm
    exact hnone (filled 5) (OrderedSet.mem_inter.mpr ⟨hmem, hmem⟩)
  refine ⟨sample_honest, sample_masksIdeally, _,
    sample_honest.exchangeFiles_eq Crates.reference_parsesPretty, ?_, ?_, ?_⟩
  · refine hnothing ((completedResult_eq sample_masksIdeally).trans ?_)
    rw [if_neg (show clampInteger sampleCommands.drawnA.secret ≠ _ from hclamp)]
    rfl
  · exact hnothing (revealedResult_eq sample_masksIdeally)
  · refine mt (sample_honest.regenerateMasks_iff Crates.reference_parsesPretty sample_masksIdeally
      ?_ ?_).mp ?_
    · rfl
    · rfl
    · exact fun hcond => OrderedSet.eq_empty_iff.mp hcond.1 _ hmem

end Cli

end BlindOverlap
