import BlindOverlap.CliExchange
import BlindOverlap.Seal

/-!
# Exporting a session

The export command makes a record for audit out of a state file and message files. It
takes either side's state for the initiator's: what the two sides export of one exchange
agrees neither on its nonces nor on who sent what.
-/
namespace BlindOverlap

namespace Cli

inductive ExportError where
  | cli (e : CliError)
  | sealing (e : SealError)
  deriving DecidableEq

structure ExportArgs where
  sessionId : String
  state : String
  offer : Option String
  reply : Option String
  reveal : Option String
  completed : Bool
  identity : Option String

structure ExportReadings where
  offerAt : UInt64
  replyAt : UInt64
  revealAt : UInt64
  startedAt : UInt64
  exportedAt : UInt64
  sealedAt : UInt64

/-- A nonce that a state file holds under the given name, if it can be read. -/
def nonceIn (name : String) (state : Json) : Option SessionNonce :=
  ((state.get name).bind Json.asStr).bind (fun hex => (SessionNonce.fromHex hex).toOption)

/-- Adds the file's hash, if there is one. -/
def addFile (K : Crates) (now : UInt64) (direction : MessageDirection) (messageType : String)
    (file : Option String) (builder : SealedSessionBuilder) : SealedSessionBuilder :=
  match file with
  | some json => builder.addMessageHash K now direction messageType json
  | none => builder

/-- The record before it is built. The directions are those of an initiator. -/
def exportBuilder (K : Crates) (t : ExportReadings) (args : ExportArgs) (state : Json) :
    SealedSessionBuilder :=
  let builder := { SealedSessionBuilder.new with
    sessionId := some args.sessionId
    protocolVersion := 2
    status := if args.completed then .completed else .inProgress
    initiatorNonce := nonceIn "nonce_hex" state
    responderNonce := nonceIn "initiator_nonce_hex" state }
  let builder := addFile K t.offerAt .sent "offer" args.offer builder
  let builder := addFile K t.replyAt .received "reply" args.reply builder
  addFile K t.revealAt .sent "reveal" args.reveal builder

/-- The record that the command writes, sealed if there is an identity to seal it with. -/
def cmdSessionExport (K : Crates) (t : ExportReadings) (args : ExportArgs) :
    Except ExportError SealedSessionRecord := do
  let state ← (K.fromStr .ok args.state).mapError (fun e => ExportError.cli (.json e))
  let builder := exportBuilder K t args state
  let identity ← (loadIdentity K args.identity).mapError ExportError.cli
  match identity with
  | some identity =>
    ({ builder with localPubkey := some (identity.publicIdentity K) }.buildSealed K t.startedAt
      t.exportedAt t.sealedAt identity).mapError ExportError.sealing
  | none => (builder.build K t.startedAt t.exportedAt).mapError ExportError.sealing

/-! ## What a record carries -/

section Record
variable {K : Crates} {t : ExportReadings} {args : ExportArgs} {state : Json}

/-- The parts of a record that come from its builder. -/
structure CarriesBuilt (K : Crates) (t : ExportReadings) (args : ExportArgs) (state : Json)
    (r : SealedSessionRecord) : Prop where
  sessionId : r.sessionId = args.sessionId
  initiatorNonce : r.initiatorNonce = nonceIn "nonce_hex" state
  responderNonce : r.responderNonce = nonceIn "initiator_nonce_hex" state
  messages : r.messages = (exportBuilder K t args state).messages
  transcriptDigest : r.transcriptDigest =
    computeTranscriptDigest K r.sessionId r.initiatorNonce r.responderNonce r.messages

@[simp] theorem addFile_sessionId (now : UInt64) (direction : MessageDirection)
    (messageType : String) (file : Option String) (builder : SealedSessionBuilder) :
    (addFile K now direction messageType file builder).sessionId = builder.sessionId := by
  cases file <;> rfl

@[simp] theorem addFile_initiatorNonce (now : UInt64) (direction : MessageDirection)
    (messageType : String) (file : Option String) (builder : SealedSessionBuilder) :
    (addFile K now direction messageType file builder).initiatorNonce =
      builder.initiatorNonce := by
  cases file <;> rfl

@[simp] theorem addFile_responderNonce (now : UInt64) (direction : MessageDirection)
    (messageType : String) (file : Option String) (builder : SealedSessionBuilder) :
    (addFile K now direction messageType file builder).responderNonce =
      builder.responderNonce := by
  cases file <;> rfl

/-- The command succeeds whenever it can read its state and its identity. -/
theorem exists_export {identity : Option PartyIdentity}
    (hstate : K.fromStr .ok args.state = .ok state)
    (hidentity : loadIdentity K args.identity = .ok identity) :
    ∃ r, cmdSessionExport K t args = .ok r ∧ CarriesBuilt K t args state r := by
  have hsession : (exportBuilder K t args state).sessionId = some args.sessionId := by
    simp [exportBuilder]
  have hinitiator : (exportBuilder K t args state).initiatorNonce =
      nonceIn "nonce_hex" state := by
    simp [exportBuilder]
  have hresponder : (exportBuilder K t args state).responderNonce =
      nonceIn "initiator_nonce_hex" state := by
    simp [exportBuilder]
  cases identity with
  | none =>
    let b := exportBuilder K t args state
    let r := b.recordOf K (b.startedAt.getD t.startedAt) t.exportedAt args.sessionId
    have hbuild : b.build K t.startedAt t.exportedAt = .ok r := by
      rw [SealedSessionBuilder.build, hsession]
    refine ⟨r, ?_, ⟨rfl, hinitiator, hresponder, rfl, rfl⟩⟩
    simp only [cmdSessionExport, hstate, hidentity, Except.mapError_ok, Except.ok_bind]
    rw [hbuild, Except.mapError_ok]
  | some identity =>
    let b := { exportBuilder K t args state with
      localPubkey := some (identity.publicIdentity K) }
    let r := (b.recordOf K (b.startedAt.getD t.startedAt) t.exportedAt args.sessionId).sealWith K
      t.sealedAt identity
    have hbuild : b.buildSealed K t.startedAt t.exportedAt t.sealedAt identity = .ok r := by
      rw [SealedSessionBuilder.buildSealed, SealedSessionBuilder.build,
        show b.sessionId = some args.sessionId from hsession]
      rfl
    refine ⟨r, ?_, ⟨rfl, hinitiator, hresponder, rfl, rfl⟩⟩
    simp only [cmdSessionExport, hstate, hidentity, Except.mapError_ok, Except.ok_bind]
    exact congrArg (Except.mapError ExportError.sealing) hbuild

theorem addFile_directions (now : UInt64) (direction : MessageDirection) (messageType : String)
    (file : Option String) (builder : SealedSessionBuilder) :
    (addFile K now direction messageType file builder).messages.map WireMessageEntry.direction =
      builder.messages.map WireMessageEntry.direction ++
        (file.map (fun _ => direction)).toList := by
  cases file with
  | none => simp [addFile]
  | some json =>
    simp [addFile, SealedSessionBuilder.addMessageHash, SealedSessionBuilder.addEntry,
      createMessageEntry]

/-- The messages are listed in one order and with one direction each, whoever exports. -/
theorem CarriesBuilt.directions {r : SealedSessionRecord} (h : CarriesBuilt K t args state r) :
    r.messages.map WireMessageEntry.direction =
      (args.offer.map (fun _ => MessageDirection.sent)).toList ++
        (args.reply.map (fun _ => MessageDirection.received)).toList ++
          (args.reveal.map (fun _ => MessageDirection.sent)).toList := by
  rw [h.messages]
  simp only [exportBuilder, addFile_directions, SealedSessionBuilder.new, List.map_nil,
    List.nil_append]

end Record

/-! ## Nonces in state files -/

section States
variable {K : Crates}

theorem nonceIn_of_get {name : String} {state : Json} {hex : Option String}
    (h : state.get name = some (Json.ofOption .string hex)) :
    nonceIn name state = hex.bind (fun t => (SessionNonce.fromHex t).toOption) := by
  rw [nonceIn, h]
  cases hex <;> rfl

/-- An initiator's state names its own nonce, and no other. -/
theorem nonceIn_initiatorState {state : InitiatorState} {n : SessionNonce}
    (h : state.nonceHex = some n.toHex) :
    nonceIn "nonce_hex" state.toJson = some n ∧
      nonceIn "initiator_nonce_hex" state.toJson = none := by
  constructor
  · have hnodup : (state.fields.map Prod.fst).Nodup :=
      show InitiatorState.fieldNames.Nodup by decide
    have hfield : ("nonce_hex", some (Json.ofOption .string state.nonceHex)) ∈ state.fields := by
      simp [InitiatorState.fields]
    have hget : state.toJson.get "nonce_hex" = some (Json.ofOption .string state.nonceHex) :=
      Json.get_record hnodup hfield
    rw [nonceIn_of_get hget, h]
    simp [Except.toOption]
  · have hget : state.toJson.get "initiator_nonce_hex" = none :=
      Json.get_record_of_not_mem (show _ ∉ InitiatorState.fieldNames by decide)
    rw [nonceIn, hget]
    rfl

/-- A responder's state names its own nonce as an initiator's does, and the initiator's
where that of the responder is looked for. -/
theorem nonceIn_responderState {state : ResponderState} {n : SessionNonce}
    {m : Option SessionNonce} (h : state.nonceHex = some n.toHex)
    (hm : state.initiatorNonceHex = m.map SessionNonce.toHex) :
    nonceIn "nonce_hex" state.toJson = some n ∧
      nonceIn "initiator_nonce_hex" state.toJson = m := by
  have hnodup : (state.fields.map Prod.fst).Nodup := show ResponderState.fieldNames.Nodup by decide
  have hfields : ("nonce_hex", some (Json.ofOption .string state.nonceHex)) ∈ state.fields ∧
      ("initiator_nonce_hex", some (Json.ofOption .string state.initiatorNonceHex)) ∈
        state.fields := by
    simp [ResponderState.fields]
  have hget : state.toJson.get "nonce_hex" = some (Json.ofOption .string state.nonceHex) :=
    Json.get_record hnodup hfields.1
  have hget' : state.toJson.get "initiator_nonce_hex" =
      some (Json.ofOption .string state.initiatorNonceHex) :=
    Json.get_record hnodup hfields.2
  rw [nonceIn_of_get hget, nonceIn_of_get hget', h, hm]
  constructor
  · simp [Except.toOption]
  · cases m with
    | none => rfl
    | some m => simp [Except.toOption]

end States

/-! ## Two exports of one exchange -/

/-- Four commands that run an exchange, with what they write. -/
structure ExchangeRun where
  offerArgs : OfferArgs
  replyArgs : ReplyArgs
  completeArgs : CompleteArgs
  revealArgs : RevealArgs
  offered : Written
  replied : Written
  completed : Completed
  revealed : String
  offer : MaskedSetOffer
  reply : MaskedSetReply

/-- Each command succeeds, on the files that the others wrote, and the offer and the
reply are read as messages of version 2. -/
structure ExchangeRun.CompletesFresh (K : Crates) (c : CommandReadings) (x : ExchangeRun) :
    Prop where
  offers : cmdOnlineOffer K c.createdAt c.drawnA c.paddingA x.offerArgs = .ok x.offered
  replies : cmdOnlineReply K c.offerCheckedAt c.replySentAt c.drawnB c.replyNonce c.paddingB
    x.replyArgs = .ok x.replied
  completes : cmdOnlineComplete K c.rebuiltAt c.replyCheckedAt c.revealSentAt c.rebuiltNonceA
    c.revealNonce x.completeArgs = .ok x.completed
  reveals : cmdOnlineReveal K c.rebuiltOfferCheckedAt c.rebuiltReplySentAt c.revealCheckedAt
    c.rebuiltNonceB c.rebuiltReplyNonce x.revealArgs = .ok x.revealed
  offerFile : x.replyArgs.offer = x.offered.message
  replyFile : x.completeArgs.reply = x.replied.message
  revealFile : x.completed.reveal = some x.revealArgs.reveal
  stateFiles : x.completeArgs.state = x.offered.state ∧ x.revealArgs.state = x.replied.state
  readsOffer : ∃ peer, parseExpectPeer K x.replyArgs.expectPeer = .ok peer ∧
    readOffer K peer x.replyArgs.offer = .ok x.offer
  readsReply : ∃ peer, parseExpectPeer K x.completeArgs.expectPeer = .ok peer ∧
    readReply K peer x.completeArgs.reply = .ok x.reply
  freshOffer : x.offer.hasFreshness = true
  freshReply : x.reply.hasFreshness = true

/-- Exports of the two sides' states, of one session and with the same two files. -/
structure ExchangeRun.ExportedBy (K : Crates) (x : ExchangeRun) (own other : ExportArgs) :
    Prop where
  ownState : own.state = x.offered.state
  otherState : other.state = x.replied.state
  sessionId : other.sessionId = own.sessionId
  ownFiles : own.offer = some x.offered.message ∧ own.reply = some x.replied.message
  otherFiles : other.offer = some x.offered.message ∧ other.reply = some x.replied.message
  ownIdentity : ∃ identity, loadIdentity K own.identity = .ok identity
  otherIdentity : ∃ identity, loadIdentity K other.identity = .ok identity

end Cli

def MessageDirection.opposite : MessageDirection → MessageDirection
  | .sent => .received
  | .received => .sent

namespace SealedSessionRecord

def directions (r : SealedSessionRecord) : List MessageDirection :=
  r.messages.map WireMessageEntry.direction

/-- What is hashed into the transcript digest. -/
def transcriptInputs (r : SealedSessionRecord) : Set (List UInt8) :=
  {b | ∃ n, r.initiatorNonce = some n ∧ b = TranscriptDigest.computeInput r.sessionId n
    r.responderNonce (r.messages.map WireMessageEntry.messageHash) none none}

/-- Two records of one session with the given nonces, seen from its two sides. -/
structure SameSession (own other : SealedSessionRecord)
    (initiatorNonce responderNonce : Option SessionNonce) : Prop where
  initiatorNonce : own.initiatorNonce = initiatorNonce ∧ other.initiatorNonce = initiatorNonce
  responderNonce : own.responderNonce = responderNonce ∧ other.responderNonce = responderNonce
  transcriptDigest : own.transcriptDigest = other.transcriptDigest
  directions : ∀ p ∈ own.directions.zip other.directions, p.2 = p.1.opposite

end SealedSessionRecord

namespace Cli

/-- What the two sides export of a completed exchange: the initiator's record has no
nonce of the responder, the responder's has both nonces, swapped, so that the digests
differ, and the messages go the same way in both. -/
structure Exported (K : Crates) (c : CommandReadings) (x : ExchangeRun)
    (own other : SealedSessionRecord) : Prop where
  ownNonces : own.initiatorNonce = some c.drawnA.nonce ∧ own.responderNonce = none
  otherNonces : other.initiatorNonce = some c.drawnB.nonce ∧ other.responderNonce = x.offer.nonce
  digests : own.messages.map WireMessageEntry.messageHash =
      other.messages.map WireMessageEntry.messageHash →
    K.CollisionFree (own.transcriptInputs ∪ other.transcriptInputs) →
      own.transcriptDigest ≠ other.transcriptDigest
  directions : own.directions.take 2 = [.sent, .received] ∧
    other.directions.take 2 = [.sent, .received]

section Exports
variable {K : Crates} {c : CommandReadings} {x : ExchangeRun} {own other : ExportArgs}

/-- The messages of both records are the two files, in the directions of an initiator. -/
theorem CarriesBuilt.take_directions {t : ExportReadings} {args : ExportArgs} {state : Json}
    {r : SealedSessionRecord} {offer reply : String} (h : CarriesBuilt K t args state r)
    (hfiles : args.offer = some offer ∧ args.reply = some reply) :
    r.directions.take 2 = [.sent, .received] := by
  rw [SealedSessionRecord.directions, h.directions, hfiles.1, hfiles.2]
  rfl

/-- Records that have a transcript of the same messages but different nonces. -/
theorem transcriptDigest_ne {r r' : SealedSessionRecord} {n n' : SessionNonce}
    (hr : r.initiatorNonce = some n) (hr' : r'.initiatorNonce = some n')
    (hdigest : r.transcriptDigest =
      computeTranscriptDigest K r.sessionId r.initiatorNonce r.responderNonce r.messages)
    (hdigest' : r'.transcriptDigest =
      computeTranscriptDigest K r'.sessionId r'.initiatorNonce r'.responderNonce r'.messages)
    (hid : r'.sessionId = r.sessionId)
    (hhashes : r.messages.map WireMessageEntry.messageHash =
      r'.messages.map WireMessageEntry.messageHash)
    (hfree : K.CollisionFree (r.transcriptInputs ∪ r'.transcriptInputs))
    (hne : r.responderNonce ≠ r'.responderNonce) : r.transcriptDigest ≠ r'.transcriptDigest := by
  intro he
  rw [hdigest, hdigest', hr, hr', computeTranscriptDigest, computeTranscriptDigest] at he
  have hhash := congrArg TranscriptDigest.bytes (Option.some.inj he)
  have hinput := hfree (.inl ⟨n, hr, rfl⟩) (.inr ⟨n', hr', rfl⟩) hhash
  rw [hid, hhashes] at hinput
  exact hne (TranscriptDigest.nonces_eq_of_computeInput_eq hinput).2

/-- Both exports succeed, each with the nonces that its state file has under the names
of an initiator's. -/
theorem ExchangeRun.exported (hK : K.ParsesPretty) (h : x.CompletesFresh K c)
    (he : x.ExportedBy K own other) (t t' : ExportReadings) :
    ∃ r r', cmdSessionExport K t own = .ok r ∧ cmdSessionExport K t' other = .ok r' ∧
      Exported K c x r r' := by
  obtain ⟨s, mode, state, -, -, -, hnonce, hwritten⟩ := exists_of_cmdOnlineOffer h.offers
  obtain ⟨s', mode', state', peer, offer, -, -, hpeer, hoffer, -, hnonce', hinitiator,
    hwritten'⟩ := exists_of_cmdOnlineReply h.replies
  obtain ⟨peer', hpeer', hread⟩ := h.readsOffer
  cases hpeer.symm.trans hpeer'
  cases hoffer.symm.trans hread
  have hstate : K.fromStr .ok own.state = .ok state.toJson := by
    rw [he.ownState, hwritten, Crates.fromStr_pretty hK _ (state.storable_toJson _)]
  have hstate' : K.fromStr .ok other.state = .ok state'.toJson := by
    rw [he.otherState, hwritten', Crates.fromStr_pretty hK _ (state'.storable_toJson _)]
  obtain ⟨identity, hidentity⟩ := he.ownIdentity
  obtain ⟨identity', hidentity'⟩ := he.otherIdentity
  obtain ⟨r, hr, hbuilt⟩ := exists_export (t := t) hstate hidentity
  obtain ⟨r', hr', hbuilt'⟩ := exists_export (t := t') hstate' hidentity'
  obtain ⟨hown, hnone⟩ := nonceIn_initiatorState hnonce
  obtain ⟨hother, hswapped⟩ := nonceIn_responderState hnonce' (hinitiator h.freshOffer)
  have hownNonces : r.initiatorNonce = some c.drawnA.nonce ∧ r.responderNonce = none :=
    ⟨hbuilt.initiatorNonce.trans hown, hbuilt.responderNonce.trans hnone⟩
  have hotherNonces : r'.initiatorNonce = some c.drawnB.nonce ∧
      r'.responderNonce = x.offer.nonce :=
    ⟨hbuilt'.initiatorNonce.trans hother, hbuilt'.responderNonce.trans hswapped⟩
  obtain ⟨⟨n, hn⟩, -⟩ := MaskedSetOffer.exists_of_hasFreshness h.freshOffer
  have hid : r'.sessionId = r.sessionId := by
    rw [hbuilt.sessionId, hbuilt'.sessionId, he.sessionId]
  have hne : r.responderNonce ≠ r'.responderNonce := by
    rw [hownNonces.2, hotherNonces.2, hn]
    exact (Option.some_ne_none n).symm
  refine ⟨r, r', hr, hr', hownNonces, hotherNonces, fun hhashes hfree => ?_,
    hbuilt.take_directions he.ownFiles, hbuilt'.take_directions he.otherFiles⟩
  exact transcriptDigest_ne hownNonces.1 hotherNonces.1 hbuilt.transcriptDigest
    hbuilt'.transcriptDigest hid hhashes hfree hne

theorem Exported.not_sameSession {r r' : SealedSessionRecord} (h : Exported K c x r r')
    (hfresh : x.reply.hasFreshness = true) :
    ¬ r.SameSession r' x.offer.nonce x.reply.responderNonce := by
  intro hsame
  obtain ⟨-, ⟨n, hn⟩, -⟩ := MaskedSetReply.exists_of_hasFreshness hfresh
  have hmissing := h.ownNonces.2.symm.trans hsame.responderNonce.1
  rw [hn] at hmissing
  cases hmissing

end Exports

/-- The two sides of a completed exchange never export the same session. -/
theorem exports_disagree (K : Crates) (hK : K.ParsesPretty) (c : CommandReadings)
    (x : ExchangeRun) (h : x.CompletesFresh K c) (own other : ExportArgs)
    (he : x.ExportedBy K own other) (t t' : ExportReadings) :
    ∃ r r', cmdSessionExport K t own = .ok r ∧ cmdSessionExport K t' other = .ok r' ∧
      Exported K c x r r' ∧ ¬ r.SameSession r' x.offer.nonce x.reply.responderNonce := by
  obtain ⟨r, r', hr, hr', hexported⟩ := ExchangeRun.exported hK h he t t'
  exact ⟨r, r', hr, hr', hexported, hexported.not_sameSession h.freshReply⟩

/-! ### Honest exchanges -/

/-- The run of an honest exchange. -/
def honestRun (K : Crates) (c : CommandReadings) (args : ExchangeArgs) (s t : FactSet) :
    ExchangeRun where
  offerArgs := args.offerArgs K
  replyArgs := args.replyArgs K (offered K c args s)
  completeArgs := args.completeArgs K (offered K c args s) (replied K c args s t)
  revealArgs := args.revealArgs (replied K c args s t) (completed K c args s t)
  offered := offered K c args s
  replied := replied K c args s t
  completed := completed K c args s t
  revealed := report (revealedResult K c args s t)
  offer := (initiator c args s).offerMessage K
  reply := replyOf K c args s t

theorem honestRun_offer_nonce (K : Crates) (c : CommandReadings) (args : ExchangeArgs)
    (s t : FactSet) : (honestRun K c args s t).offer.nonce = some c.drawnA.nonce :=
  rfl

theorem Honest.completesFresh {K : Crates} {c : CommandReadings} {args : ExchangeArgs}
    {s t : FactSet} (hK : K.ParsesPretty) (h : Honest K c args s t) :
    (honestRun K c args s t).CompletesFresh K c where
  offers := h.cmdOnlineOffer_eq hK
  replies := h.cmdOnlineReply_eq hK
  completes := h.cmdOnlineComplete_eq hK
  reveals := h.cmdOnlineReveal_eq hK
  offerFile := rfl
  replyFile := rfl
  revealFile := rfl
  stateFiles := ⟨rfl, rfl⟩
  readsOffer := ⟨_, parseExpectPeer_toHex (h.replyExpects.decodes h.offerProper),
    h.readOffer_offered hK⟩
  readsReply := ⟨_, parseExpectPeer_toHex (h.completeExpects.decodes h.replyProper),
    h.readReply_replied hK⟩
  freshOffer := rfl
  freshReply := rfl

/-- An export of one of the state files of a run, unsealed. -/
def plainExport (x : ExchangeRun) (sessionId state : String) : ExportArgs where
  sessionId := sessionId
  state := state
  offer := some x.offered.message
  reply := some x.replied.message
  reveal := none
  completed := true
  identity := none

theorem exportedBy_plainExport (K : Crates) (x : ExchangeRun) (sessionId : String) :
    x.ExportedBy K (plainExport x sessionId x.offered.state)
      (plainExport x sessionId x.replied.state) where
  ownState := rfl
  otherState := rfl
  sessionId := rfl
  ownFiles := ⟨rfl, rfl⟩
  otherFiles := ⟨rfl, rfl⟩
  ownIdentity := ⟨none, rfl⟩
  otherIdentity := ⟨none, rfl⟩

def sampleRun : ExchangeRun := honestRun .reference sampleCommands sampleArgs sampleSet sampleSet

def sampleExportReadings : ExportReadings := ⟨2000, 2000, 2000, 2000, 2000, 2000⟩

theorem sampleRun_completesFresh : sampleRun.CompletesFresh .reference sampleCommands :=
  sample_honest.completesFresh Crates.reference_parsesPretty

theorem exports_disagree_sample :
    ∃ r r', cmdSessionExport .reference sampleExportReadings
        (plainExport sampleRun "sample" sampleRun.offered.state) = .ok r ∧
      cmdSessionExport .reference sampleExportReadings
        (plainExport sampleRun "sample" sampleRun.replied.state) = .ok r' ∧
      Exported .reference sampleCommands sampleRun r r' ∧
      ¬ r.SameSession r' sampleRun.offer.nonce sampleRun.reply.responderNonce :=
  exports_disagree .reference Crates.reference_parsesPretty sampleCommands sampleRun
    sampleRun_completesFresh _ _ (exportedBy_plainExport .reference sampleRun "sample")
    sampleExportReadings sampleExportReadings

/-- The nonces in the two records of the sample exchange. -/
theorem sample_exports_differ :
    ∃ r r', cmdSessionExport .reference sampleExportReadings
        (plainExport sampleRun "sample" sampleRun.offered.state) = .ok r ∧
      cmdSessionExport .reference sampleExportReadings
        (plainExport sampleRun "sample" sampleRun.replied.state) = .ok r' ∧
      r.initiatorNonce = some ⟨filled 18⟩ ∧ r.responderNonce = none ∧
      r'.initiatorNonce = some ⟨filled 34⟩ ∧ r'.responderNonce = some ⟨filled 18⟩ ∧
      ¬ r.SameSession r' sampleRun.offer.nonce sampleRun.reply.responderNonce := by
  obtain ⟨r, r', hr, hr', hexported⟩ := ExchangeRun.exported Crates.reference_parsesPretty
    sampleRun_completesFresh (exportedBy_plainExport .reference sampleRun "sample")
    sampleExportReadings sampleExportReadings
  have hoffer : sampleRun.offer.nonce = some ⟨filled 18⟩ := honestRun_offer_nonce ..
  exact ⟨r, r', hr, hr', hexported.ownNonces.1, hexported.ownNonces.2, hexported.otherNonces.1,
    hexported.otherNonces.2.trans hoffer,
    hexported.not_sameSession sampleRun_completesFresh.freshReply⟩

end Cli

end BlindOverlap
