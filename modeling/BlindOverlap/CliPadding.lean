import BlindOverlap.CliExchange
import BlindOverlap.PaddedExchange

/-!
# Padding across the commands

The first commands pad the lists that they send, but nobody cuts what comes back: the
other side masks every element it is sent, and the rebuilt session expects as many as
there are identifiers in its file.
-/
namespace BlindOverlap

namespace Cli

/-- The padding flags of a command. -/
structure PadFlags where
  target : Option ℕ
  secret : Option String

/-- A target that holds the list, and a secret in hexadecimal. -/
structure PadFlags.Fits (f : PadFlags) (count : ℕ) : Prop where
  target : ∀ n ∈ f.target, count ≤ n
  secret : ∀ t ∈ f.secret, ∃ bytes, Hex.decode t = .ok bytes

/-- Padding that adds nothing. -/
def PadFlags.Exact (f : PadFlags) (count : ℕ) : Prop := ∀ n ∈ f.target, n = count

theorem PadFlags.exact_iff {f : PadFlags} {count : ℕ} :
    f.Exact count ↔ f.target.getD count = count := by
  cases h : f.target with
  | none => simp [PadFlags.Exact, h]
  | some n => simp [PadFlags.Exact, h]

theorem PadFlags.Fits.exists_padTo {f : PadFlags} {elements : List MaskedElement}
    (h : f.Fits elements.length) (K : Crates) (drawn : Bytes 32) (context : List UInt8) :
    ∃ padded, padTo K drawn f.target f.secret elements context = .ok padded ∧
      padded.length = f.target.getD elements.length := by
  cases htarget : f.target with
  | none => exact ⟨elements, rfl, rfl⟩
  | some n =>
    have hle : elements.length ≤ n := h.target n htarget
    have hpad : ∀ secret, padMaskedElements K elements ⟨n, secret⟩ context =
        .ok (elements ++ generateDummyMaskedElements K secret context (n - elements.length)) :=
      fun _ => padMaskedElements_of_le hle context
    cases hsecret : f.secret with
    | none =>
      refine ⟨_, ?_, (padMaskedElements_spec (hpad drawn.toList)).1⟩
      simp only [padTo, Except.pure_eq_ok, Except.ok_bind, hpad, Except.mapError_ok]
    | some t =>
      obtain ⟨bytes, hbytes⟩ := h.secret t hsecret
      refine ⟨_, ?_, (padMaskedElements_spec (hpad bytes)).1⟩
      simp only [padTo, hbytes, Except.mapError_ok, Except.ok_bind, hpad]

/-- The arguments of an exchange whose first commands pad. -/
structure PaddedArgs where
  exchange : ExchangeArgs
  padA : PadFlags
  padB : PadFlags

namespace PaddedArgs

def offerArgs (K : Crates) (args : PaddedArgs) : OfferArgs :=
  { args.exchange.offerArgs K with padTo := args.padA.target, padSecret := args.padA.secret }

def replyArgs (K : Crates) (args : PaddedArgs) (offered : Written) : ReplyArgs :=
  { args.exchange.replyArgs K offered with
    padTo := args.padB.target
    padSecret := args.padB.secret }

/-- The reveal that answers a reply under some secret, in a file. -/
def honestReveal (K : Crates) (args : PaddedArgs) (secret : StaticSecret)
    (reply : MaskedSetReply) : String :=
  writeMessage K args.exchange.revealIdentity (.reveal (.new args.exchange.session
    (Session.maskReceived K secret reply.responderMasked)))

def revealArgs (args : PaddedArgs) (reveal : String) (replied : Written) : RevealArgs where
  reveal := reveal
  state := replied.state
  expectPeer := args.exchange.revealExpects.map PublicIdentity.toHex

end PaddedArgs

section Run
variable {K : Crates} {c : CommandReadings} {args : ExchangeArgs} {s t : FactSet}

/-- What the offer command writes, given the list that it sends. -/
def paddedOffered (K : Crates) (c : CommandReadings) (args : ExchangeArgs) (s : FactSet)
    (sent : List MaskedElement) : Written :=
  { offered K c args s with
    message := writeMessage K args.offerIdentity
      (.offer { (initiator c args s).offerMessage K with maskedElements := sent }) }

/-- The reply to a padded offer, given the list that it carries. -/
def paddedReplyOf (K : Crates) (c : CommandReadings) (args : ExchangeArgs) (s t : FactSet)
    (received sent : List MaskedElement) : MaskedSetReply :=
  { replyOf K c args s t with
    responderMasked := sent
    initiatorDoublyMasked := Session.maskReceived K c.drawnB.secret received }

/-- The state that the reply command saves, given the list it received. -/
def paddedSavedResponder (K : Crates) (c : CommandReadings) (args : ExchangeArgs) (s t : FactSet)
    (received : List MaskedElement) : ResponderState :=
  { savedResponder K c args s t with
    initiatorDoublyMaskedHex := hexList (Session.maskReceived K c.drawnB.secret received) }

def paddedReplied (K : Crates) (c : CommandReadings) (args : ExchangeArgs) (s t : FactSet)
    (received sent : List MaskedElement) : Written where
  message := writeMessage K args.replyIdentity
    (.reply (paddedReplyOf K c args s t received sent))
  state := K.jsonToStringPretty (paddedSavedResponder K c args s t received).toJson

theorem Honest.cmdOnlineOffer_padded {args : PaddedArgs} (hK : K.ParsesPretty)
    (h : Honest K c args.exchange s t) {sent : List MaskedElement}
    (hpad : padTo K c.paddingA args.padA.target args.padA.secret
      (Session.maskIds K c.drawnA.secret s.idList) (utf8 args.exchange.session) = .ok sent) :
    cmdOnlineOffer K c.createdAt c.drawnA c.paddingA (args.offerArgs K) =
      .ok (paddedOffered K c args.exchange s sent) := by
  have hmasked : ((initiator c args.exchange s).offerMessage K).maskedElements =
      Session.maskIds K c.drawnA.secret s.idList := rfl
  simp only [cmdOnlineOffer, PaddedArgs.offerArgs, ExchangeArgs.offerArgs, h.readsA, Except.ok_bind,
    parseMode_modeName, h.withConfig_initiator, Except.mapError_ok, loadIdentity_saveToFile hK,
    parseExpectPeer_toHex (h.offerExpects.decodes h.replyProper), initiator_generateOffer, hmasked,
    hpad, Except.pure_eq_ok]
  rfl

/-- A padded offer reads back as it was sent. -/
theorem Honest.readOffer_padded (hK : K.ParsesPretty) (h : Honest K c args s t)
    (sent : List MaskedElement) :
    readOffer K args.replyExpects (paddedOffered K c args s sent).message =
      .ok { (initiator c args s).offerMessage K with maskedElements := sent } := by
  have hvalid : { (initiator c args s).offerMessage K with maskedElements := sent }.validate =
      .ok () := (initiator c args s).offerMessage_validate K
  exact readOffer_writeMessage hK h.replyExpects h.offerProper hvalid

theorem Honest.cmdOnlineReply_padded {args : PaddedArgs} (hK : K.ParsesPretty)
    (h : Honest K c args.exchange s t) (received : List MaskedElement)
    {sent : List MaskedElement}
    (hpad : padTo K c.paddingB args.padB.target args.padB.secret
      (Session.maskIds K c.drawnB.secret t.idList) (utf8 args.exchange.session) = .ok sent) :
    cmdOnlineReply K c.offerCheckedAt c.replySentAt c.drawnB c.replyNonce c.paddingB
      (args.replyArgs K (paddedOffered K c args.exchange s received)) =
        .ok (paddedReplied K c args.exchange s t received sent) := by
  let offer := { (initiator c args.exchange s).offerMessage K with maskedElements := received }
  have hread : readOffer K args.exchange.replyExpects
      (paddedOffered K c args.exchange s received).message = .ok offer :=
    h.readOffer_padded hK received
  have hwith : ResponderSession.withConfig c.drawnB offer.sessionId t args.exchange.mode
      (.withTtl (args.exchange.ttlB.getD defaultTtlSecs)) = .ok (responder c args.exchange t) :=
    h.withConfig_responder
  have haccepts : (responder c args.exchange t).AcceptsOffer c.offerCheckedAt offer :=
    ⟨h.acceptsOffer.state, h.acceptsOffer.sessionId, h.acceptsOffer.fresh⟩
  have hreply : (responder c args.exchange t).replyMessage K c.replySentAt c.replyNonce offer =
      { replyOf K c args.exchange s t with
        initiatorDoublyMasked := Session.maskReceived K c.drawnB.secret received } :=
    ResponderSession.replyMessage_withElements K c.replySentAt c.replyNonce _ _ received
  have hcontext : padTo K c.paddingB args.padB.target args.padB.secret
      (replyOf K c args.exchange s t).responderMasked (utf8 offer.sessionId) = .ok sent := hpad
  simp only [cmdOnlineReply, PaddedArgs.replyArgs, ExchangeArgs.replyArgs, h.readsB, Except.ok_bind,
    loadIdentity_saveToFile hK, parseExpectPeer_toHex (h.replyExpects.decodes h.offerProper), hread,
    parseMode_modeName, hwith, Except.mapError_ok,
    ResponderSession.processOfferAndReply_of_accepts haccepts, hreply, hcontext,
    Except.pure_eq_ok]
  rfl

/-- So does the padded reply, and the state beside it. -/
theorem Honest.readReply_padded (hK : K.ParsesPretty) (h : Honest K c args s t)
    (received sent : List MaskedElement) :
    readReply K args.completeExpects (paddedReplied K c args s t received sent).message =
      .ok (paddedReplyOf K c args s t received sent) := by
  have hvalid : (paddedReplyOf K c args s t received sent).validate = .ok () :=
    (responder c args t).replyMessage_validate K c.replySentAt c.replyNonce
      ((initiator c args s).offerMessage K)
  exact readReply_writeMessage hK h.completeExpects h.replyProper hvalid

/-! ## The second commands -/

/-- Neither of the second commands refuses its honest message for the number of elements. -/
structure CountsAccepted (K : Crates) (c : CommandReadings) (args : PaddedArgs)
    (offered replied : Written) (reply : MaskedSetReply) : Prop where
  complete : ∀ expected got, cmdOnlineComplete K c.rebuiltAt c.replyCheckedAt c.revealSentAt
    c.rebuiltNonceA c.revealNonce (args.exchange.completeArgs K offered replied) ≠
      .error (.session (.elementCountMismatch expected got))
  reveal : ∀ secret expected got, cmdOnlineReveal K c.rebuiltOfferCheckedAt c.rebuiltReplySentAt
    c.revealCheckedAt c.rebuiltNonceB c.rebuiltReplyNonce
      (args.revealArgs (args.honestReveal K secret reply) replied) ≠
        .error (.session (.elementCountMismatch expected got))

/-- Both of them go on to compare the masks, and the first writes the honest reveal. -/
structure ReachIntersection (K : Crates) (c : CommandReadings) (args : PaddedArgs)
    (offered replied : Written) (reply : MaskedSetReply) : Prop where
  complete : ∃ completed, cmdOnlineComplete K c.rebuiltAt c.replyCheckedAt c.revealSentAt
    c.rebuiltNonceA c.revealNonce (args.exchange.completeArgs K offered replied) = .ok completed ∧
      completed.reveal = some (args.honestReveal K savedSecret reply)
  reveal : ∀ secret, ∃ text, cmdOnlineReveal K c.rebuiltOfferCheckedAt c.rebuiltReplySentAt
    c.revealCheckedAt c.rebuiltNonceB c.rebuiltReplyNonce
      (args.revealArgs (args.honestReveal K secret reply) replied) = .ok text

section Second
variable {args : PaddedArgs}

theorem Honest.completeArgs_reads (hK : K.ParsesPretty) (h : Honest K c args.exchange s t)
    (received sent : List MaskedElement) :
    (args.exchange.completeArgs K (paddedOffered K c args.exchange s received)
      (paddedReplied K c args.exchange s t received sent)).Reads K
        (savedInitiator K c args.exchange s) args.exchange.revealIdentity
        args.exchange.completeExpects (paddedReplyOf K c args.exchange s t received sent) where
  readsState := fromStr_offered hK
  readsIdentity := loadIdentity_saveToFile hK args.exchange.revealIdentity
  readsPeer := parseExpectPeer_toHex (h.completeExpects.decodes h.replyProper)
  readsReply := h.readReply_padded hK received sent

theorem Honest.revealArgs_reads (hK : K.ParsesPretty) (h : Honest K c args.exchange s t)
    (received sent : List MaskedElement) (secret : StaticSecret) :
    (args.revealArgs (args.honestReveal K secret
      (paddedReplyOf K c args.exchange s t received sent))
      (paddedReplied K c args.exchange s t received sent)).Reads K
        (paddedSavedResponder K c args.exchange s t received) args.exchange.revealExpects
        (.new args.exchange.session (Session.maskReceived K secret sent)) where
  readsState := ResponderState.fromStr_pretty hK _
  readsPeer := parseExpectPeer_toHex (h.revealExpects.decodes h.revealProper)
  readsReveal := readReveal_writeMessage hK h.revealExpects h.revealProper
    (IntersectionReveal.validate_new ..)

theorem Honest.paddedSavedResponder_saved (h : Honest K c args.exchange s t)
    (received : List MaskedElement) :
    SavedSet K (paddedSavedResponder K c args.exchange s t received).mode
      (paddedSavedResponder K c args.exchange s t received).factIdsHex
      (paddedSavedResponder K c args.exchange s t received).secretHex t args.exchange.mode :=
  h.savedResponder_saved

variable {received sent : List MaskedElement}

/-- The reply has one doubly masked element for each that was sent, dummies included. -/
theorem Honest.complete_miscounts (hK : K.ParsesPretty) (h : Honest K c args.exchange s t)
    (hne : received.length ≠ s.len) :
    cmdOnlineComplete K c.rebuiltAt c.replyCheckedAt c.revealSentAt c.rebuiltNonceA c.revealNonce
      (args.exchange.completeArgs K (paddedOffered K c args.exchange s received)
        (paddedReplied K c args.exchange s t received sent)) =
          .error (.session (.elementCountMismatch s.len received.length)) := by
  have hlength : (paddedReplyOf K c args.exchange s t received
      sent).initiatorDoublyMasked.length = received.length := Session.length_maskReceived ..
  rw [← hlength] at hne ⊢
  exact cmdOnlineComplete_of_miscount (h.completeArgs_reads hK received sent)
    h.savedInitiator_saved rfl hne

/-- And so has the reveal for each that the reply carries. -/
theorem Honest.reveal_miscounts (hK : K.ParsesPretty) (h : Honest K c args.exchange s t)
    (secret : StaticSecret) (hne : sent.length ≠ t.len) :
    cmdOnlineReveal K c.rebuiltOfferCheckedAt c.rebuiltReplySentAt c.revealCheckedAt
      c.rebuiltNonceB c.rebuiltReplyNonce (args.revealArgs
        (args.honestReveal K secret (paddedReplyOf K c args.exchange s t received sent))
        (paddedReplied K c args.exchange s t received sent)) =
          .error (.session (.elementCountMismatch t.len sent.length)) := by
  have hlength : (Session.maskReceived K secret sent).length = sent.length :=
    Session.length_maskReceived ..
  rw [← hlength] at hne ⊢
  exact cmdOnlineReveal_of_miscount (h.revealArgs_reads hK received sent secret)
    (h.paddedSavedResponder_saved received) rfl hne

theorem Honest.reachIntersection (hK : K.ParsesPretty) (h : Honest K c args.exchange s t)
    (hreceived : received.length = s.len) (hsent : sent.length = t.len) :
    ReachIntersection K c args (paddedOffered K c args.exchange s received)
      (paddedReplied K c args.exchange s t received sent)
      (paddedReplyOf K c args.exchange s t received sent) where
  complete := by
    have hreads := h.completeArgs_reads hK received sent
    have hlength := (Session.length_maskReceived K c.drawnB.secret received).trans hreceived
    exact ⟨_, cmdOnlineComplete_of_accepts hreads h.savedInitiator_saved rfl hlength, rfl⟩
  reveal := by
    intro secret
    have hreads := h.revealArgs_reads hK received sent secret
    have hlength := (Session.length_maskReceived K secret sent).trans hsent
    exact ⟨_, cmdOnlineReveal_of_accepts hreads (h.paddedSavedResponder_saved received) rfl hlength⟩

theorem Honest.countsAccepted_iff (hK : K.ParsesPretty) (h : Honest K c args.exchange s t) :
    CountsAccepted K c args (paddedOffered K c args.exchange s received)
      (paddedReplied K c args.exchange s t received sent)
      (paddedReplyOf K c args.exchange s t received sent) ↔
        received.length = s.len ∧ sent.length = t.len := by
  constructor
  · intro haccepted
    constructor
    · by_contra hne
      exact haccepted.complete _ _ (h.complete_miscounts hK hne)
    · by_contra hne
      exact haccepted.reveal savedSecret _ _ (h.reveal_miscounts hK savedSecret hne)
  · rintro ⟨hreceived, hsent⟩
    obtain ⟨⟨completed, hcomplete, -⟩, hreveal⟩ := h.reachIntersection hK hreceived hsent
    constructor
    · intro expected got he
      cases hcomplete.symm.trans he
    · intro secret expected got he
      obtain ⟨text, htext⟩ := hreveal secret
      cases htext.symm.trans he

end Second

end Run

/-- On honest files padding is accepted by the second commands exactly when it adds
nothing, on either side; then both reach the comparison of masks. -/
theorem padding_accepted_iff (K : Crates) (hK : K.ParsesPretty) (c : CommandReadings)
    (args : PaddedArgs) (s t : FactSet) (h : Honest K c args.exchange s t)
    (hA : args.padA.Fits s.len) (hB : args.padB.Fits t.len) :
    ∃ offered replied reply,
      cmdOnlineOffer K c.createdAt c.drawnA c.paddingA (args.offerArgs K) = .ok offered ∧
      cmdOnlineReply K c.offerCheckedAt c.replySentAt c.drawnB c.replyNonce c.paddingB
        (args.replyArgs K offered) = .ok replied ∧
      readReply K args.exchange.completeExpects replied.message = .ok reply ∧
      (CountsAccepted K c args offered replied reply ↔
        args.padA.Exact s.len ∧ args.padB.Exact t.len) ∧
      (args.padA.Exact s.len ∧ args.padB.Exact t.len →
        ReachIntersection K c args offered replied reply) := by
  have hlenA : (Session.maskIds K c.drawnA.secret s.idList).length = s.len :=
    Session.length_maskIds ..
  have hlenB : (Session.maskIds K c.drawnB.secret t.idList).length = t.len :=
    Session.length_maskIds ..
  obtain ⟨received, hpadA, hcountA⟩ := (hlenA.symm ▸ hA : args.padA.Fits _).exists_padTo K
    c.paddingA (utf8 args.exchange.session)
  obtain ⟨sent, hpadB, hcountB⟩ := (hlenB.symm ▸ hB : args.padB.Fits _).exists_padTo K
    c.paddingB (utf8 args.exchange.session)
  rw [hlenA] at hcountA
  rw [hlenB] at hcountB
  refine ⟨_, _, _, h.cmdOnlineOffer_padded hK hpadA, h.cmdOnlineReply_padded hK received hpadB,
    h.readReply_padded hK received sent, ?_, ?_⟩
  · rw [PadFlags.exact_iff, PadFlags.exact_iff, ← hcountA, ← hcountB]
    exact h.countsAccepted_iff hK
  · rw [PadFlags.exact_iff, PadFlags.exact_iff, ← hcountA, ← hcountB]
    rintro ⟨hreceived, hsent⟩
    exact h.reachIntersection hK hreceived hsent

/-! ### A concrete padded exchange -/

/-- The sample exchange with its one identifier padded to two elements on one side. -/
def samplePadded : PaddedArgs := ⟨sampleArgs, ⟨some 2, none⟩, ⟨none, none⟩⟩

theorem samplePadded_fits :
    samplePadded.padA.Fits sampleSet.len ∧ samplePadded.padB.Fits sampleSet.len := by
  have hsize : sampleSet.len = 1 := by decide +kernel
  rw [hsize]
  refine ⟨⟨?_, fun _ h => nomatch h⟩, ⟨fun _ h => (nomatch h), fun _ h => nomatch h⟩⟩
  intro n hn
  rw [← Option.some.inj hn]
  omega

theorem padding_accepted_iff_sample :
    ∃ offered replied reply,
      cmdOnlineOffer .reference 1000 sampleCommands.drawnA sampleCommands.paddingA
        (samplePadded.offerArgs .reference) = .ok offered ∧
      cmdOnlineReply .reference 1001 1002 sampleCommands.drawnB sampleCommands.replyNonce
        sampleCommands.paddingB (samplePadded.replyArgs .reference offered) = .ok replied ∧
      readReply .reference none replied.message = .ok reply ∧
      (CountsAccepted .reference sampleCommands samplePadded offered replied reply ↔
        samplePadded.padA.Exact sampleSet.len ∧ samplePadded.padB.Exact sampleSet.len) := by
  obtain ⟨offered, replied, reply, hoffered, hreplied, hreply, hiff, -⟩ := padding_accepted_iff
    .reference Crates.reference_parsesPretty sampleCommands samplePadded sampleSet sampleSet
    sample_honest samplePadded_fits.1 samplePadded_fits.2
  exact ⟨offered, replied, reply, hoffered, hreplied, hreply, hiff⟩

/-- The initiator refuses the honest reply to its padded offer. -/
theorem padded_offer_unanswerable :
    ∃ offered replied,
      cmdOnlineOffer .reference 1000 sampleCommands.drawnA sampleCommands.paddingA
        (samplePadded.offerArgs .reference) = .ok offered ∧
      cmdOnlineReply .reference 1001 1002 sampleCommands.drawnB sampleCommands.replyNonce
        sampleCommands.paddingB (samplePadded.replyArgs .reference offered) = .ok replied ∧
      cmdOnlineComplete .reference 1003 1004 1005 sampleCommands.rebuiltNonceA
        sampleCommands.revealNonce (sampleArgs.completeArgs .reference offered replied) =
          .error (.session (.elementCountMismatch 1 2)) := by
  have hK := Crates.reference_parsesPretty
  have hhonest : Honest .reference sampleCommands samplePadded.exchange sampleSet sampleSet :=
    sample_honest
  have hsize : sampleSet.len = 1 := by decide +kernel
  have hlen : (Session.maskIds .reference sampleCommands.drawnA.secret sampleSet.idList).length =
      sampleSet.len := Session.length_maskIds ..
  obtain ⟨received, hpad, hcount⟩ := (hlen.symm ▸ samplePadded_fits.1 :
    samplePadded.padA.Fits _).exists_padTo .reference sampleCommands.paddingA (utf8 "sample")
  have hreceived : received.length = 2 := hcount
  have hanswered := hhonest.cmdOnlineReply_padded hK received rfl
  refine ⟨_, _, hhonest.cmdOnlineOffer_padded hK hpad, hanswered, ?_⟩
  have hne : received.length ≠ sampleSet.len := by
    rw [hreceived, hsize]
    decide
  refine (hhonest.complete_miscounts hK hne).trans ?_
  rw [hreceived, hsize]

end Cli

end BlindOverlap
