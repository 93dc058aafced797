import BlindOverlap.CliExchange

/-!
# Freshness across the commands

The first commands save a nonce and a lifetime that the second ones never look at: a
reply or a reveal is taken whatever nonces and deadline it carries, if any.
-/
namespace BlindOverlap

/-- The reply answers the saved nonce, and in time. -/
structure MaskedSetReply.AnswersInTime (nonceHex : Option String) (now : UInt64)
    (reply : MaskedSetReply) : Prop where
  nonce : ∃ n, reply.initiatorNonce = some n ∧ nonceHex = some n.toHex
  deadline : ∃ d, reply.deadline = some d ∧ d.validate now = .ok ()

structure IntersectionReveal.AnswersInTime (nonceHex : Option String) (now : UInt64)
    (reveal : IntersectionReveal) : Prop where
  nonce : ∃ n, reveal.responderNonce = some n ∧ nonceHex = some n.toHex
  deadline : ∃ d, reveal.deadline = some d ∧ d.validate now = .ok ()

namespace Cli

/-- With this state file the completing command outputs a result only for a reply that
answers the saved nonce in time. -/
def CompletesFreshOnly (K : Crates) (stateFile : String) : Prop :=
  ∀ (createdAt checkedAt revealSentAt : UInt64) (nonce revealNonce : SessionNonce)
    (args : CompleteArgs) (completed : Completed), args.state = stateFile →
      cmdOnlineComplete K createdAt checkedAt revealSentAt nonce revealNonce args =
        .ok completed →
      ∃ state identity peer reply, args.Reads K state identity peer reply ∧
        reply.AnswersInTime state.nonceHex checkedAt

/-- The same of the revealing command. -/
def RevealsFreshOnly (K : Crates) (stateFile : String) : Prop :=
  ∀ (checkedAt sentAt revealCheckedAt : UInt64) (nonce replyNonce : SessionNonce)
    (args : RevealArgs) (text : String), args.state = stateFile →
      cmdOnlineReveal K checkedAt sentAt revealCheckedAt nonce replyNonce args = .ok text →
      ∃ state peer reveal, args.Reads K state peer reveal ∧
        reveal.AnswersInTime state.nonceHex revealCheckedAt

/-- What the completing command asks of its other files and arguments. -/
def CompletesFor (K : Crates) (state : InitiatorState) (count : ℕ) (args : CompleteArgs) : Prop :=
  ∃ identity peer reply, args.Reads K state identity peer reply ∧
    reply.sessionId = state.sessionId ∧ reply.initiatorDoublyMasked.length = count

def RevealsFor (K : Crates) (state : ResponderState) (count : ℕ) (args : RevealArgs) : Prop :=
  ∃ peer reveal, args.Reads K state peer reveal ∧
    reveal.sessionId = state.sessionId ∧ reveal.responderDoublyMasked.length = count

/-- The completing command with this state file outputs a result exactly for these, at
any time and with whatever it draws. -/
def CompletesExactlyFor (K : Crates) (stateFile : String) (state : InitiatorState) (count : ℕ) :
    Prop :=
  ∀ (createdAt checkedAt revealSentAt : UInt64) (nonce revealNonce : SessionNonce)
    (args : CompleteArgs), args.state = stateFile →
      ((∃ completed, cmdOnlineComplete K createdAt checkedAt revealSentAt nonce revealNonce args =
        .ok completed) ↔ CompletesFor K state count args)

def RevealsExactlyFor (K : Crates) (stateFile : String) (state : ResponderState) (count : ℕ) :
    Prop :=
  ∀ (checkedAt sentAt revealCheckedAt : UInt64) (nonce replyNonce : SessionNonce)
    (args : RevealArgs), args.state = stateFile →
      ((∃ text, cmdOnlineReveal K checkedAt sentAt revealCheckedAt nonce replyNonce args =
        .ok text) ↔ RevealsFor K state count args)

section Files
variable {K : Crates} {s : FactSet} {m : IntersectionMode}

/-- An unsigned file with the given reply, taken by a command without options. -/
def plainComplete (K : Crates) (stateFile : String) (reply : MaskedSetReply) : CompleteArgs where
  reply := writeMessage K none (.reply reply)
  state := stateFile
  withReveal := false
  identity := none
  expectPeer := none

def plainReveal (K : Crates) (stateFile : String) (reveal : IntersectionReveal) : RevealArgs where
  reveal := writeMessage K none (.reveal reveal)
  state := stateFile
  expectPeer := none

theorem Expects.none (K : Crates) : Expects K none none :=
  fun _ h => nomatch h

theorem plainComplete_reads (hK : K.ParsesPretty) {state : InitiatorState} {stateFile : String}
    (hstate : K.fromStr InitiatorState.fromJson stateFile = .ok state) {reply : MaskedSetReply}
    (hreply : reply.validate = .ok ()) :
    (plainComplete K stateFile reply).Reads K state none none reply where
  readsState := hstate
  readsIdentity := rfl
  readsPeer := rfl
  readsReply := readReply_writeMessage hK (.none K) (fun _ h => nomatch h) hreply

theorem plainReveal_reads (hK : K.ParsesPretty) {state : ResponderState} {stateFile : String}
    (hstate : K.fromStr ResponderState.fromJson stateFile = .ok state)
    {reveal : IntersectionReveal} (hreveal : reveal.validate = .ok ()) :
    (plainReveal K stateFile reveal).Reads K state none reveal where
  readsState := hstate
  readsPeer := rfl
  readsReveal := readReveal_writeMessage hK (.none K) (fun _ h => nomatch h) hreveal

/-- A reply that carries neither nonce nor deadline is enough. -/
theorem not_completesFreshOnly (hK : K.ParsesPretty) {state : InitiatorState} {stateFile : String}
    (hstate : K.fromStr InitiatorState.fromJson stateFile = .ok state)
    (hsaved : SavedSet K state.mode state.factIdsHex state.secretHex s m) :
    ¬ CompletesFreshOnly K stateFile := by
  intro h
  have hreads := plainComplete_reads hK hstate
    (MaskedSetReply.validate_new state.sessionId [] (List.replicate s.len (Bytes.zero 32)))
  obtain ⟨state', identity, peer, reply, hreads', hanswers⟩ :=
    h 0 0 0 ⟨Bytes.zero 32⟩ ⟨Bytes.zero 32⟩ _ _ rfl
      (cmdOnlineComplete_of_accepts hreads hsaved rfl List.length_replicate)
  cases hreads.readsPeer.symm.trans hreads'.readsPeer
  cases hreads.readsReply.symm.trans hreads'.readsReply
  obtain ⟨n, hn, -⟩ := hanswers.nonce
  cases hn

theorem not_revealsFreshOnly (hK : K.ParsesPretty) {state : ResponderState} {stateFile : String}
    (hstate : K.fromStr ResponderState.fromJson stateFile = .ok state)
    (hsaved : SavedSet K state.mode state.factIdsHex state.secretHex s m) :
    ¬ RevealsFreshOnly K stateFile := by
  intro h
  have hreads := plainReveal_reads hK hstate
    (IntersectionReveal.validate_new state.sessionId (List.replicate s.len (Bytes.zero 32)))
  obtain ⟨state', peer, reveal, hreads', hanswers⟩ :=
    h 0 0 0 ⟨Bytes.zero 32⟩ ⟨Bytes.zero 32⟩ _ _ rfl
      (cmdOnlineReveal_of_accepts hreads hsaved rfl List.length_replicate)
  cases hreads.readsPeer.symm.trans hreads'.readsPeer
  cases hreads.readsReveal.symm.trans hreads'.readsReveal
  obtain ⟨n, hn, -⟩ := hanswers.nonce
  cases hn

theorem completesExactlyFor {state : InitiatorState} {stateFile : String}
    (hstate : K.fromStr InitiatorState.fromJson stateFile = .ok state)
    (hsaved : SavedSet K state.mode state.factIdsHex state.secretHex s m) :
    CompletesExactlyFor K stateFile state s.len := by
  rintro createdAt checkedAt revealSentAt nonce revealNonce args rfl
  constructor
  · rintro ⟨completed, h⟩
    exact exists_of_cmdOnlineComplete hstate hsaved h
  · rintro ⟨identity, peer, reply, hreads, hid, hcount⟩
    exact ⟨_, cmdOnlineComplete_of_accepts hreads hsaved hid hcount⟩

theorem revealsExactlyFor {state : ResponderState} {stateFile : String}
    (hstate : K.fromStr ResponderState.fromJson stateFile = .ok state)
    (hsaved : SavedSet K state.mode state.factIdsHex state.secretHex s m) :
    RevealsExactlyFor K stateFile state s.len := by
  rintro checkedAt sentAt revealCheckedAt nonce replyNonce args rfl
  constructor
  · rintro ⟨text, h⟩
    exact exists_of_cmdOnlineReveal hstate hsaved h
  · rintro ⟨peer, reveal, hreads, hid, hcount⟩
    exact ⟨_, cmdOnlineReveal_of_accepts hreads hsaved hid hcount⟩

end Files

/-- No state file that the first commands write keeps its exchange fresh: with each, the
second command outputs a result for any message it can read of the session and count,
at any time, and so for one that answers no nonce. -/
theorem freshness_not_restored (K : Crates) (hK : K.ParsesPretty) :
    (∀ (createdAt : UInt64) (drawn : Drawn) (drawnPadding : Bytes 32) (args : OfferArgs)
      (written : Written),
      cmdOnlineOffer K createdAt drawn drawnPadding args = .ok written →
        ¬ CompletesFreshOnly K written.state ∧
        ∃ s state, loadFactSet K args.input = .ok s ∧
          K.fromStr InitiatorState.fromJson written.state = .ok state ∧
          state.sessionId = args.session ∧ state.nonceHex = some drawn.nonce.toHex ∧
          CompletesExactlyFor K written.state state s.len) ∧
    (∀ (checkedAt sentAt : UInt64) (drawn : Drawn) (replyNonce : SessionNonce)
      (drawnPadding : Bytes 32) (args : ReplyArgs) (written : Written),
      cmdOnlineReply K checkedAt sentAt drawn replyNonce drawnPadding args = .ok written →
        ¬ RevealsFreshOnly K written.state ∧
        ∃ s state peer offer, loadFactSet K args.input = .ok s ∧
          K.fromStr ResponderState.fromJson written.state = .ok state ∧
          parseExpectPeer K args.expectPeer = .ok peer ∧
          readOffer K peer args.offer = .ok offer ∧
          state.sessionId = offer.sessionId ∧ state.nonceHex = some drawn.nonce.toHex ∧
          RevealsExactlyFor K written.state state s.len) := by
  constructor
  · intro createdAt drawn drawnPadding args written h
    obtain ⟨s, m, state, hs, hsaved, hid, hnonce, hwritten⟩ := exists_of_cmdOnlineOffer h
    have hstate : K.fromStr InitiatorState.fromJson written.state = .ok state := by
      rw [hwritten, InitiatorState.fromStr_pretty hK]
    exact ⟨not_completesFreshOnly hK hstate hsaved, s, state, hs, hstate, hid, hnonce,
      completesExactlyFor hstate hsaved⟩
  · intro checkedAt sentAt drawn replyNonce drawnPadding args written h
    obtain ⟨s, m, state, peer, offer, hs, hsaved, hpeer, hoffer, hid, hnonce, -, hwritten⟩ :=
      exists_of_cmdOnlineReply h
    have hstate : K.fromStr ResponderState.fromJson written.state = .ok state := by
      rw [hwritten, ResponderState.fromStr_pretty hK]
    exact ⟨not_revealsFreshOnly hK hstate hsaved, s, state, peer, offer, hs, hstate, hpeer, hoffer,
      hid, hnonce, revealsExactlyFor hstate hsaved⟩

theorem freshness_not_restored_sample :
    ¬ CompletesFreshOnly .reference (offered .reference sampleCommands sampleArgs sampleSet).state ∧
      ¬ RevealsFreshOnly .reference
        (replied .reference sampleCommands sampleArgs sampleSet sampleSet).state := by
  have hK := Crates.reference_parsesPretty
  have hlost := freshness_not_restored .reference hK
  exact ⟨(hlost.1 _ _ _ _ _ (sample_honest.cmdOnlineOffer_eq hK)).1,
    (hlost.2 _ _ _ _ _ _ _ (sample_honest.cmdOnlineReply_eq hK)).1⟩

/-! ### Stale messages -/

/-- A reply of another run of the session, long expired. -/
def staleReply : MaskedSetReply :=
  .newV2 "sample" [] [Bytes.zero 32] ⟨filled 1⟩ ⟨filled 2⟩ (.new 10 5)

def staleReveal : IntersectionReveal :=
  .newV2 "sample" [Bytes.zero 32] ⟨filled 1⟩ ⟨filled 2⟩ (.new 10 5)

/-- Both are taken, with the state files of a fresh exchange. -/
theorem stale_messages_taken :
    ((∃ completed, cmdOnlineComplete .reference 5000 5000 5000 ⟨filled 3⟩ ⟨filled 4⟩
        (plainComplete .reference (offered .reference sampleCommands sampleArgs sampleSet).state
          staleReply) = .ok completed) ∧
      ¬ staleReply.AnswersInTime (savedInitiator .reference sampleCommands sampleArgs
        sampleSet).nonceHex 5000 ∧
      ¬ CompletesFreshOnly .reference
        (offered .reference sampleCommands sampleArgs sampleSet).state) ∧
    (∃ text, cmdOnlineReveal .reference 5000 5000 5000 ⟨filled 3⟩ ⟨filled 4⟩
        (plainReveal .reference (replied .reference sampleCommands sampleArgs sampleSet
          sampleSet).state staleReveal) = .ok text) ∧
      ¬ staleReveal.AnswersInTime (savedResponder .reference sampleCommands sampleArgs sampleSet
        sampleSet).nonceHex 5000 ∧
      ¬ RevealsFreshOnly .reference
        (replied .reference sampleCommands sampleArgs sampleSet sampleSet).state := by
  have hK := Crates.reference_parsesPretty
  have hsize : sampleSet.len = 1 := by decide +kernel
  have hinitiator := sample_honest.savedInitiator_saved
  have hresponder := sample_honest.savedResponder_saved
  have hoffered := @fromStr_offered .reference sampleCommands sampleArgs sampleSet hK
  have hreplied := @fromStr_replied .reference sampleCommands sampleArgs sampleSet sampleSet hK
  have hreply := plainComplete_reads hK hoffered (show staleReply.validate = .ok () by decide)
  have hreveal := plainReveal_reads hK hreplied (show staleReveal.validate = .ok () by decide)
  have hexpired : ¬ ((SessionDeadline.new 10 5).validate 5000 = .ok ()) := by decide
  refine ⟨⟨⟨_, cmdOnlineComplete_of_accepts hreply hinitiator rfl hsize.symm⟩, ?_,
    not_completesFreshOnly hK hoffered hinitiator⟩,
    ⟨_, cmdOnlineReveal_of_accepts hreveal hresponder rfl hsize.symm⟩, ?_,
    not_revealsFreshOnly hK hreplied hresponder⟩
  · rintro ⟨-, d, hd, hvalid⟩
    cases hd
    exact hexpired hvalid
  · rintro ⟨-, d, hd, hvalid⟩
    cases hd
    exact hexpired hvalid

end Cli

end BlindOverlap
