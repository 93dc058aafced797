import BlindOverlap.CliRestore
import BlindOverlap.PaddedSize

/-!
# The size of what the commands send

The first commands repackage a padded list with the constructor of the message that their
session made. Two runs that agree in the flags and the clock write messages of one size,
whatever sets they loaded.
-/
namespace BlindOverlap

/-- The version 2 constructor for a message with freshness, the version 1 one otherwise. -/
def Repackaging.ofFreshness (fresh : Bool) (deadline : SessionDeadline) : Repackaging :=
  if fresh then .newV2 deadline else .new

namespace Cli

section Repack
variable (K : Crates) (sessionId : String) (elements : List MaskedElement)

theorem repackOffer_offerMessage (s : InitiatorSession) :
    repackOffer sessionId (s.offerMessage K) elements =
      (Repackaging.ofFreshness s.config.useFreshness s.deadline).offer sessionId elements
        s.nonce := by
  unfold InitiatorSession.offerMessage
  cases hfresh : s.config.useFreshness with
  | true => rfl
  | false => rfl

theorem repackReply_replyMessage (sentAt : UInt64) (drawn : SessionNonce) (s : ResponderSession)
    (offer : MaskedSetOffer) :
    repackReply sessionId (s.replyMessage K sentAt drawn offer) elements =
      (Repackaging.ofFreshness (s.usesV2 offer) (.new sentAt s.config.ttlSecs)).reply sessionId
        elements (Session.maskReceived K s.secret offer.maskedElements) (offer.nonce.getD drawn)
        s.nonce := by
  unfold ResponderSession.replyMessage
  cases hfresh : s.usesV2 offer with
  | true => rfl
  | false => rfl

end Repack

section Commands
variable {K : Crates} {drawnPadding : Bytes 32} {drawn : Drawn} {written : Written} {target : ℕ}

theorem length_padTo {elements padded : List MaskedElement} {padSecret : Option String}
    {context : List UInt8}
    (h : padTo K drawnPadding (some target) padSecret elements context = .ok padded) :
    padded.length = target := by
  have hlength : ∀ secret, (padMaskedElements K elements ⟨target, secret⟩ context).mapError
      CliError.padding = .ok padded → padded.length = target :=
    fun secret hpad => (padMaskedElements_spec (Except.mapError_eq_ok_iff.mp hpad)).1
  cases padSecret with
  | none => exact hlength drawnPadding.toList h
  | some text =>
    obtain ⟨secret, -, hpad⟩ := Except.bind_eq_ok_iff.mp h
    exact hlength secret hpad

theorem isSome_loadIdentity {contents : Option String} {identity : Option PartyIdentity}
    (h : loadIdentity K contents = .ok identity) : identity.isSome = contents.isSome := by
  cases contents with
  | none => rw [← Except.ok.inj h]; rfl
  | some text =>
    cases hload : (PartyIdentity.loadFromFile K text).mapError CliError.identity with
    | error e => simp [loadIdentity, hload] at h
    | ok p =>
      simp only [loadIdentity, hload] at h
      rw [← Except.ok.inj h]
      rfl

/-- The offer command sends a list of the target's length, repackaged. -/
theorem message_of_cmdOnlineOffer {createdAt : UInt64} {args : OfferArgs}
    (h : cmdOnlineOffer K createdAt drawn drawnPadding args = .ok written)
    (htarget : args.padTo = some target) :
    ∃ identity elements, identity.isSome = args.identity.isSome ∧ elements.length = target ∧
      written.message = writeMessage K identity (.offer
        ((Repackaging.newV2 (.new createdAt (args.ttlSecs.getD defaultTtlSecs))).offer
          args.session elements drawn.nonce)) := by
  obtain ⟨s, m, identity, elements, -, -, -, hidentity, hpad, hwritten, -⟩ := cmdOnlineOffer_ok h
  rw [htarget] at hpad
  rw [repackOffer_offerMessage] at hwritten
  exact ⟨identity, elements, isSome_loadIdentity hidentity, length_padTo hpad, hwritten⟩

/-- The reply command sends the offered list masked, next to a list of the target's length. -/
theorem message_of_cmdOnlineReply {checkedAt sentAt : UInt64} {replyNonce : SessionNonce}
    {args : ReplyArgs}
    (h : cmdOnlineReply K checkedAt sentAt drawn replyNonce drawnPadding args = .ok written)
    (htarget : args.padTo = some target) :
    ∃ peer offer identity elements doublyMasked initiatorNonce,
      parseExpectPeer K args.expectPeer = .ok peer ∧ readOffer K peer args.offer = .ok offer ∧
      identity.isSome = args.identity.isSome ∧ elements.length = target ∧
      doublyMasked.length = offer.maskedElements.length ∧
      written.message = writeMessage K identity (.reply
        ((Repackaging.ofFreshness offer.hasFreshness
          (.new sentAt (args.ttlSecs.getD defaultTtlSecs))).reply offer.sessionId elements
            doublyMasked initiatorNonce drawn.nonce)) := by
  obtain ⟨s, m, identity, peer, offer, elements, -, -, -, hidentity, hpeer, hoffer, hpad, hwritten,
    -⟩ := cmdOnlineReply_ok h
  rw [htarget] at hpad
  rw [repackReply_replyMessage] at hwritten
  exact ⟨peer, offer, identity, elements, _, _, hpeer, hoffer, isSome_loadIdentity hidentity,
    length_padTo hpad, Session.length_maskReceived .., hwritten⟩

end Commands

theorem writeMessage_sameSize {K : Crates} {m m' : WireMessage} (h : WireMessage.SameSize K m m')
    {identity identity' : Option PartyIdentity} (hsigned : identity.isSome = identity'.isSome) :
    JsonText.SameSize (writeMessage K identity m) (writeMessage K identity' m') := by
  cases identity with
  | none =>
    cases identity' with
    | none => exact h.encodePretty
    | some p' => cases hsigned
  | some p =>
    cases identity' with
    | none => cases hsigned
    | some p' => exact h.encodeSignedPretty p p'

/-- What a padded offer of the command shows of its arguments. -/
structure OfferArgs.Alike (target : ℕ) (args args' : OfferArgs) : Prop where
  padTo : args.padTo = some target
  padTo' : args'.padTo = some target
  session : args.session = args'.session
  ttlSecs : args.ttlSecs = args'.ttlSecs
  signed : args.identity.isSome = args'.identity.isSome

/-- What a padded reply shows; both answer the same file. -/
structure ReplyArgs.Alike (target : ℕ) (args args' : ReplyArgs) : Prop where
  padTo : args.padTo = some target
  padTo' : args'.padTo = some target
  offer : args.offer = args'.offer
  expectPeer : args.expectPeer = args'.expectPeer
  ttlSecs : args.ttlSecs = args'.ttlSecs
  signed : args.identity.isSome = args'.identity.isSome

/-- Neither command shows by the size of its padded message which set it loaded. -/
theorem online_commands_same_size {K : Crates} (hcompact : K.PrintsCompact)
    (hpretty : K.PrintsPretty) {drawn drawn' : Drawn} {drawnPadding drawnPadding' : Bytes 32}
    {written written' : Written} {target : ℕ} :
    (∀ createdAt args args', OfferArgs.Alike target args args' →
      cmdOnlineOffer K createdAt drawn drawnPadding args = .ok written →
      cmdOnlineOffer K createdAt drawn' drawnPadding' args' = .ok written' →
      JsonText.SameSize written.message written'.message) ∧
    ∀ checkedAt checkedAt' sentAt replyNonce replyNonce' args args',
      ReplyArgs.Alike target args args' →
      cmdOnlineReply K checkedAt sentAt drawn replyNonce drawnPadding args = .ok written →
      cmdOnlineReply K checkedAt' sentAt drawn' replyNonce' drawnPadding' args' = .ok written' →
      JsonText.SameSize written.message written'.message := by
  constructor
  · intro createdAt args args' halike h h'
    obtain ⟨identity, elements, hidentity, hlength, hwritten⟩ :=
      message_of_cmdOnlineOffer h halike.padTo
    obtain ⟨identity', elements', hidentity', hlength', hwritten'⟩ :=
      message_of_cmdOnlineOffer h' halike.padTo'
    rw [hwritten, hwritten', halike.session, halike.ttlSecs]
    refine writeMessage_sameSize (.of_zeroed hcompact hpretty ?_)
      ((hidentity.trans halike.signed).trans hidentity'.symm)
    exact Repackaging.zeroed_offer _ _ (hlength.trans hlength'.symm) _ _
  · intro checkedAt checkedAt' sentAt replyNonce replyNonce' args args' halike h h'
    obtain ⟨peer, offer, identity, elements, doublyMasked, initiatorNonce, hpeer, hoffer,
      hidentity, hlength, hdoubly, hwritten⟩ := message_of_cmdOnlineReply h halike.padTo
    obtain ⟨peer', offer', identity', elements', doublyMasked', initiatorNonce', hpeer', hoffer',
      hidentity', hlength', hdoubly', hwritten'⟩ := message_of_cmdOnlineReply h' halike.padTo'
    rw [← halike.expectPeer, hpeer] at hpeer'
    obtain rfl := Except.ok.inj hpeer'
    rw [← halike.offer, hoffer] at hoffer'
    obtain rfl := Except.ok.inj hoffer'
    rw [hwritten, hwritten', halike.ttlSecs]
    refine writeMessage_sameSize (.of_zeroed hcompact hpretty ?_)
      ((hidentity.trans halike.signed).trans hidentity'.symm)
    exact Repackaging.zeroed_reply _ _ (hlength.trans hlength'.symm)
      (hdoubly.trans hdoubly'.symm) _ _ _ _

end Cli

end BlindOverlap
