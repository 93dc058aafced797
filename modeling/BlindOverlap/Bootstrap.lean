import BlindOverlap.InitiatorSession
import BlindOverlap.Reference
import BlindOverlap.ResponderSession

/-!
# Sessions from tickets and leases

Four constructors turn an authorisation into a session bound to its issuer. Three of them
demand that the local identity is the peer it was made for; the initiator's constructor
from a ticket does not.
-/
namespace BlindOverlap

/-- What permits its holder to take part in a session. -/
inductive Authorisation where
  | ticket (t : InviteTicket)
  | lease (l : SessionLease)

namespace Authorisation

def sessionId : Authorisation → String
  | .ticket t => t.sessionId
  | .lease l => l.sessionId

def issuer : Authorisation → PublicIdentity
  | .ticket t => t.issuerPubkey
  | .lease l => l.issuerPubkey

/-- The peer it was made for, if it names one; a lease always does. -/
def peer : Authorisation → Option PublicIdentity
  | .ticket t => t.peerPubkey
  | .lease l => some l.peerPubkey

/-- The issuer's signature verifies over the payload. -/
def Signed (K : Crates) : Authorisation → Prop
  | .ticket t => t.issuerPubkey.verify K t.payload t.signature = .ok ()
  | .lease l => l.issuerPubkey.verify K l.payload l.signature = .ok ()

def InWindow (now : UInt64) : Authorisation → Prop
  | .ticket t => t.issuedAt ≤ now ∧ now ≤ t.expiresAt
  | .lease l => l.issuedAt ≤ now ∧ now ≤ l.expiresAt

/-- A lease is good for both modes. -/
def Permits (mode : IntersectionMode) : Authorisation → Prop
  | .ticket t => t.allowedMode.permits mode = true
  | .lease _ => True

end Authorisation

/-- A call of one of the constructors, with the readings of the clock. -/
inductive BootstrapCall where
  | initiatorFromInvite (verifiedAt now : UInt64) (ticket : InviteTicket)
  | responderFromInvite (verifiedAt matchedAt : UInt64) (ticket : InviteTicket)
  | initiatorFromLease (verifiedAt now : UInt64) (lease : SessionLease)
  | responderFromLease (verifiedAt : UInt64) (lease : SessionLease)

/-- A session of either role, as far as an authorisation determines it. -/
structure Bootstrapped where
  sessionId : String
  expectedPeer : Option PublicIdentity
  deriving DecidableEq

namespace BootstrapCall

def authorisation : BootstrapCall → Authorisation
  | .initiatorFromInvite _ _ ticket => .ticket ticket
  | .responderFromInvite _ _ ticket => .ticket ticket
  | .initiatorFromLease _ _ lease => .lease lease
  | .responderFromLease _ lease => .lease lease

/-- The readings against which the authorisation is checked. -/
def checkedAt : BootstrapCall → List UInt64
  | .initiatorFromInvite verifiedAt _ _ => [verifiedAt]
  | .responderFromInvite verifiedAt matchedAt _ => [verifiedAt, matchedAt]
  | .initiatorFromLease verifiedAt _ _ => [verifiedAt]
  | .responderFromLease verifiedAt _ => [verifiedAt]

def run (K : Crates) (drawn : Drawn) (factSet : FactSet) (mode : IntersectionMode)
    (identity : PartyIdentity) : BootstrapCall → Except SessionError Bootstrapped
  | .initiatorFromInvite verifiedAt now ticket =>
    (InitiatorSession.fromInvite K verifiedAt now drawn ticket factSet mode identity).map
      (fun s => ⟨s.sessionId, s.channelBinding.map ChannelBinding.peerPubkey⟩)
  | .responderFromInvite verifiedAt matchedAt ticket =>
    (ResponderSession.fromInvite K verifiedAt matchedAt drawn ticket factSet mode identity).map
      (fun s => ⟨s.sessionId, s.channelBinding.map ChannelBinding.peerPubkey⟩)
  | .initiatorFromLease verifiedAt now lease =>
    (InitiatorSession.fromLease K verifiedAt now drawn lease factSet mode identity).map
      (fun s => ⟨s.sessionId, s.channelBinding.map ChannelBinding.peerPubkey⟩)
  | .responderFromLease verifiedAt lease =>
    (ResponderSession.fromLease K verifiedAt drawn lease factSet mode identity).map
      (fun s => ⟨s.sessionId, s.channelBinding.map ChannelBinding.peerPubkey⟩)

/-- Signed by the issuer, valid at every reading, and good for the mode. -/
structure Valid (K : Crates) (mode : IntersectionMode) (c : BootstrapCall) : Prop where
  signed : c.authorisation.Signed K
  inWindow : ∀ now ∈ c.checkedAt, c.authorisation.InWindow now
  permits : c.authorisation.Permits mode

/-- The authorisation names no peer, or the local identity. -/
def ForIdentity (K : Crates) (identity : PartyIdentity) (c : BootstrapCall) : Prop :=
  ∀ p ∈ c.authorisation.peer, p = identity.publicIdentity K

/-- The one constructor that does not look at the peer. -/
def IgnoresPeer : BootstrapCall → Prop
  | .initiatorFromInvite _ _ _ => True
  | _ => False

section Constructors
variable {K : Crates} {drawn : Drawn} {factSet : FactSet} {mode : IntersectionMode}
  {identity : PartyIdentity}

theorem initiator_withChannelBinding {now : UInt64} {sessionId : String} {peer : PublicIdentity}
    {b : Bootstrapped} :
    (InitiatorSession.withChannelBinding K now drawn sessionId factSet mode identity peer).map
        (fun s => Bootstrapped.mk s.sessionId (s.channelBinding.map ChannelBinding.peerPubkey)) =
      .ok b ↔ factSet.len ≤ maxSetSize ∧ b = ⟨sessionId, some peer⟩ := by
  by_cases hset : factSet.len ≤ maxSetSize
  · simp [InitiatorSession.withChannelBinding, InitiatorSession.withConfig, not_lt.mpr hset,
      Except.map, InitiatorSession.created, hset, eq_comm]
  · simp [InitiatorSession.withChannelBinding, InitiatorSession.withConfig, not_le.mp hset,
      Except.map, hset]

theorem responder_withChannelBinding {sessionId : String} {peer : PublicIdentity}
    {b : Bootstrapped} :
    (ResponderSession.withChannelBinding K drawn sessionId factSet mode identity peer).map
        (fun s => Bootstrapped.mk s.sessionId (s.channelBinding.map ChannelBinding.peerPubkey)) =
      .ok b ↔ factSet.len ≤ maxSetSize ∧ b = ⟨sessionId, some peer⟩ := by
  by_cases hset : factSet.len ≤ maxSetSize
  · simp [ResponderSession.withChannelBinding, ResponderSession.withConfig, not_lt.mpr hset,
      Except.map, ResponderSession.created, hset, eq_comm]
  · simp [ResponderSession.withChannelBinding, ResponderSession.withConfig, not_le.mp hset,
      Except.map, hset]

/-- The one check of a lease covers everything, its peer included. -/
theorem valid_lease_iff {c : BootstrapCall} {verifiedAt : UInt64} {lease : SessionLease}
    (hlease : c.authorisation = .lease lease) (hreads : c.checkedAt = [verifiedAt]) :
    c.Valid K mode ∧ c.ForIdentity K identity ↔
      lease.verifyForPeer K verifiedAt (identity.publicIdentity K) = .ok () := by
  rw [SessionLease.verifyForPeer_eq_ok_iff, SessionLease.verify_eq_ok_iff]
  constructor
  · rintro ⟨⟨hsigned, hwindow, -⟩, hpeer⟩
    rw [hlease] at hsigned
    rw [hreads, hlease] at hwindow
    rw [ForIdentity, hlease] at hpeer
    exact ⟨⟨hsigned, hwindow verifiedAt List.mem_cons_self⟩, hpeer _ rfl⟩
  · rintro ⟨⟨hsigned, hwindow⟩, hpeer⟩
    refine ⟨⟨?_, ?_, ?_⟩, ?_⟩
    · rw [hlease]
      exact hsigned
    · intro now hnow
      rw [hreads] at hnow
      rw [hlease, List.mem_singleton.mp hnow]
      exact hwindow
    · rw [hlease]
      trivial
    · rw [ForIdentity, hlease]
      intro p hp
      rw [← Option.some.inj hp, hpeer]

theorem valid_initiatorFromInvite_iff {verifiedAt now : UInt64} {ticket : InviteTicket} :
    (initiatorFromInvite verifiedAt now ticket).Valid K mode ↔
      ticket.verifyForSession K verifiedAt ticket.sessionId mode = .ok () := by
  rw [InviteTicket.verifyForSession_eq_ok_iff, InviteTicket.verify_eq_ok_iff]
  constructor
  · rintro ⟨hsigned, hwindow, hpermits⟩
    exact ⟨⟨hsigned, hwindow verifiedAt List.mem_cons_self⟩, rfl, hpermits⟩
  · rintro ⟨⟨hsigned, hwindow⟩, -, hpermits⟩
    refine ⟨hsigned, ?_, hpermits⟩
    intro t ht
    rw [List.mem_singleton.mp ht]
    exact hwindow

/-- The responder's two checks of a ticket cover its peer, too. -/
theorem valid_responderFromInvite_iff {verifiedAt matchedAt : UInt64} {ticket : InviteTicket} :
    (responderFromInvite verifiedAt matchedAt ticket).Valid K mode ∧
        (responderFromInvite verifiedAt matchedAt ticket).ForIdentity K identity ↔
      ticket.verifyForSession K verifiedAt ticket.sessionId mode = .ok () ∧
        ticket.verifyForPeer K matchedAt (identity.publicIdentity K) = .ok () := by
  rw [InviteTicket.verifyForSession_eq_ok_iff, InviteTicket.verifyForPeer_eq_ok_iff,
    InviteTicket.verify_eq_ok_iff, InviteTicket.verify_eq_ok_iff]
  constructor
  · rintro ⟨⟨hsigned, hwindow, hpermits⟩, hpeer⟩
    exact ⟨⟨⟨hsigned, hwindow verifiedAt List.mem_cons_self⟩, rfl, hpermits⟩,
      ⟨hsigned, hwindow matchedAt (List.mem_cons_of_mem _ List.mem_cons_self)⟩, hpeer⟩
  · rintro ⟨⟨⟨hsigned, hverified⟩, -, hpermits⟩, ⟨-, hmatched⟩, hpeer⟩
    refine ⟨⟨hsigned, ?_, hpermits⟩, hpeer⟩
    intro t ht
    rcases List.mem_cons.mp ht with rfl | ht
    · exact hverified
    · rw [List.mem_singleton.mp ht]
      exact hmatched

/-- Exactly when a constructor returns, and what the session is bound to. -/
theorem run_eq_ok_iff {c : BootstrapCall} {b : Bootstrapped} :
    c.run K drawn factSet mode identity = .ok b ↔
      factSet.len ≤ maxSetSize ∧ c.Valid K mode ∧ (c.IgnoresPeer ∨ c.ForIdentity K identity) ∧
        b = ⟨c.authorisation.sessionId, some c.authorisation.issuer⟩ := by
  cases c with
  | initiatorFromInvite verifiedAt now ticket =>
    rw [valid_initiatorFromInvite_iff, run, InitiatorSession.fromInvite]
    cases hv : ticket.verifyForSession K verifiedAt ticket.sessionId mode with
    | error e => simp [Except.map]
    | ok u =>
      simp only [initiator_withChannelBinding, IgnoresPeer, true_or, true_and]
      rfl
  | responderFromInvite verifiedAt matchedAt ticket =>
    rw [run, ResponderSession.fromInvite]
    simp only [IgnoresPeer, false_or]
    rw [← and_assoc (a := Valid K mode _), valid_responderFromInvite_iff]
    cases ticket.verifyForSession K verifiedAt ticket.sessionId mode with
    | error e => simp [Except.map]
    | ok u =>
      cases ticket.verifyForPeer K matchedAt (identity.publicIdentity K) with
      | error e => simp [Except.map]
      | ok u =>
        simp only [responder_withChannelBinding, true_and]
        rfl
  | initiatorFromLease verifiedAt now lease =>
    have hvalid : ((initiatorFromLease verifiedAt now lease).Valid K mode) ∧
        (initiatorFromLease verifiedAt now lease).ForIdentity K identity ↔
        lease.verifyForPeer K verifiedAt (identity.publicIdentity K) = .ok () :=
      valid_lease_iff rfl rfl
    rw [run, InitiatorSession.fromLease]
    simp only [IgnoresPeer, false_or]
    rw [← and_assoc (a := Valid K mode _), hvalid]
    cases lease.verifyForPeer K verifiedAt (identity.publicIdentity K) with
    | error e => simp [Except.map]
    | ok u =>
      simp only [initiator_withChannelBinding, true_and]
      rfl
  | responderFromLease verifiedAt lease =>
    have hvalid : ((responderFromLease verifiedAt lease).Valid K mode) ∧
        (responderFromLease verifiedAt lease).ForIdentity K identity ↔
        lease.verifyForPeer K verifiedAt (identity.publicIdentity K) = .ok () :=
      valid_lease_iff rfl rfl
    rw [run, ResponderSession.fromLease]
    simp only [IgnoresPeer, false_or]
    rw [← and_assoc (a := Valid K mode _), hvalid]
    cases lease.verifyForPeer K verifiedAt (identity.publicIdentity K) with
    | error e => simp [Except.map]
    | ok u =>
      simp only [responder_withChannelBinding, true_and]
      rfl

end Constructors

/-- A constructor's answer is authorised: by a valid artefact made for the local identity,
and bound to its session and issuer. -/
def Authorised (K : Crates) (drawn : Drawn) (factSet : FactSet) (mode : IntersectionMode)
    (identity : PartyIdentity) (c : BootstrapCall) : Prop :=
  ∀ b, c.run K drawn factSet mode identity = .ok b →
    c.Valid K mode ∧ c.ForIdentity K identity ∧ b.sessionId = c.authorisation.sessionId ∧
      b.expectedPeer = some c.authorisation.issuer

/-- Only the initiator's constructor from a ticket can answer someone else, and does so
for every ticket that it would accept from its peer. -/
theorem authorised_iff (K : Crates) (drawn : Drawn) (factSet : FactSet) (mode : IntersectionMode)
    (identity : PartyIdentity) (c : BootstrapCall) :
    c.Authorised K drawn factSet mode identity ↔
      (c.IgnoresPeer → factSet.len ≤ maxSetSize → c.Valid K mode → c.ForIdentity K identity) := by
  constructor
  · intro h hignores hset hvalid
    exact (h _ (run_eq_ok_iff.mpr ⟨hset, hvalid, .inl hignores, rfl⟩)).2.1
  · intro h b hb
    obtain ⟨hset, hvalid, hpeer, rfl⟩ := run_eq_ok_iff.mp hb
    refine ⟨hvalid, ?_, rfl, rfl⟩
    rcases hpeer with hignores | hpeer
    · exact h hignores hset hvalid
    · exact hpeer

/-- A ticket from one party to a second one, in the hands of a third. -/
def intercepted : InviteTicket :=
  .issue .reference 1000 (.fromSeed (filled 1)) "s"
    (some ((PartyIdentity.fromSeed (filled 2)).publicIdentity .reference)) .any 300

theorem intercepted_starts_session :
    ¬ (initiatorFromInvite 1000 1000 intercepted).Authorised .reference
      ⟨filled 17, ⟨filled 4⟩⟩ (.empty .reference) .intersection (.fromSeed (filled 3)) := by
  intro h
  have hvalid : (initiatorFromInvite 1000 1000 intercepted).Valid .reference .intersection := by
    refine ⟨?_, ?_, rfl⟩
    · exact (Crates.reference_proper _).verify_sign _
    · intro now hnow
      rw [List.mem_singleton.mp hnow]
      exact ⟨by decide, by decide⟩
  have hrun := (@run_eq_ok_iff .reference ⟨filled 17, ⟨filled 4⟩⟩ (.empty .reference) .intersection
    (.fromSeed (filled 3)) _ _).mpr ⟨by decide, hvalid, .inl trivial, rfl⟩
  have hpeer := (h _ hrun).2.1 ((PartyIdentity.fromSeed (filled 2)).publicIdentity .reference) rfl
  exact absurd hpeer (by decide +kernel)

end BootstrapCall

end BlindOverlap
