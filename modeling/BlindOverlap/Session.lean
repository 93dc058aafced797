import BlindOverlap.Invite
import BlindOverlap.Lease
import BlindOverlap.Lib.Machine
import BlindOverlap.WireCodec

/-!
# Sessions: what both roles share

Configuration, errors, the check of a bound peer, and the masking of lists. A
session operation is a call that answers and leaves a next state, also when it
fails; clock readings and random values are its arguments.
-/
namespace BlindOverlap

/-- Why an operation is refused. The errors of the other modules are wrapped. -/
inductive SessionError where
  | setTooLarge (size : ℕ)
  | invalidState (expected actual : String)
  | sessionIdMismatch (expected got : String)
  | elementCountMismatch (expected got : ℕ)
  | freshness (e : FreshnessError)
  | nonceMismatch (expected got : String)
  | identityMismatch (expected got : String)
  | badSignature
  | missingIdentity
  | wire (e : WireError)
  | invite (e : InviteError)
  | lease (e : LeaseError)
  deriving DecidableEq

/-- How long messages are good for, and what a session asks of them. -/
structure SessionConfig where
  ttlSecs : UInt64
  useFreshness : Bool
  requireSignatures : Bool
  deriving DecidableEq

namespace SessionConfig

/-- The derived default: no freshness, and no lifetime either. -/
def default : SessionConfig := ⟨0, false, false⟩

/-- The configuration that is meant as the usual one. -/
def new : SessionConfig := ⟨defaultTtlSecs, true, false⟩

def v1Compatible : SessionConfig := ⟨defaultTtlSecs, false, false⟩

def withTtl (ttlSecs : UInt64) : SessionConfig := ⟨ttlSecs, true, false⟩

/-- The only configuration that requires signatures. -/
def withIdentityBinding (ttlSecs : UInt64) : SessionConfig := ⟨ttlSecs, true, true⟩

end SessionConfig

/-- The two keys of a bound session. Only the peer's is ever compared. -/
structure ChannelBinding where
  localPubkey : PublicIdentity
  peerPubkey : PublicIdentity
  deriving DecidableEq

/-- What a constructor draws from the random source. -/
structure Drawn where
  secret : StaticSecret
  nonce : SessionNonce

namespace Session

/-- An identifier is taken as a secret, and its public key is the point. -/
def hashToPublicKey (K : Crates) (id : FactId) : PublicKey := K.publicKey id

/-- Every identifier's point under the secret. -/
def maskIds (K : Crates) (secret : StaticSecret) (ids : List FactId) : List MaskedElement :=
  ids.map (fun id => K.diffieHellman secret (hashToPublicKey K id))

/-- Every received point under the secret. -/
def maskReceived (K : Crates) (secret : StaticSecret) (received : List MaskedElement) :
    List MaskedElement :=
  received.map (K.diffieHellman secret)

@[simp] theorem length_maskIds (K : Crates) (secret : StaticSecret) (ids : List FactId) :
    (maskIds K secret ids).length = ids.length := List.length_map _

@[simp] theorem length_maskReceived (K : Crates) (secret : StaticSecret)
    (received : List MaskedElement) : (maskReceived K secret received).length = received.length :=
  List.length_map _

/-- How a session reports a failed check of the signer. -/
def peerError : WireError → SessionError
  | .peerMismatch expected got => .identityMismatch expected got
  | .identity _ => .badSignature
  | other => .wire other

/-- The check of a signed message, the same in every signed handler: against the
bound peer if there is one, refused without one where signatures are required. -/
def checkSigner (K : Crates) (binding : Option ChannelBinding) (config : SessionConfig)
    (signed : SignedWireMessage) : Except SessionError Unit :=
  match binding with
  | some binding =>
    match signed.verifyPeer K binding.peerPubkey with
    | .error e => .error (peerError e)
    | .ok () => .ok ()
  | none => if config.requireSignatures then .error .missingIdentity else .ok ()

/-- A bound handler accepts exactly the signed messages of the peer. -/
theorem checkSigner_bound {K : Crates} {binding : ChannelBinding} {config : SessionConfig}
    {signed : SignedWireMessage} (h : checkSigner K (some binding) config signed = .ok ()) :
    signed.signerPubkey = binding.peerPubkey ∧ signed.verifySignature K = .ok () := by
  refine SignedWireMessage.verifyPeer_eq_ok_iff.mp ?_
  cases hv : signed.verifyPeer K binding.peerPubkey with
  | error e => simp [checkSigner, hv] at h
  | ok u => rfl

/-- What the peer signs gets past the check of the signer, and nothing else does. -/
theorem checkSigner_sign {K : Crates} {p : PartyIdentity} (hp : p.Proper K)
    {own peer : PublicIdentity} {config : SessionConfig} {m : WireMessage} :
    checkSigner K (some ⟨own, peer⟩) config (.sign K m p) = .ok () ↔ peer = p.publicIdentity K := by
  constructor
  · exact fun h => (checkSigner_bound h).1.symm
  · rintro rfl
    have hpeer : (SignedWireMessage.sign K m p).verifyPeer K (p.publicIdentity K) = .ok () :=
      SignedWireMessage.verifyPeer_eq_ok_iff.mpr
        ⟨rfl, SignedWireMessage.verifySignature_sign hp m⟩
    simp only [checkSigner, hpeer]

/-- A deadline that a message carries must not have passed. -/
def checkDeadline (now : UInt64) : Option SessionDeadline → Except SessionError Unit
  | some deadline =>
    match deadline.validate now with
    | .error e => .error (.freshness e)
    | .ok () => .ok ()
  | none => .ok ()

/-- A nonce that a message echoes must be the session's own, and its deadline must
not have passed. -/
def checkEcho (now : UInt64) (own : SessionNonce) (echoed : Option SessionNonce)
    (deadline : Option SessionDeadline) : Except SessionError Unit :=
  match echoed with
  | some nonce =>
    if nonce ≠ own then .error (.nonceMismatch own.toHex nonce.toHex)
    else checkDeadline now deadline
  | none => checkDeadline now deadline

theorem checkDeadline_eq_ok_iff {now : UInt64} {deadline : Option SessionDeadline} :
    checkDeadline now deadline = .ok () ↔ ∀ d ∈ deadline, d.validate now = .ok () := by
  cases deadline with
  | none => simp [checkDeadline]
  | some d => cases hv : d.validate now <;> simp [checkDeadline, hv]

theorem checkEcho_eq_ok_iff {now : UInt64} {own : SessionNonce} {echoed : Option SessionNonce}
    {deadline : Option SessionDeadline} :
    checkEcho now own echoed deadline = .ok () ↔
      (∀ n ∈ echoed, n = own) ∧ ∀ d ∈ deadline, d.validate now = .ok () := by
  cases echoed with
  | none => simp [checkEcho, checkDeadline_eq_ok_iff]
  | some nonce =>
    by_cases hn : nonce = own
    · simp [checkEcho, hn, checkDeadline_eq_ok_iff]
    · simp [checkEcho, hn]

/-- With nonce and deadline present, the nonce has to be the own one and the deadline ahead. -/
theorem checkEcho_some_eq_ok_iff {now : UInt64} {own nonce : SessionNonce} {d : SessionDeadline} :
    checkEcho now own (some nonce) (some d) = .ok () ↔
      nonce = own ∧ d.validate now = .ok () := by
  simp [checkEcho_eq_ok_iff]

/-- The shared checks never blame the state. -/
theorem checkSigner_ne_invalidState {K : Crates} {binding : Option ChannelBinding}
    {config : SessionConfig} {signed : SignedWireMessage} (expected actual : String) :
    checkSigner K binding config signed ≠ .error (.invalidState expected actual) := by
  unfold checkSigner
  split
  · split
    · next e _ => cases e <;> simp [peerError]
    · simp
  · split_ifs <;> simp

theorem checkDeadline_ne_invalidState {now : UInt64} {deadline : Option SessionDeadline}
    (expected actual : String) :
    checkDeadline now deadline ≠ .error (.invalidState expected actual) := by
  unfold checkDeadline
  split
  · split <;> simp
  · simp

theorem checkEcho_ne_invalidState {now : UInt64} {own : SessionNonce}
    {echoed : Option SessionNonce} {deadline : Option SessionDeadline} (expected actual : String) :
    checkEcho now own echoed deadline ≠ .error (.invalidState expected actual) := by
  unfold checkEcho
  split
  · split_ifs
    · simp
    · exact checkDeadline_ne_invalidState expected actual
  · exact checkDeadline_ne_invalidState expected actual

end Session

/-- What a successful operation hands to its caller. -/
inductive SessionOutput where
  | offer (m : MaskedSetOffer)
  | reply (m : MaskedSetReply)
  | reveal (m : IntersectionReveal)
  | signed (m : SignedWireMessage)
  | result (r : PsiResult)
  deriving DecidableEq

namespace SessionOutput

/-- The message an operation produced, out of its envelope. -/
def sent? : SessionOutput → Option WireMessage
  | .offer m => some (.offer m)
  | .reply m => some (.reply m)
  | .reveal m => some (.reveal m)
  | .signed m => some m.message
  | .result _ => none

def offer? (o : SessionOutput) : Option MaskedSetOffer :=
  match o.sent? with
  | some (.offer m) => some m
  | _ => none

def reply? (o : SessionOutput) : Option MaskedSetReply :=
  match o.sent? with
  | some (.reply m) => some m
  | _ => none

def result? : SessionOutput → Option PsiResult
  | .result r => some r
  | _ => none

end SessionOutput

/-- What a call hands over of one kind, if it succeeds. -/
def succeeded {β : Type} (part : SessionOutput → Option β) :
    Except SessionError SessionOutput → Option β
  | .ok o => part o
  | .error _ => none

theorem succeeded_map_isSome {α β : Type} {part : SessionOutput → Option β} {f : α → SessionOutput}
    {x : Except SessionError α} (h : (succeeded part (x.map f)).isSome = true) :
    ∃ a, x = .ok a ∧ (part (f a)).isSome = true := by
  cases x with
  | error e => cases h
  | ok a => exact ⟨a, rfl, h⟩

/-- An answer that names the given state in an error. -/
def NamesState {α : Type} (actual : String) : Except SessionError α → Prop
  | .error (.invalidState _ named) => named = actual
  | _ => False

@[simp] theorem namesState_map {α β : Type} {actual : String} {x : Except SessionError α}
    {f : α → β} : NamesState actual (x.map f) ↔ NamesState actual x := by
  cases x with
  | error e => cases e <;> rfl
  | ok a => rfl

@[simp] theorem not_namesState_ok {α : Type} {actual : String} {a : α} :
    ¬ NamesState actual (.ok a : Except SessionError α) := id

theorem namesState_error {α : Type} {actual : String} {e : SessionError} :
    NamesState actual (.error e : Except SessionError α) ↔
      ∃ expected, e = .invalidState expected actual := by
  cases e <;> simp [NamesState]

end BlindOverlap
