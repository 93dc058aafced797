import BlindOverlap.CliVerify
import BlindOverlap.LeaseChain

/-!
# Commands that make and verify artefacts

Tickets, leases, abort receipts and attestations are made by one command and verified by
another. The contents of the files that a command reads are its arguments, beside the clock,
and the text that it writes is its answer.
-/
namespace BlindOverlap

/-! ## Records read as records of another kind -/

section Kinds
variable {K : Crates} (fields : List (String × Option Json))

theorem InviteTicket.deserialize_ne_ok (hn : (fields.map Prod.fst).Nodup)
    (h : "allowed_mode" ∉ fields.map Prod.fst) (t : InviteTicket) :
    deserialize K (Json.record fields) ≠ .ok t := by
  rw [deserialize, Json.readRecord, Json.slots_record_lookup hn]
  simp [fieldNames, ofSlots, Json.lookup_join_of_not_mem h, Except.bind_eq_ok_iff]

theorem SessionLease.deserialize_ne_ok (hn : (fields.map Prod.fst).Nodup)
    (h : "peer_pubkey" ∉ fields.map Prod.fst) (l : SessionLease) :
    deserialize K (Json.record fields) ≠ .ok l := by
  rw [deserialize, Json.readRecord, Json.slots_record_lookup hn]
  simp [fieldNames, ofSlots, Json.lookup_join_of_not_mem h, Except.bind_eq_ok_iff]

theorem AbortReceipt.deserialize_ne_ok (hn : (fields.map Prod.fst).Nodup)
    (h : "reason" ∉ fields.map Prod.fst) (r : AbortReceipt) :
    deserialize K (Json.record fields) ≠ .ok r := by
  rw [deserialize, Json.readRecord, Json.slots_record_lookup hn]
  simp [fieldNames, ofSlots, Json.lookup_join_of_not_mem h, Except.bind_eq_ok_iff]

theorem OverlapAttestation.deserialize_ne_ok (hn : (fields.map Prod.fst).Nodup)
    (h : "set_root_a" ∉ fields.map Prod.fst) (a : OverlapAttestation) :
    deserialize K (Json.record fields) ≠ .ok a := by
  rw [deserialize, Json.readRecord, Json.slots_record_lookup hn]
  simp [fieldNames, ofSlots, Json.lookup_join_of_not_mem h, Except.bind_eq_ok_iff]

/-- A ticket that names a peer has every field that a lease needs. -/
def InviteTicket.asLease (t : InviteTicket) (peer : PublicIdentity) : SessionLease where
  version := t.version
  sessionId := t.sessionId
  issuerPubkey := t.issuerPubkey
  peerPubkey := peer
  issuedAt := t.issuedAt
  expiresAt := t.expiresAt
  renewCount := 0
  parentLeaseId := none
  signature := t.signature

theorem SessionLease.deserialize_ticket_eq_ok_iff {t : InviteTicket}
    (h : ∀ p ∈ t.identities, p.Decodes K) (l : SessionLease) :
    deserialize K t.serialize = .ok l ↔ ∃ peer, t.peerPubkey = some peer ∧ t.asLease peer = l := by
  have hissuer : Json.Keeps 0 _ _ _ :=
    PublicIdentity.keeps (h t.issuerPubkey (by simp [InviteTicket.identities]))
  have hn : (t.fields.map Prod.fst).Nodup := show InviteTicket.fieldNames.Nodup by decide
  rw [deserialize, Json.readRecord, InviteTicket.serialize, Json.slots_record_lookup hn]
  cases hp : t.peerPubkey with
  | none =>
    simp [fieldNames, ofSlots, InviteTicket.fields, List.lookup, hissuer.read_write, hp]
  | some peer =>
    have hpeer : Json.Keeps 0 _ _ _ :=
      PublicIdentity.keeps (h peer (by simp [InviteTicket.identities, hp]))
    simp [fieldNames, ofSlots, InviteTicket.fields, List.lookup, hissuer.read_write, hp,
      hpeer.read_write, InviteTicket.asLease]

end Kinds

namespace Cli

/-- What a command fails with; the error of the artefact or of reading it is wrapped. -/
inductive ArtefactError where
  /-- A file that is not there. -/
  | io
  | cli (e : CliError)
  | json (e : JsonError)
  | verify (e : VerifyError)
  | lease (e : LeaseError)
  | abort (e : AbortError)
  | attestation (e : AttestationError)

/-! ## Arguments -/

/-- The identity file that a command is given. -/
def readIdentity (K : Crates) (contents : String) : Except ArtefactError PartyIdentity :=
  (PartyIdentity.loadFromFile K contents).mapError (fun e => .cli (.identity e))

/-- A key that is given on the command line, in hexadecimal. -/
def parsePeer (K : Crates) (hex : String) : Except ArtefactError PublicIdentity :=
  (PublicIdentity.fromHex K hex).mapError (fun e => .cli (.identity e))

/-- The check of a key that an argument names, if there is one. -/
def checkKey (K : Crates) {ε : Type} (wrap : ε → ArtefactError)
    (check : PublicIdentity → Except ε Unit) : Option String → Except ArtefactError Unit
  | none => .ok ()
  | some hex => do
    let key ← parsePeer K hex
    (check key).mapError wrap

/-- The check of a session that an argument names, if there is one. -/
def checkSession {ε : Type} (wrap : ε → ArtefactError) (check : String → Except ε Unit) :
    Option String → Except ArtefactError Unit
  | none => .ok ()
  | some session => (check session).mapError wrap

section Arguments
variable {K : Crates} {ε : Type} {wrap : ε → ArtefactError}

theorem parsePeer_eq_ok_iff {hex : String} {p : PublicIdentity} :
    parsePeer K hex = .ok p ↔ PublicIdentity.fromHex K hex = .ok p := Except.mapError_eq_ok_iff

theorem readIdentity_eq_ok_iff {contents : String} {p : PartyIdentity} :
    readIdentity K contents = .ok p ↔ PartyIdentity.loadFromFile K contents = .ok p :=
  Except.mapError_eq_ok_iff

theorem checkKey_eq_ok_iff {check : PublicIdentity → Except ε Unit} {named : Option String} :
    checkKey K wrap check named = .ok () ↔
      ∀ hex ∈ named, ∃ key, PublicIdentity.fromHex K hex = .ok key ∧ check key = .ok () := by
  cases named with
  | none => simp [checkKey]
  | some hex =>
    simp only [checkKey, Except.bind_eq_ok_iff, parsePeer_eq_ok_iff, Except.mapError_eq_ok_iff,
      Option.mem_some_iff, forall_eq']

theorem checkSession_eq_ok_iff {check : String → Except ε Unit} {named : Option String} :
    checkSession wrap check named = .ok () ↔ ∀ session ∈ named, check session = .ok () := by
  cases named with
  | none => simp [checkSession]
  | some session => simp only [checkSession, Except.mapError_eq_ok_iff, Option.mem_some_iff,
      forall_eq']

/-- A check that compares the key with the artefact's own, and asks for something else. -/
theorem checkKey_compare_iff {check : PublicIdentity → Except ε Unit} {named : Option String}
    {own : PublicIdentity} {p : Prop} (h : ∀ key, check key = .ok () ↔ p ∧ own = key) :
    checkKey K wrap check named = .ok () ↔
      ∀ hex ∈ named, p ∧ PublicIdentity.fromHex K hex = .ok own := by
  rw [checkKey_eq_ok_iff]
  refine forall₂_congr fun hex _ => ?_
  simp only [h]
  constructor
  · rintro ⟨key, hkey, hp, rfl⟩
    exact ⟨hp, hkey⟩
  · rintro ⟨hp, hkey⟩
    exact ⟨own, hkey, hp, rfl⟩

end Arguments

/-! ## Tickets -/

/-- Unlike a session, a ticket has a third mode. -/
def parseAllowedMode (mode : String) : Except ArtefactError AllowedMode :=
  match mode with
  | "intersection" => .ok .intersection
  | "cardinality" => .ok .cardinality
  | "any" => .ok .any
  | _ => .error (.cli (.message s!"unknown mode: {mode}"))

def parsePeerOption (K : Crates) : Option String → Except ArtefactError (Option PublicIdentity)
  | none => .ok none
  | some hex => some <$> parsePeer K hex

/-- The identity is read before the other arguments are looked at. -/
def cmdInviteCreate (K : Crates) (now : UInt64) (session identity : String)
    (peer : Option String) (mode : String) (ttlSecs : UInt64) : Except ArtefactError String := do
  let identity ← readIdentity K identity
  let peer ← parsePeerOption K peer
  let mode ← parseAllowedMode mode
  return (InviteTicket.issue K now identity session peer mode ttlSecs).toJsonPretty K

/-! ## Leases -/

/-- The clock is read again for every check. -/
structure LeaseReadings where
  verifiedAt : UInt64
  issuerAt : UInt64
  peerAt : UInt64
  sessionAt : UInt64

/-- A lease always names its peer. -/
def cmdLeaseIssue (K : Crates) (now : UInt64) (session identity peer : String)
    (ttlSecs : UInt64) : Except ArtefactError String := do
  let identity ← readIdentity K identity
  let peer ← parsePeer K peer
  return (SessionLease.issue K now identity session peer ttlSecs).toJsonPretty K

/-- Every expectation that is given is checked by a call that verifies the lease again. -/
def cmdLeaseVerify (K : Crates) (t : LeaseReadings) (lease : String)
    (expectIssuer forPeer forSession : Option String) : Except ArtefactError Unit := do
  let lease ← (SessionLease.fromJson K lease).mapError .json
  (lease.verify K t.verifiedAt).mapError .lease
  checkKey K .lease (lease.verifyIssuer K t.issuerAt) expectIssuer
  checkKey K .lease (lease.verifyForPeer K t.peerAt) forPeer
  checkSession .lease (lease.verifyForSession K t.sessionAt) forSession

/-- The lease is read and renewed without being verified. -/
def cmdLeaseRenew (K : Crates) (now : UInt64) (lease identity : String) (ttlSecs : UInt64) :
    Except ArtefactError String := do
  let lease ← (SessionLease.fromJson K lease).mapError .json
  let identity ← readIdentity K identity
  let renewed ← (lease.renew K now identity ttlSecs).mapError .lease
  return renewed.toJsonPretty K

/-! ## Abort receipts -/

/-- Reasons are given by their codes. -/
def parseReason (reasonCode : String) : Except ArtefactError AbortReason :=
  match reasonCode with
  | "user_cancelled" => .ok .userCancelled
  | "timeout" => .ok .timeout
  | "protocol_error" => .ok .protocolError
  | "network_error" => .ok .networkError
  | "resource_exhaustion" => .ok .resourceExhaustion
  | "policy_violation" => .ok .policyViolation
  | "unknown" => .ok .unknown
  | "custom" => .ok .custom
  | _ => .error (.cli (.message s!"unknown reason code: {reasonCode}"))

/-- Every reason is named by its code. -/
@[simp] theorem parseReason_code (r : AbortReason) : parseReason r.code = .ok r := by
  cases r <;> rfl

def parseTranscript : Option String → Except ArtefactError (Option TranscriptDigest)
  | none => .ok none
  | some hex => (fun b => some ⟨b⟩) <$> (parseBytes32 "transcript" hex).mapError .cli

/-- The text is taken whatever the reason is. -/
def cmdSessionAbort (K : Crates) (now : UInt64) (session identity reasonCode : String)
    (reasonText transcript : Option String) : Except ArtefactError String := do
  let identity ← readIdentity K identity
  let reason ← parseReason reasonCode
  let transcript ← parseTranscript transcript
  return (AbortReceipt.new K now identity session reason reasonText transcript).toJsonPretty K

/-- The transcript of a receipt cannot be asked for on the command line. -/
def cmdAbortVerify (K : Crates) (receipt : String) (expectIssuer forSession : Option String) :
    Except ArtefactError Unit := do
  let receipt ← (AbortReceipt.fromJson K receipt).mapError .json
  (receipt.verify K).mapError .abort
  checkKey K .abort (receipt.verifyIssuer K) expectIssuer
  checkSession .abort (receipt.verifyForSession K) forSession

/-! ## Attestations -/

/-- Roots and digest are hexadecimal texts here. -/
structure AttestSignArgs where
  rootA : String
  rootB : String
  mode : String
  intersectionRoot : Option String
  cardinality : Option UInt64
  session : Option String
  transcript : Option String
  identity : String
  ttlSecs : UInt64

/-- The attestation that the arguments ask for; the other mode's argument is ignored. -/
def attestation (K : Crates) (now : UInt64) (args : AttestSignArgs) (rootA rootB : Bytes 32)
    (identity : PartyIdentity) (transcript : Option TranscriptDigest) :
    Except ArtefactError OverlapAttestation :=
  match args.mode with
  | "intersection" =>
    match args.intersectionRoot with
    | none => .error (.cli (.message "intersection mode requires --intersection-root"))
    | some hex => do
      let root ← (parseBytes32 "intersection_root" hex).mapError .cli
      return .signIntersection K now identity rootA rootB root args.session transcript args.ttlSecs
  | "cardinality" =>
    match args.cardinality with
    | none => .error (.cli (.message "cardinality mode requires --cardinality"))
    | some count =>
      .ok (.signCardinality K now identity rootA rootB count args.session transcript args.ttlSecs)
  | mode => .error (.cli (.message s!"unknown mode: {mode}"))

/-- The roots are parsed before the identity is read. -/
def cmdAttestSign (K : Crates) (now : UInt64) (args : AttestSignArgs) :
    Except ArtefactError String := do
  let rootA ← (parseBytes32 "root_a" args.rootA).mapError .cli
  let rootB ← (parseBytes32 "root_b" args.rootB).mapError .cli
  let identity ← readIdentity K args.identity
  let transcript ← parseTranscript args.transcript
  return (← attestation K now args rootA rootB identity transcript).toJsonPretty K

/-- A co-signature that is not there is only warned about. -/
def checkCoSignature (K : Crates) (a : OverlapAttestation) (verifyCoSignature : Bool) :
    Except ArtefactError Unit :=
  if verifyCoSignature && a.isDualSigned then (a.verifyCoSignature K).mapError .attestation
  else .ok ()

/-- The attestation is verified first; what is expected of it is compared afterwards. -/
def cmdAttestVerify (K : Crates) (now : UInt64) (attestation : String)
    (expectIssuer expectSession : Option String) (verifyCoSignature : Bool) :
    Except ArtefactError Unit := do
  let a ← (OverlapAttestation.fromJson K attestation).mapError .json
  (a.verify K now).mapError .attestation
  checkKey K .attestation a.verifyIssuer expectIssuer
  checkSession .attestation a.verifySession expectSession
  checkCoSignature K a verifyCoSignature

end Cli

end BlindOverlap
