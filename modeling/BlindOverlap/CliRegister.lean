import BlindOverlap.CliArtefacts
import BlindOverlap.Lib.Machine
import BlindOverlap.PeerBookWrites

/-!
# Artefact files and their register

The commands that make artefacts write them to files, and the commands that verify or renew
them read those files. The files are compared with a register that knows what was made for
whom and for which time, and nothing of texts and signatures.
-/
namespace BlindOverlap

namespace Cli

/-! ## Commands on files -/

inductive ArtefactCommand where
  | inviteCreate (now : UInt64) (session identity : String) (peer : Option String) (mode : String)
      (ttlSecs : UInt64) (output : Option String)
  | inviteVerify (t : InviteReadings) (ticket : String)
      (expectIssuer forPeer forSession forMode : Option String)
  | leaseIssue (now : UInt64) (session identity peer : String) (ttlSecs : UInt64)
      (output : Option String)
  | leaseVerify (t : LeaseReadings) (lease : String)
      (expectIssuer forPeer forSession : Option String)
  | leaseRenew (now : UInt64) (lease identity : String) (ttlSecs : UInt64)
      (output : Option String)
  | sessionAbort (now : UInt64) (session identity reasonCode : String)
      (reasonText transcript : Option String) (output : Option String)
  | abortVerify (receipt : String) (expectIssuer forSession : Option String)
  | attestSign (now : UInt64) (args : AttestSignArgs) (output : Option String)
  | attestVerify (now : UInt64) (attestation : String) (expectIssuer expectSession : Option String)
      (verifyCoSignature : Bool)

/-- A command that writes its answer. -/
def writes (files : Files) (output : Option String) :
    Except ArtefactError String → Step Files (Except ArtefactError Unit)
  | .error e => ⟨.error e, files⟩
  | .ok text => ⟨.ok (), written files output text⟩

/-- A command that starts with reading a file. -/
def reads (files : Files) (path : String) {α : Type} (command : String → Except ArtefactError α) :
    Except ArtefactError α :=
  match files path with
  | none => .error .io
  | some contents => command contents

/-- What a command does to the files, all writes succeeding. -/
def artefactCommands (K : Crates) : Machine Files ArtefactCommand (Except ArtefactError Unit)
  | files, .inviteCreate now session identity peer mode ttlSecs output =>
    writes files output (cmdInviteCreate K now session identity peer mode ttlSecs)
  | files, .inviteVerify t ticket expectIssuer forPeer forSession forMode =>
    ⟨reads files ticket (fun contents =>
      (cmdInviteVerify K t contents expectIssuer forPeer forSession forMode).mapError .verify),
      files⟩
  | files, .leaseIssue now session identity peer ttlSecs output =>
    writes files output (cmdLeaseIssue K now session identity peer ttlSecs)
  | files, .leaseVerify t lease expectIssuer forPeer forSession =>
    ⟨reads files lease (fun contents =>
      cmdLeaseVerify K t contents expectIssuer forPeer forSession), files⟩
  | files, .leaseRenew now lease identity ttlSecs output =>
    writes files output (reads files lease (fun contents =>
      cmdLeaseRenew K now contents identity ttlSecs))
  | files, .sessionAbort now session identity reasonCode reasonText transcript output =>
    writes files output (cmdSessionAbort K now session identity reasonCode reasonText transcript)
  | files, .abortVerify receipt expectIssuer forSession =>
    ⟨reads files receipt (fun contents => cmdAbortVerify K contents expectIssuer forSession), files⟩
  | files, .attestSign now args output => writes files output (cmdAttestSign K now args)
  | files, .attestVerify now attestation expectIssuer expectSession verifyCoSignature =>
    ⟨reads files attestation (fun contents =>
      cmdAttestVerify K now contents expectIssuer expectSession verifyCoSignature), files⟩

/-! ## The register -/

/-- The time in which an artefact is good, its ends included. -/
structure Window where
  issuedAt : UInt64
  expiresAt : UInt64

def Window.Contains (w : Window) (now : UInt64) : Prop := w.issuedAt ≤ now ∧ now ≤ w.expiresAt

structure Invitation where
  sessionId : String
  issuer : PublicIdentity
  peer : Option PublicIdentity
  mode : AllowedMode
  window : Window

/-- What there is to know about a lease, its renewals included. -/
structure Tenure where
  sessionId : String
  issuer : PublicIdentity
  peer : PublicIdentity
  window : Window
  renewals : ℕ

structure Abort where
  sessionId : String
  issuer : PublicIdentity
  reason : AbortReason
  reasonText : Option String
  transcript : Option TranscriptDigest

/-- An attestation is good until it expires, also before it was made. -/
structure Testimony where
  sessionId : Option String
  issuer : PublicIdentity
  mode : AttestationMode
  rootA : Bytes 32
  rootB : Bytes 32
  intersectionRoot : Option (Bytes 32)
  cardinality : Option UInt64
  transcript : Option TranscriptDigest
  expiresAt : UInt64

inductive Entry where
  | invitation (i : Invitation)
  | tenure (t : Tenure)
  | abort (a : Abort)
  | testimony (t : Testimony)

/-- A ticket for a named peer reads like a first lease. -/
def Entry.tenure? : Entry → Option Tenure
  | .tenure t => some t
  | .invitation i => i.peer.map (fun peer => ⟨i.sessionId, i.issuer, peer, i.window, 0⟩)
  | _ => none

def Tenure.renewed (t : Tenure) (now ttlSecs : UInt64) : Tenure :=
  { t with window := ⟨now, now + ttlSecs⟩, renewals := t.renewals + 1 }

/-- The invitation is what a verification expects, at all of its readings. -/
def Invitation.Meets (K : Crates) (r : InviteReadings)
    (expectIssuer forPeer forSession forMode : Option String) (i : Invitation) : Prop :=
  (∀ now ∈ r.taken expectIssuer forPeer forSession, i.window.Contains now) ∧
    (∀ hex ∈ expectIssuer, PublicIdentity.fromHex K hex = .ok i.issuer) ∧
    (∀ hex ∈ forPeer, ∃ peer, PublicIdentity.fromHex K hex = .ok peer ∧ ∀ p ∈ i.peer, p = peer) ∧
    (∀ session ∈ forSession, i.sessionId = session) ∧
    ∀ _ ∈ forSession, ∃ mode, verificationMode forMode = .ok mode ∧ i.mode.permits mode = true

structure Tenure.Meets (K : Crates) (r : LeaseReadings)
    (expectIssuer forPeer forSession : Option String) (t : Tenure) : Prop where
  verified : t.window.Contains r.verifiedAt
  issuer : ∀ hex ∈ expectIssuer, t.window.Contains r.issuerAt ∧
    PublicIdentity.fromHex K hex = .ok t.issuer
  peer : ∀ hex ∈ forPeer, t.window.Contains r.peerAt ∧ PublicIdentity.fromHex K hex = .ok t.peer
  session : ∀ session ∈ forSession, t.window.Contains r.sessionAt ∧ t.sessionId = session

def Abort.Meets (K : Crates) (expectIssuer forSession : Option String) (a : Abort) : Prop :=
  (∀ hex ∈ expectIssuer, PublicIdentity.fromHex K hex = .ok a.issuer) ∧
    ∀ session ∈ forSession, a.sessionId = session

def Testimony.Meets (K : Crates) (now : UInt64) (expectIssuer expectSession : Option String)
    (t : Testimony) : Prop :=
  now < t.expiresAt ∧ (∀ hex ∈ expectIssuer, PublicIdentity.fromHex K hex = .ok t.issuer) ∧
    ∀ session ∈ expectSession, t.sessionId = some session

abbrev Register := String → Option Entry

/-- What the register says of a command: whether it succeeds, unless that is for a signature
to decide. -/
abbrev Promise := Option Prop

/-- A command that makes an entry, or fails. -/
def enters (register : Register) (output : Option String) : Option Entry → Step Register Promise
  | none => ⟨some False, register⟩
  | some entry => ⟨some True, written register output entry⟩

section Entries
variable (K : Crates) (now : UInt64)

def newInvitation (session identity : String) (peer : Option String) (mode : String)
    (ttlSecs : UInt64) : Option Entry := do
  let identity ← (readIdentity K identity).toOption
  let peer ← (parsePeerOption K peer).toOption
  let mode ← (parseAllowedMode mode).toOption
  return .invitation ⟨session, identity.publicIdentity K, peer, mode, ⟨now, now + ttlSecs⟩⟩

def newTenure (session identity peer : String) (ttlSecs : UInt64) : Option Entry := do
  let identity ← (readIdentity K identity).toOption
  let peer ← (parsePeer K peer).toOption
  return .tenure ⟨session, identity.publicIdentity K, peer, ⟨now, now + ttlSecs⟩, 0⟩

/-- Only the issuer renews. -/
def renewal (identity : String) (ttlSecs : UInt64) (t : Tenure) : Option Entry := do
  let identity ← (readIdentity K identity).toOption
  if t.issuer = identity.publicIdentity K then some (.tenure (t.renewed now ttlSecs)) else none

def newAbort (session identity reasonCode : String) (reasonText transcript : Option String) :
    Option Entry := do
  let identity ← (readIdentity K identity).toOption
  let reason ← (parseReason reasonCode).toOption
  let transcript ← (parseTranscript transcript).toOption
  return .abort ⟨session, identity.publicIdentity K, reason, reasonText, transcript⟩

/-- The mode of an attestation, with the root or the count that it is about. -/
def attested (args : AttestSignArgs) :
    Option (AttestationMode × Option (Bytes 32) × Option UInt64) :=
  if args.mode = "intersection" then do
    let root ← (parseBytes32 "intersection_root" (← args.intersectionRoot)).toOption
    return (.intersection, some root, none)
  else if args.mode = "cardinality" then
    args.cardinality.map (fun count => (.cardinality, none, some count))
  else none

def newTestimony (args : AttestSignArgs) : Option Entry := do
  let rootA ← (parseBytes32 "root_a" args.rootA).toOption
  let rootB ← (parseBytes32 "root_b" args.rootB).toOption
  let identity ← (readIdentity K args.identity).toOption
  let transcript ← (parseTranscript args.transcript).toOption
  let (mode, root, count) ← attested args
  return .testimony ⟨args.session, identity.publicIdentity K, mode, rootA, rootB, root, count,
    transcript, saturatingAdd now args.ttlSecs⟩

end Entries

/-- What a command is promised, and does to the register. A ticket that names a peer reads like
a lease, which leaves its verification as a lease to the signature. -/
def artefactRegister (K : Crates) : Machine Register ArtefactCommand Promise
  | register, .inviteCreate now session identity peer mode ttlSecs output =>
    enters register output (newInvitation K now session identity peer mode ttlSecs)
  | register, .inviteVerify t ticket expectIssuer forPeer forSession forMode =>
    ⟨some (∃ i, register ticket = some (.invitation i) ∧
      i.Meets K t expectIssuer forPeer forSession forMode), register⟩
  | register, .leaseIssue now session identity peer ttlSecs output =>
    enters register output (newTenure K now session identity peer ttlSecs)
  | register, .leaseVerify t lease expectIssuer forPeer forSession =>
    match register lease with
    | some (.invitation _) => ⟨none, register⟩
    | entry => ⟨some (∃ tenure, entry = some (.tenure tenure) ∧
        tenure.Meets K t expectIssuer forPeer forSession), register⟩
  | register, .leaseRenew now lease identity ttlSecs output =>
    enters register output (((register lease).bind Entry.tenure?).bind
      (renewal K now identity ttlSecs))
  | register, .sessionAbort _ session identity reasonCode reasonText transcript output =>
    enters register output (newAbort K session identity reasonCode reasonText transcript)
  | register, .abortVerify receipt expectIssuer forSession =>
    ⟨some (∃ a, register receipt = some (.abort a) ∧ a.Meets K expectIssuer forSession), register⟩
  | register, .attestSign now args output => enters register output (newTestimony K now args)
  | register, .attestVerify now attestation expectIssuer expectSession _ =>
    ⟨some (∃ t, register attestation = some (.testimony t) ∧
      t.Meets K now expectIssuer expectSession), register⟩

/-! ## Files that hold what the register says -/

/-- A text that a command wrote, and its entry. -/
inductive Stored (K : Crates) : String → Entry → Prop where
  | invitation (t : InviteTicket) (hdecodes : ∀ p ∈ t.identities, p.Decodes K)
      (hsigned : t.issuerPubkey.verify K t.payload t.signature = .ok ()) :
      Stored K (t.toJsonPretty K) (.invitation ⟨t.sessionId, t.issuerPubkey, t.peerPubkey,
        t.allowedMode, ⟨t.issuedAt, t.expiresAt⟩⟩)
  | tenure (l : SessionLease) (renewals : ℕ) (hdecodes : ∀ p ∈ l.identities, p.Decodes K)
      (hsigned : l.issuerPubkey.verify K l.payload l.signature = .ok ())
      (hcount : l.renewCount = UInt32.ofNat renewals)
      (hparent : l.parentLeaseId.isSome = true ↔ 0 < renewals) :
      Stored K (l.toJsonPretty K) (.tenure ⟨l.sessionId, l.issuerPubkey, l.peerPubkey,
        ⟨l.issuedAt, l.expiresAt⟩, renewals⟩)
  | abort (r : AbortReceipt) (hdecodes : ∀ p ∈ r.identities, p.Decodes K)
      (hsigned : r.verify K = .ok ()) :
      Stored K (r.toJsonPretty K) (.abort ⟨r.sessionId, r.issuerPubkey, r.reason, r.reasonText,
        r.transcriptDigest⟩)
  | testimony (a : OverlapAttestation) (hdecodes : ∀ p ∈ a.identities, p.Decodes K)
      (hsigned : OverlapAttestation.verifyWithDomain K a.issuerPubkey (a.signingBody K)
        a.signature = true) (hsingle : a.isDualSigned = false) :
      Stored K (a.toJsonPretty K) (.testimony ⟨a.sessionId, a.issuerPubkey, a.mode, a.setRootA,
        a.setRootB, a.intersectionRoot, a.cardinality, a.transcriptDigest, a.expiresAt⟩)

/-- A command's answer and the entry it makes. -/
def Entered (K : Crates) : Except ArtefactError String → Option Entry → Prop
  | .ok text, some entry => Stored K text entry
  | .error _, none => True
  | _, _ => False

section Creation
variable {K : Crates} {α : Type}

theorem Entered.bind {x : Except ArtefactError α} {f : α → Except ArtefactError String}
    {g : α → Option Entry} (h : ∀ a, x = .ok a → Entered K (f a) (g a)) :
    Entered K (x >>= f) (x.toOption.bind g) := by
  cases x with
  | error e => trivial
  | ok a => exact h a rfl

theorem Entered.ok {text : String} {entry : Entry} (h : Stored K text entry) :
    Entered K (.ok text) (some entry) := h

theorem parsePeerOption_decodes {peer : Option String} {o : Option PublicIdentity}
    (h : parsePeerOption K peer = .ok o) : ∀ p ∈ o, p.Decodes K := by
  cases peer with
  | none =>
    obtain rfl := Except.ok.inj h
    simp
  | some hex =>
    cases hp : parsePeer K hex with
    | error e => simp [parsePeerOption, hp] at h
    | ok p =>
      have ho : o = some p := by simpa [parsePeerOption, hp, eq_comm] using h
      intro q hq
      rw [ho] at hq
      rw [← Option.some.inj hq]
      exact PublicIdentity.decodes_of_fromHex (parsePeer_eq_ok_iff.mp hp)

theorem entered_invitation (hproper : ∀ p : PartyIdentity, p.Proper K) (now : UInt64)
    (session identity : String) (peer : Option String) (mode : String) (ttlSecs : UInt64) :
    Entered K (cmdInviteCreate K now session identity peer mode ttlSecs)
      (newInvitation K now session identity peer mode ttlSecs) := by
  refine .bind fun issuer _ => .bind fun peer hpeer => .bind fun mode _ => .ok ?_
  refine .invitation (.issue K now issuer session peer mode ttlSecs) ?_
    ((hproper issuer).verify_sign _)
  intro p hp
  rcases List.mem_cons.mp hp with rfl | hp
  · exact (hproper issuer).decodes
  · exact parsePeerOption_decodes hpeer p (Option.mem_toList.mp hp)

theorem entered_tenure (hproper : ∀ p : PartyIdentity, p.Proper K) (now : UInt64)
    (session identity peer : String) (ttlSecs : UInt64) :
    Entered K (cmdLeaseIssue K now session identity peer ttlSecs)
      (newTenure K now session identity peer ttlSecs) := by
  refine .bind fun issuer _ => .bind fun peer hpeer => .ok ?_
  refine .tenure (.issue K now issuer session peer ttlSecs) 0 ?_ ((hproper issuer).verify_sign _)
    rfl (by simp [SessionLease.issue])
  intro p hp
  rcases List.mem_cons.mp hp with rfl | hp
  · exact (hproper issuer).decodes
  · rw [List.mem_singleton.mp hp]
    exact PublicIdentity.decodes_of_fromHex (parsePeer_eq_ok_iff.mp hpeer)

theorem entered_abort (hproper : ∀ p : PartyIdentity, p.Proper K) (now : UInt64)
    (session identity reasonCode : String) (reasonText transcript : Option String) :
    Entered K (cmdSessionAbort K now session identity reasonCode reasonText transcript)
      (newAbort K session identity reasonCode reasonText transcript) := by
  refine .bind fun issuer _ => .bind fun reason _ => .bind fun digest _ => .ok ?_
  refine .abort (.new K now issuer session reason reasonText digest) ?_
    (AbortReceipt.verify_new (hproper issuer) ..)
  intro p hp
  rw [List.mem_singleton.mp hp]
  exact (hproper issuer).decodes

/-- What the attestation commands agree on, given the parts that were read. -/
theorem entered_attestation {issuer : PartyIdentity} (hproper : issuer.Proper K) (now : UInt64)
    (args : AttestSignArgs) (rootA rootB : Bytes 32) (transcript : Option TranscriptDigest) :
    Entered K ((attestation K now args rootA rootB issuer transcript).bind
        (fun a => .ok (a.toJsonPretty K)))
      ((attested args).bind (fun o => some (.testimony ⟨args.session, issuer.publicIdentity K, o.1,
        rootA, rootB, o.2.1, o.2.2, transcript, saturatingAdd now args.ttlSecs⟩))) := by
  have hissuer : ∀ p ∈ [issuer.publicIdentity K], p.Decodes K := by
    intro p hp
    rw [List.mem_singleton.mp hp]
    exact hproper.decodes
  by_cases hintersection : args.mode = "intersection"
  · rw [attested, if_pos hintersection, attestation, hintersection]
    cases args.intersectionRoot with
    | none => trivial
    | some hex =>
      cases hroot : parseBytes32 "intersection_root" hex with
      | error e => simp [hroot, Entered, Except.bind, Except.toOption]
      | ok root =>
        simp only [hroot, Except.mapError_ok, Except.ok_bind, Option.bind_eq_bind,
          Option.bind_some, Except.toOption]
        exact Stored.testimony (.signIntersection K now issuer rootA rootB root args.session
          transcript args.ttlSecs) hissuer
          (OverlapAttestation.verifyWithDomain_eq_true_iff.mpr (hproper.verify_sign _)) rfl
  · by_cases hcardinality : args.mode = "cardinality"
    · rw [attested, if_neg hintersection, if_pos hcardinality, attestation, hcardinality]
      cases args.cardinality with
      | none => trivial
      | some count =>
        exact Stored.testimony (.signCardinality K now issuer rootA rootB count args.session
          transcript args.ttlSecs) hissuer
          (OverlapAttestation.verifyWithDomain_eq_true_iff.mpr (hproper.verify_sign _)) rfl
    · rw [attested, if_neg hintersection, if_neg hcardinality, attestation]
      split
      · contradiction
      · contradiction
      · trivial

theorem entered_testimony (hproper : ∀ p : PartyIdentity, p.Proper K) (now : UInt64)
    (args : AttestSignArgs) : Entered K (cmdAttestSign K now args) (newTestimony K now args) := by
  have hroot : ∀ name hex, ((parseBytes32 name hex).mapError ArtefactError.cli).toOption =
      (parseBytes32 name hex).toOption := by
    intro name hex
    cases parseBytes32 name hex <;> rfl
  unfold cmdAttestSign newTestimony
  rw [← hroot, ← hroot]
  exact .bind fun rootA _ => .bind fun rootB _ => .bind fun issuer _ => .bind fun digest _ =>
    entered_attestation (hproper issuer) now args rootA rootB digest

end Creation

/-! ## Reading files -/

section Reading
variable {K : Crates}

/-- A text that was written for a value is read as what its coding is read as. -/
theorem fromStr_pretty_eq_ok_iff (hK : K.ParsesPretty) {α : Type}
    {read : Json → Except DecodeError α} {j : Json}
    (hj : JsonText.Storable Crates.nestingLimit j) {a : α} :
    K.fromStr read (K.jsonToStringPretty j) = .ok a ↔ read j = .ok a := by
  rw [Crates.fromStr_pretty hK read hj]
  cases read j with
  | error e => simp
  | ok b => simp

theorem Stored.reads_ticket (hK : K.ParsesPretty) {text : String} {entry : Entry}
    (h : Stored K text entry) {t : InviteTicket} (ht : InviteTicket.fromJson K text = .ok t) :
    t.issuerPubkey.verify K t.payload t.signature = .ok () ∧
      entry = .invitation ⟨t.sessionId, t.issuerPubkey, t.peerPubkey, t.allowedMode,
        ⟨t.issuedAt, t.expiresAt⟩⟩ := by
  cases h with
  | invitation u hdecodes hsigned =>
    have hu := fromStr_pretty_of_keeps hK (InviteTicket.keeps hdecodes)
    obtain rfl := Except.ok.inj (hu.symm.trans ht)
    exact ⟨hsigned, rfl⟩
  | tenure l renewals hdecodes =>
    exact absurd ((fromStr_pretty_eq_ok_iff hK (SessionLease.keeps hdecodes).storable).mp ht)
      (InviteTicket.deserialize_ne_ok l.fields (show SessionLease.fieldNames.Nodup by decide)
        (show "allowed_mode" ∉ SessionLease.fieldNames by decide) t)
  | abort r hdecodes =>
    exact absurd ((fromStr_pretty_eq_ok_iff hK (AbortReceipt.keeps hdecodes).storable).mp ht)
      (InviteTicket.deserialize_ne_ok r.fields (show AbortReceipt.fieldNames.Nodup by decide)
        (show "allowed_mode" ∉ AbortReceipt.fieldNames by decide) t)
  | testimony a hdecodes =>
    exact absurd ((fromStr_pretty_eq_ok_iff hK (OverlapAttestation.keeps hdecodes).storable).mp ht)
      (InviteTicket.deserialize_ne_ok a.fields (show OverlapAttestation.fieldNames.Nodup by decide)
        (show "allowed_mode" ∉ OverlapAttestation.fieldNames by decide) t)

theorem Stored.reads_lease (hK : K.ParsesPretty) {text : String} {entry : Entry}
    (h : Stored K text entry) {l : SessionLease} (hl : SessionLease.fromJson K text = .ok l) :
    (∃ t, entry = .invitation t) ∨
      l.issuerPubkey.verify K l.payload l.signature = .ok () ∧ ∃ renewals,
        entry = .tenure ⟨l.sessionId, l.issuerPubkey, l.peerPubkey, ⟨l.issuedAt, l.expiresAt⟩,
          renewals⟩ := by
  cases h with
  | invitation u => exact .inl ⟨_, rfl⟩
  | tenure m renewals hdecodes hsigned =>
    have hm := fromStr_pretty_of_keeps hK (SessionLease.keeps hdecodes)
    obtain rfl := Except.ok.inj (hm.symm.trans hl)
    exact .inr ⟨hsigned, renewals, rfl⟩
  | abort r hdecodes =>
    exact absurd ((fromStr_pretty_eq_ok_iff hK (AbortReceipt.keeps hdecodes).storable).mp hl)
      (SessionLease.deserialize_ne_ok r.fields (show AbortReceipt.fieldNames.Nodup by decide)
        (show "peer_pubkey" ∉ AbortReceipt.fieldNames by decide) l)
  | testimony a hdecodes =>
    exact absurd ((fromStr_pretty_eq_ok_iff hK (OverlapAttestation.keeps hdecodes).storable).mp hl)
      (SessionLease.deserialize_ne_ok a.fields (show OverlapAttestation.fieldNames.Nodup by decide)
        (show "peer_pubkey" ∉ OverlapAttestation.fieldNames by decide) l)

theorem Stored.reads_abort (hK : K.ParsesPretty) {text : String} {entry : Entry}
    (h : Stored K text entry) {r : AbortReceipt} (hr : AbortReceipt.fromJson K text = .ok r) :
    r.verify K = .ok () ∧ entry = .abort ⟨r.sessionId, r.issuerPubkey, r.reason, r.reasonText,
      r.transcriptDigest⟩ := by
  cases h with
  | invitation t hdecodes =>
    exact absurd ((fromStr_pretty_eq_ok_iff hK (InviteTicket.keeps hdecodes).storable).mp hr)
      (AbortReceipt.deserialize_ne_ok t.fields (show InviteTicket.fieldNames.Nodup by decide)
        (show "reason" ∉ InviteTicket.fieldNames by decide) r)
  | tenure l renewals hdecodes =>
    exact absurd ((fromStr_pretty_eq_ok_iff hK (SessionLease.keeps hdecodes).storable).mp hr)
      (AbortReceipt.deserialize_ne_ok l.fields (show SessionLease.fieldNames.Nodup by decide)
        (show "reason" ∉ SessionLease.fieldNames by decide) r)
  | abort u hdecodes hsigned =>
    have hu := fromStr_pretty_of_keeps hK (AbortReceipt.keeps hdecodes)
    obtain rfl := Except.ok.inj (hu.symm.trans hr)
    exact ⟨hsigned, rfl⟩
  | testimony a hdecodes =>
    exact absurd ((fromStr_pretty_eq_ok_iff hK (OverlapAttestation.keeps hdecodes).storable).mp hr)
      (AbortReceipt.deserialize_ne_ok a.fields (show OverlapAttestation.fieldNames.Nodup by decide)
        (show "reason" ∉ OverlapAttestation.fieldNames by decide) r)

theorem Stored.reads_attestation (hK : K.ParsesPretty) {text : String} {entry : Entry}
    (h : Stored K text entry) {a : OverlapAttestation}
    (ha : OverlapAttestation.fromJson K text = .ok a) :
    OverlapAttestation.verifyWithDomain K a.issuerPubkey (a.signingBody K) a.signature = true ∧
      a.isDualSigned = false ∧ entry = .testimony ⟨a.sessionId, a.issuerPubkey, a.mode, a.setRootA,
        a.setRootB, a.intersectionRoot, a.cardinality, a.transcriptDigest, a.expiresAt⟩ := by
  cases h with
  | invitation t hdecodes =>
    exact absurd ((fromStr_pretty_eq_ok_iff hK (InviteTicket.keeps hdecodes).storable).mp ha)
      (OverlapAttestation.deserialize_ne_ok t.fields (show InviteTicket.fieldNames.Nodup by decide)
        (show "set_root_a" ∉ InviteTicket.fieldNames by decide) a)
  | tenure l renewals hdecodes =>
    exact absurd ((fromStr_pretty_eq_ok_iff hK (SessionLease.keeps hdecodes).storable).mp ha)
      (OverlapAttestation.deserialize_ne_ok l.fields (show SessionLease.fieldNames.Nodup by decide)
        (show "set_root_a" ∉ SessionLease.fieldNames by decide) a)
  | abort r hdecodes =>
    exact absurd ((fromStr_pretty_eq_ok_iff hK (AbortReceipt.keeps hdecodes).storable).mp ha)
      (OverlapAttestation.deserialize_ne_ok r.fields (show AbortReceipt.fieldNames.Nodup by decide)
        (show "set_root_a" ∉ AbortReceipt.fieldNames by decide) a)
  | testimony b hdecodes hsigned hsingle =>
    have hb := fromStr_pretty_of_keeps hK (OverlapAttestation.keeps hdecodes)
    obtain rfl := Except.ok.inj (hb.symm.trans ha)
    exact ⟨hsigned, hsingle, rfl⟩

end Reading

/-! ## Verification -/

section Verification
variable {K : Crates} {text : String} {entry : Entry}

theorem Stored.inviteVerify_iff (hK : K.ParsesPretty) (h : Stored K text entry)
    (t : InviteReadings) (expectIssuer forPeer forSession forMode : Option String) :
    cmdInviteVerify K t text expectIssuer forPeer forSession forMode = .ok () ↔
      ∃ i, entry = .invitation i ∧ i.Meets K t expectIssuer forPeer forSession forMode := by
  rw [cmdInviteVerify_eq_ok_iff]
  constructor
  · rintro ⟨u, hu, hverified, hrest⟩
    obtain ⟨-, rfl⟩ := h.reads_ticket hK hu
    exact ⟨_, rfl, fun now hnow => (InviteTicket.verify_eq_ok_iff.mp (hverified now hnow)).2, hrest⟩
  · rintro ⟨i, rfl, hwindow, hrest⟩
    cases h with
    | invitation u hdecodes hsigned =>
      exact ⟨u, fromStr_pretty_of_keeps hK (InviteTicket.keeps hdecodes), fun now hnow =>
          InviteTicket.verify_eq_ok_iff.mpr ⟨hsigned, hwindow now hnow⟩, hrest⟩

theorem cmdLeaseVerify_eq_ok_iff {t : LeaseReadings}
    {expectIssuer forPeer forSession : Option String} :
    cmdLeaseVerify K t text expectIssuer forPeer forSession = .ok () ↔
      ∃ l, SessionLease.fromJson K text = .ok l ∧ l.verify K t.verifiedAt = .ok () ∧
        (∀ hex ∈ expectIssuer, l.verify K t.issuerAt = .ok () ∧
          PublicIdentity.fromHex K hex = .ok l.issuerPubkey) ∧
        (∀ hex ∈ forPeer, l.verify K t.peerAt = .ok () ∧
          PublicIdentity.fromHex K hex = .ok l.peerPubkey) ∧
        ∀ session ∈ forSession, l.verify K t.sessionAt = .ok () ∧ l.sessionId = session := by
  unfold cmdLeaseVerify
  rw [Except.bind_eq_ok_iff]
  refine exists_congr fun l => ?_
  rw [Except.bind_unit_eq_ok_iff, Except.bind_unit_eq_ok_iff, Except.bind_unit_eq_ok_iff,
    Except.mapError_eq_ok_iff, Except.mapError_eq_ok_iff,
    checkKey_compare_iff (fun _ => SessionLease.verifyIssuer_eq_ok_iff),
    checkKey_compare_iff (fun _ => SessionLease.verifyForPeer_eq_ok_iff), checkSession_eq_ok_iff]
  simp only [SessionLease.verifyForSession_eq_ok_iff]

/-- On a ticket the command is left to the signature. -/
theorem Stored.leaseVerify_iff (hK : K.ParsesPretty) (h : Stored K text entry)
    (hentry : ∀ i, entry ≠ .invitation i) (t : LeaseReadings)
    (expectIssuer forPeer forSession : Option String) :
    cmdLeaseVerify K t text expectIssuer forPeer forSession = .ok () ↔
      ∃ tenure, entry = .tenure tenure ∧ tenure.Meets K t expectIssuer forPeer forSession := by
  rw [cmdLeaseVerify_eq_ok_iff]
  constructor
  · rintro ⟨l, hl, hverified, hissuer, hpeer, hsession⟩
    obtain ⟨i, hi⟩ | ⟨-, renewals, rfl⟩ := h.reads_lease hK hl
    · exact absurd hi (hentry i)
    · simp only [SessionLease.verify_eq_ok_iff] at hverified hissuer hpeer hsession
      exact ⟨_, rfl, hverified.2, fun hex hh => ⟨(hissuer hex hh).1.2, (hissuer hex hh).2⟩,
        fun hex hh => ⟨(hpeer hex hh).1.2, (hpeer hex hh).2⟩,
        fun s hs => ⟨(hsession s hs).1.2, (hsession s hs).2⟩⟩
  · rintro ⟨tenure, rfl, hmeets⟩
    cases h with
    | tenure l renewals hdecodes hsigned =>
      have hverify : ∀ now, l.issuedAt ≤ now ∧ now ≤ l.expiresAt → l.verify K now = .ok () :=
        fun now hnow => SessionLease.verify_eq_ok_iff.mpr ⟨hsigned, hnow⟩
      exact ⟨l, fromStr_pretty_of_keeps hK (SessionLease.keeps hdecodes), hverify _ hmeets.verified,
        fun hex hh => ⟨hverify _ (hmeets.issuer hex hh).1, (hmeets.issuer hex hh).2⟩,
        fun hex hh => ⟨hverify _ (hmeets.peer hex hh).1, (hmeets.peer hex hh).2⟩,
        fun s hs => ⟨hverify _ (hmeets.session s hs).1, (hmeets.session s hs).2⟩⟩

theorem cmdAbortVerify_eq_ok_iff {expectIssuer forSession : Option String} :
    cmdAbortVerify K text expectIssuer forSession = .ok () ↔
      ∃ r, AbortReceipt.fromJson K text = .ok r ∧ r.verify K = .ok () ∧
        (∀ hex ∈ expectIssuer, PublicIdentity.fromHex K hex = .ok r.issuerPubkey) ∧
        ∀ session ∈ forSession, r.sessionId = session := by
  unfold cmdAbortVerify
  rw [Except.bind_eq_ok_iff]
  refine exists_congr fun r => ?_
  rw [Except.bind_unit_eq_ok_iff, Except.bind_unit_eq_ok_iff, Except.mapError_eq_ok_iff,
    Except.mapError_eq_ok_iff, checkKey_compare_iff (fun _ => AbortReceipt.verifyIssuer_eq_ok_iff),
    checkSession_eq_ok_iff]
  simp only [AbortReceipt.verifyForSession_eq_ok_iff]
  refine and_congr_right fun _ => and_congr_right fun hverified => ?_
  simp only [hverified, true_and]

theorem Stored.abortVerify_iff (hK : K.ParsesPretty) (h : Stored K text entry)
    (expectIssuer forSession : Option String) :
    cmdAbortVerify K text expectIssuer forSession = .ok () ↔
      ∃ a, entry = .abort a ∧ a.Meets K expectIssuer forSession := by
  rw [cmdAbortVerify_eq_ok_iff]
  constructor
  · rintro ⟨r, hr, -, hissuer, hsession⟩
    obtain ⟨-, rfl⟩ := h.reads_abort hK hr
    exact ⟨_, rfl, hissuer, hsession⟩
  · rintro ⟨a, rfl, hissuer, hsession⟩
    cases h with
    | abort r hdecodes hsigned =>
      exact ⟨r, fromStr_pretty_of_keeps hK (AbortReceipt.keeps hdecodes), hsigned, hissuer, hsession⟩

theorem cmdAttestVerify_eq_ok_iff {now : UInt64} {expectIssuer expectSession : Option String}
    {verifyCoSignature : Bool} :
    cmdAttestVerify K now text expectIssuer expectSession verifyCoSignature = .ok () ↔
      ∃ a, OverlapAttestation.fromJson K text = .ok a ∧ a.verify K now = .ok () ∧
        (∀ hex ∈ expectIssuer, PublicIdentity.fromHex K hex = .ok a.issuerPubkey) ∧
        (∀ session ∈ expectSession, a.sessionId = some session) ∧
        (verifyCoSignature = true → a.isDualSigned = true → a.verifyCoSignature K = .ok ()) := by
  unfold cmdAttestVerify
  rw [Except.bind_eq_ok_iff]
  refine exists_congr fun a => ?_
  have hissuer : ∀ key, a.verifyIssuer key = .ok () ↔ True ∧ a.issuerPubkey = key := by
    intro key
    rw [OverlapAttestation.verifyIssuer, Except.ite_error_eq_ok_iff, not_not]
    simp
  have hco : checkCoSignature K a verifyCoSignature = .ok () ↔
      (verifyCoSignature = true → a.isDualSigned = true → a.verifyCoSignature K = .ok ()) := by
    unfold checkCoSignature
    cases verifyCoSignature <;> cases a.isDualSigned <;> simp
  rw [Except.bind_unit_eq_ok_iff, Except.bind_unit_eq_ok_iff, Except.bind_unit_eq_ok_iff,
    Except.mapError_eq_ok_iff, Except.mapError_eq_ok_iff, checkKey_compare_iff hissuer,
    checkSession_eq_ok_iff, hco]
  simp only [OverlapAttestation.verifySession_eq_ok_iff, true_and]

theorem Stored.attestVerify_iff (hK : K.ParsesPretty) (h : Stored K text entry) (now : UInt64)
    (expectIssuer expectSession : Option String) (verifyCoSignature : Bool) :
    cmdAttestVerify K now text expectIssuer expectSession verifyCoSignature = .ok () ↔
      ∃ t, entry = .testimony t ∧ t.Meets K now expectIssuer expectSession := by
  rw [cmdAttestVerify_eq_ok_iff]
  constructor
  · rintro ⟨a, ha, hverified, hissuer, hsession, -⟩
    obtain ⟨-, -, rfl⟩ := h.reads_attestation hK ha
    exact ⟨_, rfl, (OverlapAttestation.verify_eq_ok_iff.mp hverified).1, hissuer, hsession⟩
  · rintro ⟨t, rfl, hnow, hissuer, hsession⟩
    cases h with
    | testimony a hdecodes hsigned hsingle =>
      exact ⟨a, fromStr_pretty_of_keeps hK (OverlapAttestation.keeps hdecodes),
        OverlapAttestation.verify_eq_ok_iff.mpr ⟨hnow, hsigned⟩, hissuer, hsession,
        fun _ hdual => absurd hdual (by simp [hsingle])⟩

end Verification

/-! ## Renewal -/

section Renewal
variable {K : Crates} {text : String} {entry : Entry}

/-- What renewing a lease of a tenure enters. -/
theorem entered_renewed (hproper : ∀ p : PartyIdentity, p.Proper K) {l : SessionLease}
    {renewals : ℕ} (hdecodes : ∀ p ∈ l.identities, p.Decodes K)
    (hcount : l.renewCount = UInt32.ofNat renewals) (now : UInt64) (identity : String)
    (ttlSecs : UInt64) :
    Entered K (do
        let identity ← readIdentity K identity
        let renewed ← (l.renew K now identity ttlSecs).mapError .lease
        return renewed.toJsonPretty K)
      (renewal K now identity ttlSecs ⟨l.sessionId, l.issuerPubkey, l.peerPubkey,
        ⟨l.issuedAt, l.expiresAt⟩, renewals⟩) := by
  refine .bind fun issuer _ => ?_
  by_cases hissuer : l.issuerPubkey = issuer.publicIdentity K
  · have hrenew : l.renew K now issuer ttlSecs = .ok _ :=
      SessionLease.renew_eq_ok_iff.mpr ⟨hissuer, rfl⟩
    simp only [hrenew, Except.mapError_ok, Except.ok_bind, if_pos hissuer]
    refine Entered.ok (Stored.tenure _ (renewals + 1) hdecodes ?_ ?_ (by simp))
    · simp only [hissuer]
      exact (hproper issuer).verify_sign _
    · simp only [hcount, UInt32.ofNat_add]
      rfl
  · have hrenew : l.renew K now issuer ttlSecs = .error _ := if_pos hissuer
    simp only [hrenew, Except.mapError_error, Except.error_bind, if_neg hissuer]
    trivial

/-- Only a lease can be renewed, or a ticket that reads like one. -/
theorem Stored.entered_renewal (hK : K.ParsesPretty) (hproper : ∀ p : PartyIdentity, p.Proper K)
    (h : Stored K text entry) (now : UInt64) (identity : String) (ttlSecs : UInt64) :
    Entered K (cmdLeaseRenew K now text identity ttlSecs)
      (entry.tenure?.bind (renewal K now identity ttlSecs)) := by
  have hfails : (∀ l, SessionLease.fromJson K text ≠ .ok l) →
      Entered K (cmdLeaseRenew K now text identity ttlSecs) none := by
    intro hne
    cases hl : SessionLease.fromJson K text with
    | error e =>
      rw [cmdLeaseRenew, hl]
      trivial
    | ok l => exact absurd hl (hne l)
  have hforeign : (∀ i, entry ≠ .invitation i) → (∀ t, entry ≠ .tenure t) →
      ∀ l, SessionLease.fromJson K text ≠ .ok l := by
    intro hinvitation htenure l hl
    obtain ⟨i, hi⟩ | ⟨-, renewals, ht⟩ := h.reads_lease hK hl
    · exact hinvitation i hi
    · exact htenure _ ht
  cases h with
  | invitation t hdecodes =>
    have hread : ∀ l, SessionLease.fromJson K (t.toJsonPretty K) = .ok l ↔
        ∃ peer, t.peerPubkey = some peer ∧ t.asLease peer = l := fun l =>
      (fromStr_pretty_eq_ok_iff hK (InviteTicket.keeps hdecodes).storable).trans
        (SessionLease.deserialize_ticket_eq_ok_iff hdecodes l)
    cases hp : t.peerPubkey with
    | none =>
      refine hfails fun l hl => ?_
      obtain ⟨peer, hpeer, -⟩ := (hread l).mp hl
      simp [hp] at hpeer
    | some peer =>
      have hkeys : ∀ p ∈ (t.asLease peer).identities, p.Decodes K := by
        intro p hmem
        apply hdecodes
        simpa [SessionLease.identities, InviteTicket.identities, InviteTicket.asLease, hp]
          using hmem
      have hentered := entered_renewed hproper (l := t.asLease peer) hkeys rfl now identity ttlSecs
      rw [cmdLeaseRenew, (hread _).mpr ⟨peer, hp, rfl⟩]
      exact hentered
  | tenure l renewals hdecodes _ hcount =>
    have hread : SessionLease.fromJson K (l.toJsonPretty K) = .ok l :=
      fromStr_pretty_of_keeps hK (SessionLease.keeps hdecodes)
    rw [cmdLeaseRenew, hread]
    exact entered_renewed hproper hdecodes hcount now identity ttlSecs
  | abort r => exact hfails (hforeign (by simp) (by simp))
  | testimony a => exact hfails (hforeign (by simp) (by simp))

end Renewal

/-! ## Files against the register -/

/-- Every file holds the artefact of its entry. -/
def Kept (K : Crates) (files : Files) (register : Register) : Prop :=
  ∀ path, Option.Rel (Stored K) (files path) (register path)

/-- An answer is as promised. -/
def AsPromised (output : Except ArtefactError Unit) (promise : Promise) : Prop :=
  ∀ p ∈ promise, (output = .ok () ↔ p)

section Runs
variable {K : Crates} {files : Files} {register : Register}

theorem Kept.lookup (h : Kept K files register) (path : String) :
    (files path = none ∧ register path = none) ∨
      ∃ text entry, files path = some text ∧ register path = some entry ∧ Stored K text entry := by
  have hpath := h path
  generalize files path = file at hpath
  generalize register path = entry at hpath
  cases hpath with
  | none => exact .inl ⟨rfl, rfl⟩
  | some hstored => exact .inr ⟨_, _, rfl, rfl, hstored⟩

theorem Kept.written (h : Kept K files register) (output : Option String) {text : String}
    {entry : Entry} (hstored : Stored K text entry) :
    Kept K (written files output text) (written register output entry) := by
  intro path
  cases output with
  | none => exact h path
  | some target =>
    by_cases hpath : path = target
    · subst hpath
      simp only [Cli.written, Function.update_self]
      exact .some hstored
    · simp only [Cli.written, Function.update_of_ne hpath]
      exact h path

/-- What one command gives on files that the register keeps. -/
def Follows (K : Crates) (concrete : Step Files (Except ArtefactError Unit))
    (abstract : Step Register Promise) : Prop :=
  AsPromised concrete.output abstract.output ∧ Kept K concrete.next abstract.next

theorem Kept.writes (h : Kept K files register) (output : Option String)
    {x : Except ArtefactError String} {entry : Option Entry} (hx : Entered K x entry) :
    Follows K (writes files output x) (enters register output entry) := by
  cases x with
  | error e =>
    cases entry with
    | none => exact ⟨by simp [AsPromised, Cli.writes, enters], h⟩
    | some entry => exact hx.elim
  | ok text =>
    cases entry with
    | none => exact hx.elim
    | some entry => exact ⟨by simp [AsPromised, Cli.writes, enters], h.written output hx⟩

/-- A verification reads a file and changes nothing. -/
theorem Kept.verifies (h : Kept K files register) (path : String)
    {command : String → Except ArtefactError Unit} {α : Type} {make : α → Entry} {meets : α → Prop}
    (hiff : ∀ text entry, Stored K text entry → register path = some entry →
      (command text = .ok () ↔ ∃ a, entry = make a ∧ meets a)) :
    reads files path command = .ok () ↔ ∃ a, register path = some (make a) ∧ meets a := by
  obtain ⟨hfile, hentry⟩ | ⟨text, entry, hfile, hentry, hstored⟩ := h.lookup path
  · simp [reads, hfile, hentry]
  · simp only [reads, hfile, hentry, hiff text entry hstored hentry, Option.some.injEq]

theorem Kept.step (hK : K.ParsesPretty) (hproper : ∀ p : PartyIdentity, p.Proper K)
    (h : Kept K files register) (c : ArtefactCommand) :
    Follows K (artefactCommands K files c) (artefactRegister K register c) := by
  have hpromised : ∀ {output : Except ArtefactError Unit} {p : Prop}, (output = .ok () ↔ p) →
      AsPromised output (some p) := by
    intro output p hiff q hq
    rw [← Option.some.inj hq]
    exact hiff
  cases c with
  | inviteCreate now session identity peer mode ttlSecs output =>
    exact h.writes output (entered_invitation hproper now session identity peer mode ttlSecs)
  | inviteVerify t ticket expectIssuer forPeer forSession forMode =>
    refine ⟨hpromised (h.verifies ticket fun text entry hstored _ => ?_), h⟩
    rw [Except.mapError_eq_ok_iff]
    exact hstored.inviteVerify_iff hK t expectIssuer forPeer forSession forMode
  | leaseIssue now session identity peer ttlSecs output =>
    exact h.writes output (entered_tenure hproper now session identity peer ttlSecs)
  | leaseVerify t lease expectIssuer forPeer forSession =>
    by_cases hinvitation : ∃ i, register lease = some (.invitation i)
    · obtain ⟨i, hi⟩ := hinvitation
      have hregister : artefactRegister K register
          (.leaseVerify t lease expectIssuer forPeer forSession) = ⟨none, register⟩ := by
        simp only [artefactRegister, hi]
      rw [hregister]
      exact ⟨nofun, h⟩
    · have hregister : artefactRegister K register
          (.leaseVerify t lease expectIssuer forPeer forSession) =
          ⟨some (∃ tenure, register lease = some (.tenure tenure) ∧
            tenure.Meets K t expectIssuer forPeer forSession), register⟩ := by
        simp only [artefactRegister]
        split
        · next i hi => exact absurd ⟨i, hi⟩ hinvitation
        · rfl
      rw [hregister]
      refine ⟨hpromised (h.verifies lease fun text entry hstored hentry => ?_), h⟩
      refine hstored.leaseVerify_iff hK ?_ t expectIssuer forPeer forSession
      rintro i rfl
      exact hinvitation ⟨i, hentry⟩
  | leaseRenew now lease identity ttlSecs output =>
    refine h.writes output ?_
    obtain ⟨hfile, hentry⟩ | ⟨text, entry, hfile, hentry, hstored⟩ := h.lookup lease
    · simp [reads, hfile, hentry, Entered]
    · simp only [reads, hfile, hentry, Option.bind_some]
      exact hstored.entered_renewal hK hproper now identity ttlSecs
  | sessionAbort now session identity reasonCode reasonText transcript output =>
    exact h.writes output
      (entered_abort hproper now session identity reasonCode reasonText transcript)
  | abortVerify receipt expectIssuer forSession =>
    exact ⟨hpromised (h.verifies receipt fun text entry hstored _ =>
      hstored.abortVerify_iff hK expectIssuer forSession), h⟩
  | attestSign now args output => exact h.writes output (entered_testimony hproper now args)
  | attestVerify now attestation expectIssuer expectSession verifyCoSignature =>
    exact ⟨hpromised (h.verifies attestation fun text entry hstored _ =>
      hstored.attestVerify_iff hK now expectIssuer expectSession verifyCoSignature), h⟩

end Runs

/-- However tickets, leases, receipts and attestations are made, renewed, overwritten and
verified, every command succeeds exactly if the register allows it, and every file holds a
signed artefact of what the register has entered for it. -/
theorem artefact_files_keep_register {K : Crates} (hK : K.ParsesPretty)
    (hproper : ∀ p : PartyIdentity, p.Proper K) (commands : List ArtefactCommand) :
    List.Forall₂ AsPromised ((artefactCommands K).outputs (fun _ => none) commands)
        ((artefactRegister K).outputs (fun _ => none) commands) ∧
      Kept K ((artefactCommands K).final (fun _ => none) commands)
        ((artefactRegister K).final (fun _ => none) commands) := by
  have hstart : Kept K (fun _ => none) (fun _ => none) := fun _ => .none
  exact Machine.forall₂_outputs_of_refinement (R := Kept K) (artefactCommands K)
    (artefactRegister K) (fun _ _ c _ h => (Kept.step hK hproper h c).1)
    (fun _ _ c _ h => (Kept.step hK hproper h c).2) hstart (fun _ _ => trivial)

/-- A ticket for a named peer that its issuer renews as if it were a lease. -/
def sampleArtefactCommands : List ArtefactCommand :=
  [.inviteCreate 1000 "s" (PartyIdentity.saveToFile .reference (.fromSeed (filled 1)))
      (some ((PartyIdentity.fromSeed (filled 2)).publicIdentity .reference).toHex) "any" 600
      (some "ticket"),
    .leaseRenew 1100 "ticket" (PartyIdentity.saveToFile .reference (.fromSeed (filled 1))) 600
      (some "lease")]

theorem artefact_files_keep_register_sample :
    ∃ text, (artefactCommands .reference).final (fun _ => none) sampleArtefactCommands "lease" =
        some text ∧
      Stored .reference text (.tenure ⟨"s",
        (PartyIdentity.fromSeed (filled 1)).publicIdentity .reference,
        (PartyIdentity.fromSeed (filled 2)).publicIdentity .reference, ⟨1100, 1700⟩, 1⟩) := by
  have hkept := (artefact_files_keep_register Crates.reference_parsesPretty
    Crates.reference_proper sampleArtefactCommands).2
  have hidentity : readIdentity .reference
      (PartyIdentity.saveToFile .reference (.fromSeed (filled 1))) = .ok (.fromSeed (filled 1)) :=
    readIdentity_eq_ok_iff.mpr
      (PartyIdentity.loadFromFile_saveToFile Crates.reference_parsesPretty _)
  have hpeer : parsePeer .reference
      ((PartyIdentity.fromSeed (filled 2)).publicIdentity .reference).toHex =
      .ok ((PartyIdentity.fromSeed (filled 2)).publicIdentity .reference) :=
    parsePeer_eq_ok_iff.mpr (PublicIdentity.fromHex_toHex ..)
  have hregister : (artefactRegister .reference).final (fun _ => none) sampleArtefactCommands
      "lease" = some (.tenure ⟨"s",
        (PartyIdentity.fromSeed (filled 1)).publicIdentity .reference,
        (PartyIdentity.fromSeed (filled 2)).publicIdentity .reference, ⟨1100, 1700⟩, 1⟩) := by
    simp [sampleArtefactCommands, artefactRegister, enters, written, newInvitation, renewal,
      parsePeerOption, parseAllowedMode, hidentity, hpeer, Entry.tenure?, Tenure.renewed,
      Except.toOption]
  obtain ⟨-, hnone⟩ | ⟨text, entry, hfile, hentry, hstored⟩ := hkept.lookup "lease"
  · cases hnone.symm.trans hregister
  · obtain rfl := Option.some.inj (hentry.symm.trans hregister)
    exact ⟨text, hfile, hstored⟩

end Cli

end BlindOverlap
