import BlindOverlap.RecordLayout
import BlindOverlap.SessionExport
import BlindOverlap.StoredArtefacts

/-!
# Archives of exported records

Records are exported to files, which anyone may change, and are verified from there. What is
accepted as sealed by an owner has the body of a record that was exported with the owner's
seal, as far as a body can be told from its bytes.
-/
namespace BlindOverlap

namespace Cli

inductive ArchiveError where
  /-- A file that is not there. -/
  | io
  | cli (e : CliError)
  | exporting (e : ExportError)
  | sealing (e : SealError)
  | notSealed
  deriving DecidableEq

/-! ## Commands -/

section Commands
variable (K : Crates)

/-- A sealer can be expected of a sealed record only, whose seal is verified in any case. -/
def checkSealer (expectSealer : Option String) (record : SealedSessionRecord) :
    Except ArchiveError Unit :=
  if record.isSealed then
    match expectSealer with
    | some hex => do
      let expected ← (PublicIdentity.fromHex K hex).mapError (fun e => .cli (.identity e))
      (record.verifySealFrom K expected).mapError .sealing
    | none => (record.verifySeal K).mapError .sealing
  else if expectSealer.isSome then .error .notSealed
  else .ok ()

def cmdSessionVerify (record : Option String) (expectSealer : Option String) :
    Except ArchiveError SealedSessionRecord :=
  match record with
  | none => .error .io
  | some text => do
    let record ← (SealedSessionRecord.fromJson K text).mapError (fun e => .cli (.json e))
    (record.verifyIntegrity K).mapError .sealing
    checkSealer K expectSealer record
    return record

/-- Files, and the records that were exported so far. -/
structure Archive where
  files : Files
  exported : List SealedSessionRecord

inductive ArchiveCommand where
  | exporting (t : ExportReadings) (args : ExportArgs) (output : Option String)
  | verify (path : String) (expectSealer : Option String)
  /-- Somebody writes or removes a file. -/
  | change (path : String) (text : Option String)

def archiveCommands :
    Machine Archive ArchiveCommand (Except ArchiveError (Option SealedSessionRecord))
  | archive, .exporting t args output =>
    match cmdSessionExport K t args with
    | .error e => ⟨.error (.exporting e), archive⟩
    | .ok r => ⟨.ok (some r),
        ⟨written archive.files output (r.toJsonPretty K), r :: archive.exported⟩⟩
  | archive, .verify path expectSealer =>
    ⟨(cmdSessionVerify K (archive.files path) expectSealer).map some, archive⟩
  | archive, .change path text =>
    ⟨.ok none, { archive with files := Function.update archive.files path text }⟩

/-- A record as the export command makes it, under the seal of the identity it was given. -/
structure ExportedFor (t : ExportReadings) (identity : Option PartyIdentity)
    (r : SealedSessionRecord) : Prop where
  short : r.messages.length < UInt32.size
  intact : r.computedBodyDigest K = r.bodyDigest
  recordSeal : r.recordSeal = identity.map (fun p =>
    ⟨p.publicIdentity K, t.sealedAt, p.sign K r.sealPayload⟩)
  identities : ∀ p ∈ r.identities, ∃ q ∈ identity, p = q.publicIdentity K

/-- Ideal seals and an ideal hash: a seal that verifies under the owner's key is over the body
digest of a record exported with the owner's seal, and the two bodies do not collide. -/
def Archive.Unforged (owner : PublicIdentity) (archive : Archive) (r : SealedSessionRecord) :
    Prop :=
  r.verifySeal K = .ok () → r.sealer = some owner →
    ∃ r₀ ∈ archive.exported, r₀.sealer = some owner ∧ r₀.bodyDigest = r.bodyDigest ∧
      ∀ h h₀, K.CollisionFree {(r.bodyParts h).input, (r₀.bodyParts h₀).input}

end Commands

/-! ## Exported records -/

section Records
variable {K : Crates} {t : ExportReadings} {args : ExportArgs} {r : SealedSessionRecord}

theorem addFile_messages (now : UInt64) (direction : MessageDirection) (messageType : String)
    (file : Option String) (builder : SealedSessionBuilder) :
    (addFile K now direction messageType file builder).messages.length ≤
      builder.messages.length + 1 := by
  cases file with
  | none => exact Nat.le_succ _
  | some json => simp [addFile, SealedSessionBuilder.addMessageHash, SealedSessionBuilder.addEntry]

theorem length_exportBuilder (state : Json) :
    (exportBuilder K t args state).messages.length ≤ 3 := by
  rw [exportBuilder]
  refine (addFile_messages ..).trans (Nat.succ_le_succ ?_)
  refine (addFile_messages ..).trans (Nat.succ_le_succ ?_)
  exact addFile_messages ..

@[simp] theorem addFile_localPubkey (now : UInt64) (direction : MessageDirection)
    (messageType : String) (file : Option String) (builder : SealedSessionBuilder) :
    (addFile K now direction messageType file builder).localPubkey = builder.localPubkey := by
  cases file <;> rfl

@[simp] theorem addFile_peerPubkey (now : UInt64) (direction : MessageDirection)
    (messageType : String) (file : Option String) (builder : SealedSessionBuilder) :
    (addFile K now direction messageType file builder).peerPubkey = builder.peerPubkey := by
  cases file <;> rfl

theorem cmdSessionExport_eq_ok (h : cmdSessionExport K t args = .ok r) :
    ∃ identity, loadIdentity K args.identity = .ok identity ∧ ExportedFor K t identity r := by
  simp only [cmdSessionExport, Except.bind_eq_ok_iff, Except.mapError_eq_ok_iff] at h
  obtain ⟨state, -, identity, hidentity, h⟩ := h
  refine ⟨identity, hidentity, ?_⟩
  have hshort : (exportBuilder K t args state).messages.length < UInt32.size :=
    (length_exportBuilder state).trans_lt (by decide)
  have hsession : (exportBuilder K t args state).sessionId = some args.sessionId := by
    simp [exportBuilder]
  have hkeys : (exportBuilder K t args state).localPubkey = none ∧
      (exportBuilder K t args state).peerPubkey = none := by
    simp [exportBuilder, SealedSessionBuilder.new]
  cases identity with
  | none =>
    simp only [Except.mapError_eq_ok_iff, SealedSessionBuilder.build, hsession,
      Except.ok.injEq] at h
    subst h
    refine ⟨hshort, rfl, rfl, ?_⟩
    simp [SealedSessionRecord.identities, SealedSessionBuilder.recordOf, hkeys]
  | some identity =>
    simp only [Except.mapError_eq_ok_iff, SealedSessionBuilder.buildSealed,
      SealedSessionBuilder.build, hsession, Except.ok_bind, Except.pure_eq_ok,
      Except.ok.injEq] at h
    subst h
    refine ⟨hshort, rfl, rfl, ?_⟩
    simp [SealedSessionRecord.identities, SealedSessionRecord.sealWith,
      SealedSessionBuilder.recordOf, hkeys]

end Records

/-! ## Verified records -/

section Verify
variable {K : Crates} {expectSealer : Option String} {r : SealedSessionRecord}

theorem checkSealer_eq_ok_iff :
    checkSealer K expectSealer r = .ok () ↔ (r.isSealed = true → r.verifySeal K = .ok ()) ∧
      ∀ hex ∈ expectSealer, ∃ expected,
        PublicIdentity.fromHex K hex = .ok expected ∧ r.sealer = some expected := by
  unfold checkSealer
  by_cases hsealed : r.isSealed = true
  · rw [if_pos hsealed]
    cases expectSealer with
    | none => simp [hsealed]
    | some hex =>
      simp only [Except.bind_eq_ok_iff, Except.mapError_eq_ok_iff, hsealed, true_imp_iff,
        SealedSessionRecord.verifySealFrom_eq_ok_iff, Option.mem_some_iff, forall_eq']
      constructor
      · rintro ⟨expected, hexpected, hsealer, hverified⟩
        exact ⟨hverified, expected, hexpected, hsealer⟩
      · rintro ⟨hverified, expected, hexpected, hsealer⟩
        exact ⟨expected, hexpected, hsealer, hverified⟩
  · have hsealer : r.sealer = none := by
      rw [SealedSessionRecord.isSealed, Option.isSome_iff_ne_none, not_not] at hsealed
      rw [SealedSessionRecord.sealer, hsealed]
      rfl
    rw [if_neg hsealed, hsealer]
    cases expectSealer <;> simp [hsealed]

theorem cmdSessionVerify_eq_ok_iff {file : Option String} :
    cmdSessionVerify K file expectSealer = .ok r ↔ ∃ text, file = some text ∧
      SealedSessionRecord.fromJson K text = .ok r ∧ r.computedBodyDigest K = r.bodyDigest ∧
      checkSealer K expectSealer r = .ok () := by
  cases file with
  | none => simp [cmdSessionVerify]
  | some text =>
    simp only [cmdSessionVerify, Except.bind_eq_ok_iff, Except.mapError_eq_ok_iff,
      ← SealedSessionRecord.verifyIntegrity_eq_ok_iff, Except.pure_eq_ok, Except.ok.injEq,
      Option.some.injEq, exists_eq_left']
    constructor
    · rintro ⟨r', hread, u, hintact, v, hsealer, rfl⟩
      exact ⟨hread, hintact, hsealer⟩
    · rintro ⟨hread, hintact, hsealer⟩
      exact ⟨r, hread, (), hintact, (), hsealer, rfl⟩

/-- What a verification answers in an archive. -/
theorem verify_output_eq_ok_iff {archive : Archive} {path : String} :
    (archiveCommands K archive (.verify path expectSealer)).output = .ok (some r) ↔
      cmdSessionVerify K (archive.files path) expectSealer = .ok r := by
  rw [archiveCommands]
  cases cmdSessionVerify K (archive.files path) expectSealer <;> simp [Except.map]

/-- What was exported is verified with the sealer that it has, or with none expected. -/
theorem ExportedFor.checkSealer_iff {t : ExportReadings} {identity : Option PartyIdentity}
    (h : ExportedFor K t identity r) (hproper : ∀ p ∈ identity, p.Proper K) :
    checkSealer K expectSealer r = .ok () ↔ ∀ hex ∈ expectSealer, ∃ p ∈ identity,
      PublicIdentity.fromHex K hex = .ok (p.publicIdentity K) := by
  have hverified : r.isSealed = true → r.verifySeal K = .ok () := by
    intro hsealed
    rw [SealedSessionRecord.isSealed, h.recordSeal, Option.isSome_map] at hsealed
    obtain ⟨p, rfl⟩ := Option.isSome_iff_exists.mp hsealed
    exact SealedSessionRecord.verifySeal_eq_ok_iff.mpr
      ⟨_, h.recordSeal, h.intact, (hproper p rfl).verify_sign _⟩
  have hsealer : r.sealer = identity.map (fun p => p.publicIdentity K) := by
    rw [SealedSessionRecord.sealer, h.recordSeal, Option.map_map]
    rfl
  rw [checkSealer_eq_ok_iff, and_iff_right hverified, hsealer]
  cases identity <;> simp

/-- The file of an exported record is read as that record. -/
theorem ExportedFor.fromJson_toJsonPretty (hparses : K.ParsesPretty) {t : ExportReadings}
    {identity : Option PartyIdentity} (h : ExportedFor K t identity r)
    (hproper : ∀ p ∈ identity, p.Proper K) :
    SealedSessionRecord.fromJson K (r.toJsonPretty K) = .ok r := by
  refine fromStr_pretty_of_keeps hparses (SealedSessionRecord.keeps fun p hp => ?_)
  obtain ⟨q, hq, rfl⟩ := h.identities p hp
  exact (hproper q hq).decodes

/-- Verifying the file of an exported record. -/
theorem ExportedFor.verify_iff (hparses : K.ParsesPretty) {t : ExportReadings}
    {identity : Option PartyIdentity} (h : ExportedFor K t identity r)
    (hproper : ∀ p ∈ identity, p.Proper K) {r' : SealedSessionRecord} :
    cmdSessionVerify K (some (r.toJsonPretty K)) expectSealer = .ok r' ↔
      r' = r ∧ ∀ hex ∈ expectSealer, ∃ p ∈ identity,
        PublicIdentity.fromHex K hex = .ok (p.publicIdentity K) := by
  have hread := h.fromJson_toJsonPretty hparses hproper
  rw [cmdSessionVerify_eq_ok_iff]
  constructor
  · rintro ⟨text, htext, hr', -, hchecked⟩
    obtain rfl := Option.some.inj htext
    obtain rfl := Except.ok.inj (hread.symm.trans hr')
    exact ⟨rfl, (h.checkSealer_iff hproper).mp hchecked⟩
  · rintro ⟨rfl, hexpected⟩
    exact ⟨_, rfl, hread, h.intact, (h.checkSealer_iff hproper).mpr hexpected⟩

end Verify

/-! ## Runs -/

section Runs
variable {K : Crates}

/-- The path that a command writes to or changes. -/
def ArchiveCommand.target? : ArchiveCommand → Option String
  | .exporting _ _ output => output
  | .verify _ _ => none
  | .change path _ => some path

theorem archiveCommands_alone {archive : Archive} {c : ArchiveCommand} {path : String}
    (h : c.target? ≠ some path) :
    (archiveCommands K archive c).next.files path = archive.files path := by
  cases c with
  | exporting t args output =>
    rw [archiveCommands]
    cases cmdSessionExport K t args with
    | error e => rfl
    | ok r =>
      cases output with
      | none => rfl
      | some output => exact Function.update_of_ne (fun heq => h (congrArg some heq.symm)) _ _
  | verify other expectSealer => rfl
  | change other text => exact Function.update_of_ne (fun heq => h (congrArg some heq.symm)) _ _

theorem final_alone {commands : List ArchiveCommand} {path : String}
    (h : ∀ c ∈ commands, c.target? ≠ some path) (archive : Archive) :
    ((archiveCommands K).final archive commands).files path = archive.files path := by
  induction commands generalizing archive with
  | nil => rfl
  | cons c commands ih =>
    obtain ⟨hc, hrest⟩ := List.forall_mem_cons.mp h
    rw [Machine.final_cons, ih hrest, archiveCommands_alone hc]

/-- An exported record that is left alone is verified exactly if no sealer is expected or the
one that sealed it, whatever else happens in the archive. -/
theorem exported_record_verifies_iff (hparses : K.ParsesPretty) {t : ExportReadings}
    {args : ExportArgs} {r : SealedSessionRecord} (hexport : cmdSessionExport K t args = .ok r)
    {identity : Option PartyIdentity} (hidentity : loadIdentity K args.identity = .ok identity)
    (hproper : ∀ p ∈ identity, p.Proper K) {path : String} {commands : List ArchiveCommand}
    (halone : ∀ c ∈ commands, c.target? ≠ some path) (archive : Archive)
    (expectSealer : Option String) :
    (archiveCommands K ((archiveCommands K).final archive
        (.exporting t args (some path) :: commands)) (.verify path expectSealer)).output =
        .ok (some r) ↔
      ∀ hex ∈ expectSealer, ∃ p ∈ identity,
        PublicIdentity.fromHex K hex = .ok (p.publicIdentity K) := by
  obtain ⟨identity', hidentity', hexported⟩ := cmdSessionExport_eq_ok hexport
  obtain rfl := Except.ok.inj (hidentity'.symm.trans hidentity)
  have hfile : ((archiveCommands K).final archive
      (.exporting t args (some path) :: commands)).files path = some (r.toJsonPretty K) := by
    rw [Machine.final_cons, final_alone halone, archiveCommands, hexport]
    exact Function.update_self ..
  rw [verify_output_eq_ok_iff, hfile, hexported.verify_iff hparses hproper]
  exact and_iff_right rfl

def sampleOwner : PartyIdentity := .fromSeed (filled 7)

/-- An export for the sample's owner, of a session whose offer is known. -/
def sealedArgs : ExportArgs where
  sessionId := "s"
  state := Crates.reference.jsonToStringPretty (.object [])
  offer := some "offer"
  reply := none
  reveal := none
  completed := false
  identity := some (sampleOwner.saveToFile .reference)

def sampleOwnerHex : String := (sampleOwner.publicIdentity .reference).toHex

theorem fromHex_sampleOwnerHex : PublicIdentity.fromHex .reference sampleOwnerHex =
    .ok (sampleOwner.publicIdentity .reference) :=
  PublicIdentity.fromHex_toHex .reference _

theorem loadIdentity_sealedArgs :
    loadIdentity .reference sealedArgs.identity = .ok (some sampleOwner) := by
  rw [sealedArgs, loadIdentity, PartyIdentity.loadFromFile_saveToFile Crates.reference_parsesPretty]
  rfl

theorem exists_sealedExport :
    ∃ r, cmdSessionExport .reference sampleExportReadings sealedArgs = .ok r := by
  have hstate : Crates.reference.fromStr .ok sealedArgs.state = .ok (.object []) :=
    Crates.fromStr_pretty Crates.reference_parsesPretty _ ⟨rfl, by decide⟩
  obtain ⟨r, hr, -⟩ := exists_export hstate loadIdentity_sealedArgs
  exact ⟨r, hr⟩

theorem exported_record_verifies_iff_sample :
    ∃ r, (archiveCommands .reference ((archiveCommands .reference).final ⟨fun _ => none, []⟩
        [.exporting sampleExportReadings sealedArgs (some "record"), .change "other" (some "?")])
        (.verify "record" (some sampleOwnerHex))).output = .ok (some r) := by
  obtain ⟨r, hr⟩ := exists_sealedExport
  refine ⟨r, ?_⟩
  refine (exported_record_verifies_iff Crates.reference_parsesPretty hr loadIdentity_sealedArgs
    (fun p _ => Crates.reference_proper p) (by simp [ArchiveCommand.target?]) _ _).mpr ?_
  intro hex hhex
  obtain rfl := Option.some.inj hhex
  exact ⟨sampleOwner, rfl, fromHex_sampleOwnerHex⟩

/-- Every record in the log was exported. -/
def Archive.Logged (K : Crates) (archive : Archive) : Prop :=
  ∀ r ∈ archive.exported, ∃ t identity, ExportedFor K t identity r

theorem logged_step {archive : Archive} (h : archive.Logged K) (c : ArchiveCommand) :
    (archiveCommands K archive c).next.Logged K := by
  cases c with
  | exporting t args output =>
    rw [archiveCommands]
    cases hexport : cmdSessionExport K t args with
    | error e => exact h
    | ok r =>
      obtain ⟨identity, -, hexported⟩ := cmdSessionExport_eq_ok hexport
      exact List.forall_mem_cons.mpr ⟨⟨t, identity, hexported⟩, h⟩
  | verify path expectSealer => exact h
  | change path text => exact h

/-- Bodies with one digest are the same, up to what a session identifier can absorb. -/
theorem bodies_of_bodyDigest_eq {r r₀ : SealedSessionRecord} {h : r.messages.length < UInt32.size}
    {h₀ : r₀.messages.length < UInt32.size} (hintact : r.computedBodyDigest K = r.bodyDigest)
    (hintact₀ : r₀.computedBodyDigest K = r₀.bodyDigest) (hdigest : r₀.bodyDigest = r.bodyDigest)
    (hfree : K.CollisionFree {(r.bodyParts h).input, (r₀.bodyParts h₀).input}) :
    (r.bodyParts h).SameBody (r₀.bodyParts h₀) ∨ (r₀.bodyParts h₀).Absorbs (r.bodyParts h) ∨
      (r.bodyParts h).Absorbs (r₀.bodyParts h₀) := by
  rw [SealedSessionRecord.computedBodyDigest_eq K r h] at hintact
  rw [SealedSessionRecord.computedBodyDigest_eq K r₀ h₀, hdigest, ← hintact] at hintact₀
  have hinput : (r.bodyParts h).input = (r₀.bodyParts h₀).input :=
    hfree (.inl rfl) (.inr rfl) hintact₀.symm
  rw [BodyParts.input_eq, BodyParts.input_eq, List.append_cancel_left_eq,
    Framing.append_eq_append_iff, ← BodyParts.sameBody_iff] at hinput
  exact hinput

/-- Whoever changes the files, and whatever else is exported to them: a record that is verified
as sealed by the owner has the body of an earlier export with the owner's seal. -/
theorem archive_authentic {owner : PublicIdentity} (files : Files)
    (commands : List ArchiveCommand)
    (hunforged : ∀ e ∈ (archiveCommands K).trace ⟨files, []⟩ commands, ∀ path expectSealer r,
      e.input = .verify path expectSealer → e.output = .ok (some r) →
        e.before.Unforged K owner r) :
    ∀ e ∈ (archiveCommands K).trace ⟨files, []⟩ commands, ∀ path hex r,
      e.input = .verify path (some hex) → PublicIdentity.fromHex K hex = .ok owner →
      e.output = .ok (some r) → ∀ h : r.messages.length < UInt32.size,
        ∃ r₀ ∈ e.before.exported, ∃ h₀, r₀.sealer = some owner ∧
          ((r.bodyParts h).SameBody (r₀.bodyParts h₀) ∨
            (r₀.bodyParts h₀).Absorbs (r.bodyParts h) ∨
            (r.bodyParts h).Absorbs (r₀.bodyParts h₀)) := by
  intro e he path hex r hinput howner houtput h
  have hstart : (⟨files, []⟩ : Archive).Logged K := List.forall_mem_nil _
  have hsteps : ∀ e ∈ (archiveCommands K).trace ⟨files, []⟩ commands,
      e.before.Logged K ∧ e.output = (archiveCommands K e.before e.input).output :=
    Machine.trace_forall (archiveCommands K) (fun a c (ha : a.Logged K) => logged_step ha c)
      (fun a c ha => ⟨ha, rfl⟩) hstart commands
  obtain ⟨hlogged, hfired⟩ := hsteps e he
  have hverify := hfired.symm.trans houtput
  rw [hinput, verify_output_eq_ok_iff] at hverify
  obtain ⟨text, -, -, hintact, hchecked⟩ := cmdSessionVerify_eq_ok_iff.mp hverify
  obtain ⟨hverified, hexpected⟩ := checkSealer_eq_ok_iff.mp hchecked
  obtain ⟨expected, hhex, hsealer⟩ := hexpected hex rfl
  obtain rfl := Except.ok.inj (hhex.symm.trans howner)
  have hsealed : r.isSealed = true := by
    rw [SealedSessionRecord.isSealed, ← Option.isSome_map, ← SealedSessionRecord.sealer, hsealer]
    rfl
  obtain ⟨r₀, hr₀, hsealer₀, hdigest, hfree⟩ :=
    hunforged e he path _ r hinput houtput (hverified hsealed) hsealer
  obtain ⟨t, identity, hexported⟩ := hlogged r₀ hr₀
  exact ⟨r₀, hr₀, hexported.short, hsealer₀,
    bodies_of_bodyDigest_eq hintact hexported.intact hdigest (hfree h hexported.short)⟩

/-- A record with another nonce, which its digest does not cover. -/
def retold (r : SealedSessionRecord) : SealedSessionRecord :=
  { r with initiatorNonce := some ⟨filled 9⟩ }

/-- A retold copy of an exported record is verified. -/
def sampleChanges (r : SealedSessionRecord) : List ArchiveCommand :=
  [.exporting sampleExportReadings sealedArgs (some "record"),
    .change "copy" (some ((retold r).toJsonPretty .reference)),
    .verify "copy" (some sampleOwnerHex)]

/-- The sample's archive after the export. -/
def sampleArchive (r : SealedSessionRecord) : Archive :=
  ⟨Function.update (fun _ => none) "record" (some (r.toJsonPretty .reference)), [r]⟩

/-- The sample's archive with the copy. -/
def copiedArchive (r : SealedSessionRecord) : Archive :=
  { sampleArchive r with
    files := Function.update (sampleArchive r).files "copy"
      (some ((retold r).toJsonPretty .reference)) }

theorem archive_authentic_sample :
    ∃ r, (archiveCommands .reference (copiedArchive r)
        (.verify "copy" (some sampleOwnerHex))).output = .ok (some (retold r)) ∧
      ∀ h : (retold r).messages.length < UInt32.size, ∃ r₀ ∈ (copiedArchive r).exported, ∃ h₀,
        r₀.sealer = some (sampleOwner.publicIdentity .reference) ∧
          (((retold r).bodyParts h).SameBody (r₀.bodyParts h₀) ∨
            (r₀.bodyParts h₀).Absorbs ((retold r).bodyParts h) ∨
            ((retold r).bodyParts h).Absorbs (r₀.bodyParts h₀)) := by
  obtain ⟨r, hr⟩ := exists_sealedExport
  obtain ⟨identity, hidentity, hexported⟩ := cmdSessionExport_eq_ok hr
  obtain rfl := Except.ok.inj (hidentity.symm.trans loadIdentity_sealedArgs)
  have hretold : ExportedFor .reference sampleExportReadings (some sampleOwner) (retold r) :=
    ⟨hexported.short, hexported.intact, hexported.recordSeal, hexported.identities⟩
  have hfirst : archiveCommands .reference ⟨fun _ => none, []⟩
      (.exporting sampleExportReadings sealedArgs (some "record")) =
        ⟨.ok (some r), sampleArchive r⟩ := by
    rw [archiveCommands, hr]
    rfl
  have hfile : (copiedArchive r).files "copy" = some ((retold r).toJsonPretty .reference) := by
    simp [copiedArchive]
  have hverify : cmdSessionVerify .reference ((copiedArchive r).files "copy")
      (some sampleOwnerHex) = .ok (retold r) := by
    rw [hfile, hretold.verify_iff Crates.reference_parsesPretty
      (fun p _ => Crates.reference_proper p)]
    exact ⟨rfl, fun hex hhex => ⟨sampleOwner, rfl, Option.some.inj hhex ▸ fromHex_sampleOwnerHex⟩⟩
  have hlast : archiveCommands .reference (copiedArchive r)
      (.verify "copy" (some sampleOwnerHex)) = ⟨.ok (some (retold r)), copiedArchive r⟩ := by
    rw [archiveCommands, hverify]
    rfl
  have htrace : (archiveCommands .reference).trace ⟨fun _ => none, []⟩ (sampleChanges r) =
      [⟨⟨fun _ => none, []⟩, .exporting sampleExportReadings sealedArgs (some "record"),
        .ok (some r), sampleArchive r⟩,
        ⟨sampleArchive r, .change "copy" (some ((retold r).toJsonPretty .reference)), .ok none,
        copiedArchive r⟩,
        ⟨copiedArchive r, .verify "copy" (some sampleOwnerHex), .ok (some (retold r)),
        copiedArchive r⟩] := by
    have hsecond : archiveCommands .reference (sampleArchive r)
        (.change "copy" (some ((retold r).toJsonPretty .reference))) =
          ⟨.ok none, copiedArchive r⟩ := rfl
    simp only [sampleChanges, Machine.trace_cons, Machine.trace_nil, Machine.fire, hfirst, hsecond,
      hlast]
  refine ⟨r, congrArg Step.output hlast, ?_⟩
  refine archive_authentic (fun _ => none) (sampleChanges r) ?_
    ⟨copiedArchive r, .verify "copy" (some sampleOwnerHex), .ok (some (retold r)), copiedArchive r⟩
    (by simp [htrace]) "copy" sampleOwnerHex (retold r) rfl fromHex_sampleOwnerHex rfl
  intro e he path hex r' hinput hr'
  rw [htrace] at he
  simp only [List.mem_cons, List.not_mem_nil, or_false] at he
  obtain rfl | rfl | rfl := he
  · cases hinput
  · cases hinput
  · obtain rfl := Option.some.inj (Except.ok.inj hr')
    intro _ hsealer
    refine ⟨r, List.mem_singleton_self _, hsealer, rfl, fun h h₀ => ?_⟩
    simp [Crates.CollisionFree, retold, SealedSessionRecord.bodyParts]

end Runs

end Cli

end BlindOverlap
