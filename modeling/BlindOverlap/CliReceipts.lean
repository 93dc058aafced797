import BlindOverlap.CliSets
import BlindOverlap.CliWireBound

/-!
# Receipts for files of identifiers

A receipt for an offline intersection is signed by one command, from the roots that the user
types and the file that the intersection was written to, and verified by another. Nothing
but the way the commands are used ties the roots to the file.
-/
namespace BlindOverlap

namespace Cli

structure ReceiptSignArgs where
  rootA : String
  rootB : String
  /-- A count, or the name of a file. -/
  result : String
  /-- What is in the file of that name, if there is one. -/
  resultFile : Option String
  mode : String
  keySeed : Option String

/-- The result is read as that of a receipt for message files is. -/
def ReceiptSignArgs.forResult (args : ReceiptSignArgs) : WireBoundSignArgs where
  session := ""
  offer := ""
  reply := ""
  rootA := args.rootA
  rootB := args.rootB
  result := args.result
  resultFile := args.resultFile
  mode := args.mode
  keySeed := args.keySeed

def cmdReceiptSign (K : Crates) (drawn : Bytes 32) (args : ReceiptSignArgs) :
    Except SignError String := do
  let rootA ← (parseBytes32 "root_a" args.rootA).mapError SignError.cli
  let rootB ← (parseBytes32 "root_b" args.rootB).mapError SignError.cli
  let mode ← (parseMode args.mode).mapError SignError.cli
  let result ← psiResult K args.forResult mode
  let signer ← receiptSigner drawn args.keySeed
  return K.jsonToStringPretty (signer.sign K rootA rootB result mode).serialize

section Receipts
variable {K : Crates} {drawn : Bytes 32} {args : ReceiptSignArgs}

theorem cmdReceiptSign_eq_ok_iff {text : String} :
    cmdReceiptSign K drawn args = .ok text ↔ ∃ rootA rootB mode result signer,
      Hex.decode args.rootA = .ok rootA.toList ∧ Hex.decode args.rootB = .ok rootB.toList ∧
      parseMode args.mode = .ok mode ∧ psiResult K args.forResult mode = .ok result ∧
      receiptSigner drawn args.keySeed = .ok signer ∧
      K.jsonToStringPretty (signer.sign K rootA rootB result mode).serialize = text := by
  simp only [cmdReceiptSign, Except.bind_eq_ok_iff, Except.mapError_eq_ok_iff,
    parseBytes32_eq_ok_iff, Except.pure_eq_ok, Except.ok.injEq]
  constructor
  · rintro ⟨rootA, ha, rootB, hb, mode, hmode, result, hresult, signer, hsigner, htext⟩
    exact ⟨rootA, rootB, mode, result, signer, ha, hb, hmode, hresult, hsigner, htext⟩
  · rintro ⟨rootA, rootB, mode, result, signer, ha, hb, hmode, hresult, hsigner, htext⟩
    exact ⟨rootA, ha, rootB, hb, mode, hmode, result, hresult, signer, hsigner, htext⟩

/-- A signed receipt is verified with the roots it was signed for, or if one is left out. -/
theorem verify_signed_iff (hparses : K.ParsesPretty) {signer : ReceiptSigner}
    (hproper : (PartyIdentity.fromSeed signer.seed).Proper K) {rootA rootB : Bytes 32}
    {result : PsiResult} {mode : IntersectionMode} {expectRootA expectRootB : Option String} :
    cmdReceiptVerify K (K.jsonToStringPretty (signer.sign K rootA rootB result mode).serialize)
        expectRootA expectRootB = .ok () ↔
      ∀ a ∈ expectRootA, ∀ b ∈ expectRootB,
        Hex.decode a = .ok rootA.toList ∧ Hex.decode b = .ok rootB.toList := by
  have hread : K.fromStr IntersectionReceipt.deserialize
      (K.jsonToStringPretty (signer.sign K rootA rootB result mode).serialize) =
        .ok (signer.sign K rootA rootB result mode) :=
    fromStr_pretty_of_keeps hparses (signer.sign K rootA rootB result mode).keeps
  rw [cmdReceiptVerify_eq_ok_iff]
  constructor
  · rintro ⟨r, hr, -, hroots⟩
    obtain rfl := Except.ok.inj (hread.symm.trans hr)
    exact hroots
  · intro hroots
    exact ⟨_, hread, ReceiptSigner.verify_sign hproper rootA rootB result mode, hroots⟩

/-- A file that is loaded as a set gives the set as the result, a missing one no identifiers. -/
theorem psiResult_of_set {s : OrderedSet FactId}
    (h : args.resultFile.elim (some .empty) textSet = some s) :
    ∃ ids, psiResult K args.forResult .intersection =
      .ok (.intersection ids (FactSet.fromIds K s.toList).root) := by
  cases hfile : args.resultFile with
  | none =>
    rw [hfile] at h
    obtain rfl := Option.some.inj h
    refine ⟨[], ?_⟩
    rw [psiResult, ReceiptSignArgs.forResult, hfile]
    rfl
  | some contents =>
    rw [hfile, Option.elim_some, textSet] at h
    obtain ⟨ids, hids, rfl⟩ := Option.map_eq_some_iff.mp h
    refine ⟨ids, ?_⟩
    simp only [psiResult, ReceiptSignArgs.forResult, hfile, Except.toOption_eq_some_iff.mp hids,
      Except.mapError_ok, Except.ok_bind, Except.pure_eq_ok]
    simp [FactSet.fromIds]

/-- The arguments of a receipt for an intersection that was written to a file. -/
def ReceiptSignArgs.ofFile (rootA rootB : Bytes 32) (path : String) (files : Files)
    (keySeed : Option String) : ReceiptSignArgs where
  rootA := Hex.encode rootA.toList
  rootB := Hex.encode rootB.toList
  result := path
  resultFile := files path
  mode := "intersection"
  keySeed := keySeed

/-- A receipt commits to whatever set its file holds, and to the empty one without a file. It is
verified with its two roots, whatever they have to do with the file. -/
theorem cmdReceiptSign_ofFile (hparses : K.ParsesPretty) {signer : ReceiptSigner}
    (hproper : (PartyIdentity.fromSeed signer.seed).Proper K) {files : Files} {path : String}
    {u : OrderedSet FactId} (hset : (files path).elim (some .empty) textSet = some u)
    {keySeed : Option String} (hsigner : receiptSigner drawn keySeed = .ok signer)
    (rootA rootB : Bytes 32) :
    ∃ r : IntersectionReceipt,
      cmdReceiptSign K drawn (.ofFile rootA rootB path files keySeed) =
        .ok (K.jsonToStringPretty r.serialize) ∧
      r.resultCommitment = (FactSet.fromIds K u.toList).root ∧
      r.signerPublicKey = signer.publicKey K ∧
      ∀ expectRootA expectRootB,
        cmdReceiptVerify K (K.jsonToStringPretty r.serialize) expectRootA expectRootB = .ok () ↔
          ∀ a ∈ expectRootA, ∀ b ∈ expectRootB,
            Hex.decode a = .ok rootA.toList ∧ Hex.decode b = .ok rootB.toList := by
  let args := ReceiptSignArgs.ofFile rootA rootB path files keySeed
  obtain ⟨ids, hresult⟩ : ∃ ids, psiResult K args.forResult .intersection =
      .ok (.intersection ids (FactSet.fromIds K u.toList).root) := psiResult_of_set hset
  refine ⟨signer.sign K rootA rootB (.intersection ids (FactSet.fromIds K u.toList).root)
    .intersection, ?_, rfl, rfl, fun _ _ => verify_signed_iff hparses hproper⟩
  exact cmdReceiptSign_eq_ok_iff.mpr ⟨rootA, rootB, .intersection, _, signer, Hex.decode_encode _,
    Hex.decode_encode _, rfl, hresult, hsigner, rfl⟩

/-- Two files are intersected, and a receipt is signed for the output with the roots of the two
sets: it commits to what the sets have in common, and is verified with these roots only. -/
theorem receipt_of_files (displayDouble : UInt64 → String) (hparses : K.ParsesPretty)
    {files : Files} {fileA fileB : String} {s t : OrderedSet FactId}
    (hA : setsOf files fileA = some (some s)) (hB : setsOf files fileB = some (some t))
    (hs : s.size ≤ maxSetSize) (ht : t.size ≤ maxSetSize) {drawnA drawnB : StaticSecret}
    (hmasks : (sessionMasks K drawnA drawnB).Lawful (s.toList ++ t.toList))
    (hhash : Set.InjOn (Session.hashToPublicKey K) {x | x ∈ s ∨ x ∈ t}) (output : String)
    {keySeed : Option String} {signer : ReceiptSigner}
    (hsigner : receiptSigner drawn keySeed = .ok signer)
    (hproper : (PartyIdentity.fromSeed signer.seed).Proper K) :
    ∃ r : IntersectionReceipt,
      cmdReceiptSign K drawn (.ofFile (FactSet.fromIds K s.toList).root
          (FactSet.fromIds K t.toList).root output (setCommands displayDouble K files
            (.intersect drawnA drawnB fileA fileB false (some output))).next keySeed) =
        .ok (K.jsonToStringPretty r.serialize) ∧
      r.resultCommitment = (FactSet.fromIds K (s.inter t).toList).root ∧
      r.signerPublicKey = signer.publicKey K ∧
      ∀ expectRootA expectRootB,
        cmdReceiptVerify K (K.jsonToStringPretty r.serialize) expectRootA expectRootB = .ok () ↔
          ∀ a ∈ expectRootA, ∀ b ∈ expectRootB,
            Hex.decode a = .ok (FactSet.fromIds K s.toList).root.toList ∧
              Hex.decode b = .ok (FactSet.fromIds K t.toList).root.toList := by
  have hsetA : ((files fileA).map textSet).join = some s := by
    rw [show (files fileA).map textSet = some (some s) from hA]
    rfl
  have hsetB : ((files fileB).map textSet).join = some t := by
    rw [show (files fileB).map textSet = some (some t) from hB]
    rfl
  have hreport := cmdIntersect_of_sets hsetA hsetB hs ht hmasks hhash false
  refine cmdReceiptSign_ofFile hparses hproper ?_ hsigner _ _
  rw [setCommands, hreport]
  simp [written, PsiResult.ofSet, textSet_intersectReport]

end Receipts

def sampleSetA : OrderedSet FactId := .ofList [filled 5, filled 3]

def sampleSetB : OrderedSet FactId := .ofList [filled 5]

theorem receipt_of_files_sample :
    ∃ r : IntersectionReceipt,
      cmdReceiptSign .reference (filled 7) (.ofFile
          (FactSet.fromIds .reference sampleSetA.toList).root
          (FactSet.fromIds .reference sampleSetB.toList).root "c" (setCommands (fun _ => "")
            .reference sampleFiles
            (.intersect sampleSecretA sampleSecretB "a" "b" false (some "c"))).next none) =
        .ok (Crates.reference.jsonToStringPretty r.serialize) ∧
      r.resultCommitment =
        (FactSet.fromIds .reference (sampleSetA.inter sampleSetB).toList).root := by
  have hknown : ∀ id, id ∈ sampleSetA ∨ id ∈ sampleSetB →
      id ∈ ({filled 5, filled 3} : Set FactId) := by
    rintro id (hid | hid)
    · simpa [sampleSetA] using hid
    · exact .inl (by simpa [sampleSetB] using hid)
  have hlists : ∀ id ∈ sampleSetA.toList ++ sampleSetB.toList,
      id ∈ ({filled 5, filled 3} : Set FactId) :=
    fun id hid => hknown id (List.mem_append.mp hid)
  obtain ⟨r, hr, hcommitment, -⟩ := receipt_of_files (fun _ => "") Crates.reference_parsesPretty
    (setsOf_sampleFiles "a") (setsOf_sampleFiles "b") (by decide +kernel) (by decide +kernel)
    (sample_known_lawful _ hlists) (sample_known_injOn.mono hknown) "c"
    (show receiptSigner (filled 7) none = .ok ⟨filled 7⟩ from rfl) (Crates.reference_proper _)
  exact ⟨r, hr, hcommitment⟩

end Cli

end BlindOverlap
