import BlindOverlap.Attestation
import BlindOverlap.Reference

/-!
# What an attestation's signature fixes

Labels separate the parts of the signed body, and every part but the session identifier
has a fixed width. An identifier may spell out labels of its own, so that one body can be
divided into parts in two ways.
-/
namespace BlindOverlap

namespace OverlapAttestation

/-- The same claim, whoever signed it besides the issuer. -/
structure SameClaim (a b : OverlapAttestation) : Prop where
  version : a.version = b.version
  sessionId : a.sessionId = b.sessionId
  mode : a.mode = b.mode
  setRootA : a.setRootA = b.setRootA
  setRootB : a.setRootB = b.setRootB
  intersectionRoot : a.intersectionRoot = b.intersectionRoot
  cardinality : a.cardinality = b.cardinality
  transcriptDigest : a.transcriptDigest = b.transcriptDigest
  issuedAt : a.issuedAt = b.issuedAt
  expiresAt : a.expiresAt = b.expiresAt
  issuerPubkey : a.issuerPubkey = b.issuerPubkey

/-! ## The body in three pieces -/

/-- The version and the session, up to where the mode is named. -/
def sessionBytes (a : OverlapAttestation) : List UInt8 :=
  a.version :: a.sessionId.elim [] (fun session => utf8 ":session:" ++ utf8 session)

/-- The text from where the mode is named to the first root. -/
def modeLabel (m : AttestationMode) : List UInt8 :=
  utf8 ":mode:" ++ (utf8 m.modeText ++ utf8 ":set_root_a:")

/-- What was computed, from which sets. -/
def outcomeBytes (a : OverlapAttestation) : List UInt8 :=
  modeLabel a.mode ++ (a.setRootA.toList ++ (utf8 ":set_root_b:" ++ (a.setRootB.toList ++
    (a.intersectionRoot.elim [] (fun root => utf8 ":intersection_root:" ++ root.toList) ++
      (a.cardinality.elim [] (fun card => utf8 ":cardinality:" ++ leBytes 8 card.toNat) ++
        a.transcriptDigest.elim [] (fun d => utf8 ":transcript:" ++ d.bytes.toList))))))

/-- Who says so, and for how long. -/
def issueBytes (a : OverlapAttestation) : List UInt8 :=
  utf8 ":issued_at:" ++ (leBytes 8 a.issuedAt.toNat ++
    (utf8 ":expires_at:" ++ (leBytes 8 a.expiresAt.toNat ++
      (utf8 ":issuer:" ++ a.issuerPubkey.bytes.toList))))

theorem signingInput_eq (a : OverlapAttestation) :
    a.signingInput = (attestationDomain ++ utf8 ":version:") ++
      (a.sessionBytes ++ (a.outcomeBytes ++ a.issueBytes)) := by
  unfold signingInput sessionBytes outcomeBytes modeLabel issueBytes
  simp only [List.append_assoc, List.cons_append, List.nil_append]

theorem length_issueBytes (a : OverlapAttestation) : a.issueBytes.length = 79 := by
  have hlabels : (utf8 ":issued_at:").length = 11 ∧ (utf8 ":expires_at:").length = 12 ∧
      (utf8 ":issuer:").length = 8 := by
    decide +kernel
  simp [issueBytes, Bytes.length_toList, hlabels]

/-! ## How one outcome hides in another

Four ways to take `t` from the front of the outcome of `a` and read the outcome of `b` behind
it: the fields of `b` lie across those of `a`, the labels inside the roots and the digest. -/

/-- `t` ends in the first root of `a`. -/
def EndsInRootA (a b : OverlapAttestation) (t : List UInt8) : Prop :=
  ∃ root card hidden u v w r, a.intersectionRoot = some root ∧ a.cardinality = none ∧
    b.intersectionRoot = none ∧ b.cardinality = some card ∧
    a.transcriptDigest = b.transcriptDigest ∧ t = modeLabel a.mode ++ hidden ∧
    a.setRootA.toList = hidden ++ (modeLabel b.mode ++ u) ∧
    b.setRootA.toList = u ++ (utf8 ":set_root_b:" ++ v) ∧
    a.setRootB.toList = v ++ (utf8 ":set_root_b:" ++ w) ∧
    b.setRootB.toList = w ++ (utf8 ":intersection_root:" ++ r) ∧
    root.toList = r ++ (utf8 ":cardinality:" ++ leBytes 8 card.toNat)

/-- `t` ends in the second root of `a`. -/
def EndsInRootB (a b : OverlapAttestation) (t : List UInt8) : Prop :=
  ∃ root digest card hidden u v w r, a.intersectionRoot = some root ∧ a.cardinality = none ∧
    a.transcriptDigest = some digest ∧ b.intersectionRoot = none ∧ b.cardinality = some card ∧
    b.transcriptDigest = none ∧
    t = modeLabel a.mode ++ (a.setRootA.toList ++ (utf8 ":set_root_b:" ++ hidden)) ∧
    a.setRootB.toList = hidden ++ (modeLabel b.mode ++ u) ∧
    b.setRootA.toList = u ++ (utf8 ":intersection_root:" ++ v) ∧
    root.toList = v ++ (utf8 ":set_root_b:" ++ w) ∧
    b.setRootB.toList = w ++ (utf8 ":transcript:" ++ r) ∧
    digest.bytes.toList = r ++ (utf8 ":cardinality:" ++ leBytes 8 card.toNat)

/-- `t` ends before the last colon of the label of the first root of `a`. -/
def EndsBeforeRootA (a b : OverlapAttestation) (t : List UInt8) : Prop :=
  ∃ root card digest u v w r q, a.intersectionRoot = some root ∧ a.cardinality = some card ∧
    a.transcriptDigest = none ∧ b.intersectionRoot = none ∧ b.cardinality = none ∧
    b.transcriptDigest = some digest ∧
    t = utf8 ":mode:" ++ (utf8 a.mode.modeText ++ utf8 ":set_root_a") ∧
    utf8 ":" ++ a.setRootA.toList = modeLabel b.mode ++ u ∧
    b.setRootA.toList = u ++ (utf8 ":set_root_b:" ++ v) ∧
    a.setRootB.toList = v ++ (utf8 ":set_root_b:" ++ w) ∧
    b.setRootB.toList = w ++ (utf8 ":intersection_root:" ++ r) ∧
    root.toList = r ++ (utf8 ":transcript:" ++ q) ∧
    digest.bytes.toList = q ++ (utf8 ":cardinality:" ++ leBytes 8 card.toNat)

/-- `t` ends before the last colon of the label of the second root of `a`. -/
def EndsBeforeRootB (a b : OverlapAttestation) (t : List UInt8) : Prop :=
  ∃ root card u v w, a.intersectionRoot = some root ∧ a.cardinality = some card ∧
    b.intersectionRoot = none ∧ b.cardinality = none ∧
    a.transcriptDigest = b.transcriptDigest ∧
    t = modeLabel a.mode ++ (a.setRootA.toList ++ utf8 ":set_root_b") ∧
    utf8 ":" ++ a.setRootB.toList = modeLabel b.mode ++ u ∧
    b.setRootA.toList = u ++ (utf8 ":intersection_root:" ++ v) ∧
    root.toList = v ++ (utf8 ":set_root_b:" ++ w) ∧
    b.setRootB.toList = w ++ (utf8 ":cardinality:" ++ leBytes 8 card.toNat)

/-- The identifier of `b` is that of `a` with the beginning of `a`'s outcome written behind
it, and the fields of `b` lie across the others of `a`. All else is the same. -/
structure Absorbs (b a : OverlapAttestation) : Prop where
  version : a.version = b.version
  outcome : ∃ session session' t, a.sessionId = some session ∧ b.sessionId = some session' ∧
    utf8 session' = utf8 session ++ t ∧
    (a.EndsInRootA b t ∨ a.EndsInRootB b t ∨ a.EndsBeforeRootA b t ∨ a.EndsBeforeRootB b t)
  issuedAt : a.issuedAt = b.issuedAt
  expiresAt : a.expiresAt = b.expiresAt
  issuerPubkey : a.issuerPubkey = b.issuerPubkey

/-! ## Reading the pieces back -/

theorem mode_selfDelimiting : Framing.SelfDelimiting modeLabel := by
  have hclash : Framing.Clashes (modeLabel .intersection) (modeLabel .cardinality) := by
    decide +kernel
  refine .of_clashes fun m m' hne => ?_
  cases m with
  | intersection =>
    cases m' with
    | intersection => exact absurd rfl hne
    | cardinality => exact hclash
  | cardinality =>
    cases m' with
    | intersection => exact hclash.symm
    | cardinality => exact absurd rfl hne

theorem issue_read {a b : OverlapAttestation} (h : a.issueBytes = b.issueBytes) :
    a.issuedAt = b.issuedAt ∧ a.expiresAt = b.expiresAt ∧ a.issuerPubkey = b.issuerPubkey := by
  obtain ⟨hissued, h⟩ := Framing.SelfDelimiting.uint64 (List.append_cancel_left h)
  obtain ⟨hexpires, h⟩ := Framing.SelfDelimiting.uint64 (List.append_cancel_left h)
  have hkey := Bytes.toList_injective (List.append_cancel_left h)
  exact ⟨hissued, hexpires, congrArg PublicIdentity.mk hkey⟩

theorem transcript_read {a b : OverlapAttestation}
    (h : a.transcriptDigest.elim [] (fun d => utf8 ":transcript:" ++ d.bytes.toList) =
      b.transcriptDigest.elim [] (fun d => utf8 ":transcript:" ++ d.bytes.toList)) :
    a.transcriptDigest = b.transcriptDigest := by
  have hend : ¬ utf8 ":transcript:" <+: [] :=
    fun h => utf8_ne_nil (by decide) (List.prefix_nil.mp h)
  rw [← List.append_nil (a.transcriptDigest.elim _ _),
    ← List.append_nil (b.transcriptDigest.elim _ _)] at h
  exact (Framing.labelled_read (fun x _ y _ => @TranscriptDigest.bytes_selfDelimiting x y _ _)
    hend hend h).1

/-- The outcome is read from left to right, an optional part being absent where another
label stands, or none. -/
theorem outcome_read {a b : OverlapAttestation} (h : a.outcomeBytes = b.outcomeBytes) :
    a.mode = b.mode ∧ a.setRootA = b.setRootA ∧ a.setRootB = b.setRootB ∧
      a.intersectionRoot = b.intersectionRoot ∧ a.cardinality = b.cardinality ∧
      a.transcriptDigest = b.transcriptDigest := by
  have hroot : ∀ (card : Option UInt64) (digest : Option TranscriptDigest),
      ¬ utf8 ":intersection_root:" <+:
        card.elim [] (fun c => utf8 ":cardinality:" ++ leBytes 8 c.toNat) ++
          digest.elim [] (fun d => utf8 ":transcript:" ++ d.bytes.toList) := by
    intro card digest
    refine Framing.not_prefix_labelled card (by decide +kernel) ?_
    rw [← List.append_nil (digest.elim _ _)]
    exact Framing.not_prefix_labelled digest (by decide +kernel) (by decide +kernel)
  have hcard : ∀ digest : Option TranscriptDigest, ¬ utf8 ":cardinality:" <+:
      digest.elim [] (fun d => utf8 ":transcript:" ++ d.bytes.toList) := by
    intro digest
    rw [← List.append_nil (digest.elim _ _)]
    exact Framing.not_prefix_labelled digest (by decide +kernel) (by decide +kernel)
  obtain ⟨hmode, h⟩ := mode_selfDelimiting h
  obtain ⟨hrootA, h⟩ := Framing.SelfDelimiting.bytes 32 h
  obtain ⟨hrootB, h⟩ := Framing.SelfDelimiting.bytes 32 (List.append_cancel_left h)
  obtain ⟨hintersection, h⟩ := Framing.labelled_read
    (fun x _ y _ => @Framing.SelfDelimiting.bytes 32 x y _ _) (hroot _ _) (hroot _ _) h
  obtain ⟨hcardinality, h⟩ := Framing.labelled_read
    (fun x _ y _ => @Framing.SelfDelimiting.uint64 x y _ _) (hcard _) (hcard _) h
  exact ⟨hmode, hrootA, hrootB, hintersection, hcardinality, transcript_read h⟩

/-! ## Which outcomes can hide in another -/

/-- A label, and so many bytes of any value. -/
def partLayout (label : String) (width : ℕ) : List (Option UInt8) :=
  (utf8 label).map some ++ List.replicate width none

theorem partLayout_fits (label : String) {width : ℕ} {m : List UInt8} (h : m.length = width) :
    Framing.Fits (partLayout label width) (utf8 label ++ m) :=
  (Framing.Fits.fixed _).append (Framing.Fits.free h)

theorem optionalLayout_fits {α : Type} (label : String) {width : ℕ} {f : α → List UInt8}
    (h : ∀ x, (f x).length = width) (o : Option α) :
    Framing.Fits (if o.isSome then partLayout label width else [])
      (o.elim [] (fun x => utf8 label ++ f x)) := by
  cases o with
  | none => exact Framing.Fits.nil
  | some x => exact partLayout_fits label (h x)

/-- The fixed bytes of an outcome, by the parts it has. -/
def outcomeLayout (mode : AttestationMode) (root card digest : Bool) : List (Option UInt8) :=
  (modeLabel mode).map some ++ (List.replicate 32 none ++ (partLayout ":set_root_b:" 32 ++
    ((if root then partLayout ":intersection_root:" 32 else []) ++
      ((if card then partLayout ":cardinality:" 8 else []) ++
        if digest then partLayout ":transcript:" 32 else []))))

theorem outcomeLayout_fits (a : OverlapAttestation) :
    Framing.Fits (outcomeLayout a.mode a.intersectionRoot.isSome a.cardinality.isSome
      a.transcriptDigest.isSome) a.outcomeBytes := by
  have hroot := optionalLayout_fits ":intersection_root:" (Bytes.length_toList (n := 32))
    a.intersectionRoot
  have hcard := optionalLayout_fits ":cardinality:"
    (fun card : UInt64 => length_leBytes 8 card.toNat) a.cardinality
  have hdigest := optionalLayout_fits ":transcript:"
    (fun d : TranscriptDigest => d.bytes.length_toList) a.transcriptDigest
  have hfits := (Framing.Fits.fixed (modeLabel a.mode)).append
    ((Framing.Fits.free a.setRootA.length_toList).append
      ((partLayout_fits ":set_root_b:" a.setRootB.length_toList).append
        (hroot.append (hcard.append hdigest))))
  rw [List.append_assoc (utf8 ":set_root_b:")] at hfits
  exact hfits

/-- The parts that an outcome has, and those of another that may hide in it. -/
def mayHide (root card digest : Bool) (m' : AttestationMode) (root' card' digest' : Bool) : Bool :=
  root && !root' && (card' == !card) && (digest' == digest || digest == !card && digest' == card) &&
    (!card || m' == .cardinality)

theorem mayHide_of_compatible : ∀ m ∈ [AttestationMode.intersection, .cardinality],
    ∀ m' ∈ [AttestationMode.intersection, .cardinality], ∀ root card digest root' card' digest',
      (outcomeLayout m' root' card' digest').length < (outcomeLayout m root card digest).length →
      Framing.compatible ((outcomeLayout m root card digest).drop
        ((outcomeLayout m root card digest).length -
          (outcomeLayout m' root' card' digest').length))
        (outcomeLayout m' root' card' digest') = true →
      mayHide root card digest m' root' card' digest' = true := by
  decide +kernel

theorem length_modeLabel (m : AttestationMode) :
    (modeLabel m).length = if m = .cardinality then 29 else 30 := by
  cases m <;> decide +kernel

theorem modeLabel_bounds (m : AttestationMode) :
    29 ≤ (modeLabel m).length ∧ (modeLabel m).length ≤ 30 := by
  rw [length_modeLabel]
  split_ifs <;> decide

theorem length_rootLabels : (utf8 ":set_root_b:").length = 12 ∧
    (utf8 ":intersection_root:").length = 19 ∧ (utf8 ":cardinality:").length = 13 ∧
    (utf8 ":transcript:").length = 12 ∧ (utf8 ":").length = 1 := by
  decide +kernel

theorem length_outcomeBytes (a : OverlapAttestation) :
    a.outcomeBytes.length = (modeLabel a.mode).length + 76 +
      (if a.intersectionRoot.isSome then 51 else 0) + (if a.cardinality.isSome then 21 else 0) +
      if a.transcriptDigest.isSome then 44 else 0 := by
  obtain ⟨hrootB, hroot, hcard, hdigest, -⟩ := length_rootLabels
  unfold outcomeBytes
  cases a.intersectionRoot <;> cases a.cardinality <;> cases a.transcriptDigest <;>
    simp [hrootB, hroot, hcard, hdigest, Bytes.length_toList]

section Overlaps
variable {a b : OverlapAttestation} {t : List UInt8}

theorem EndsInRootA.outcome_eq (h : a.EndsInRootA b t) : a.outcomeBytes = t ++ b.outcomeBytes := by
  obtain ⟨root, card, hidden, u, v, w, r, ha, hac, hb, hbc, hd, rfl, hA, hA', hB, hB', hR⟩ := h
  simp only [outcomeBytes, ha, hac, hb, hbc, hd, hA, hA', hB, hB', hR, Option.elim_some,
    Option.elim_none, List.append_assoc, List.nil_append]

theorem EndsInRootB.outcome_eq (h : a.EndsInRootB b t) : a.outcomeBytes = t ++ b.outcomeBytes := by
  obtain ⟨root, digest, card, hidden, u, v, w, r, ha, hac, had, hb, hbc, hbd, rfl, hB, hA', hR,
    hB', hT⟩ := h
  simp only [outcomeBytes, ha, hac, had, hb, hbc, hbd, hB, hA', hR, hB', hT, Option.elim_some,
    Option.elim_none, List.append_assoc, List.nil_append, List.append_nil]

/-- The label of a root, up to its last colon, and what stands behind. -/
theorem rootLabel_append (label : String) {root : Bytes 32} {k u : List UInt8}
    (hroot : utf8 ":" ++ root.toList = k ++ u) (s : List UInt8) :
    utf8 (label ++ ":") ++ (root.toList ++ s) = utf8 label ++ (k ++ (u ++ s)) := by
  rw [utf8_append, List.append_assoc, ← List.append_assoc (utf8 ":"), hroot, List.append_assoc]

theorem EndsBeforeRootA.outcome_eq (h : a.EndsBeforeRootA b t) :
    a.outcomeBytes = t ++ b.outcomeBytes := by
  obtain ⟨root, card, digest, u, v, w, r, q, ha, hac, had, hb, hbc, hbd, rfl, hA, hA', hB, hB',
    hR, hT⟩ := h
  have hlabel := rootLabel_append ":set_root_a" hA
  have hstart : ∀ s, modeLabel a.mode ++ (a.setRootA.toList ++ s) = (utf8 ":mode:" ++
      (utf8 a.mode.modeText ++ utf8 ":set_root_a")) ++ (modeLabel b.mode ++ (u ++ s)) := by
    intro s
    rw [modeLabel, List.append_assoc, List.append_assoc, List.append_assoc, List.append_assoc]
    exact congrArg (fun rest => utf8 ":mode:" ++ (utf8 a.mode.modeText ++ rest)) (hlabel s)
  rw [outcomeBytes, hstart]
  simp only [outcomeBytes, ha, hac, had, hb, hbc, hbd, hA', hB, hB', hR, hT, Option.elim_some,
    Option.elim_none, List.append_assoc, List.nil_append, List.append_nil]

theorem EndsBeforeRootB.outcome_eq (h : a.EndsBeforeRootB b t) :
    a.outcomeBytes = t ++ b.outcomeBytes := by
  obtain ⟨root, card, u, v, w, ha, hac, hb, hbc, hd, rfl, hB, hA', hR, hB'⟩ := h
  have hlabel := rootLabel_append ":set_root_b" hB
  rw [outcomeBytes, show utf8 ":set_root_b:" = utf8 (":set_root_b" ++ ":") from rfl, hlabel]
  simp only [outcomeBytes, ha, hac, hb, hbc, hd, hA', hR, hB', Option.elim_some,
    Option.elim_none, List.append_assoc, List.nil_append]

/-! ### Reading one outcome across another

Each step passes one boundary: what remains of a field of one outcome is the label and the
beginning of a field of the other. -/

/-- How long the part is that is taken from the front. -/
theorem length_of_outcome_eq (h : a.outcomeBytes = t ++ b.outcomeBytes) :
    (modeLabel a.mode).length + 76 + (if a.intersectionRoot.isSome then 51 else 0) +
        (if a.cardinality.isSome then 21 else 0) + (if a.transcriptDigest.isSome then 44 else 0) =
      t.length + ((modeLabel b.mode).length + 76 +
        (if b.intersectionRoot.isSome then 51 else 0) + (if b.cardinality.isSome then 21 else 0) +
        if b.transcriptDigest.isSome then 44 else 0) := by
  rw [← length_outcomeBytes, ← length_outcomeBytes, ← List.length_append]
  exact congrArg List.length h

/-- The fields of `b` begin in the first root of `a`. -/
theorem endsInRootA_of_eq {root : Bytes 32} {card : UInt64} (ha : a.intersectionRoot = some root)
    (hac : a.cardinality = none) (hb : b.intersectionRoot = none) (hbc : b.cardinality = some card)
    (hd : b.transcriptDigest.isSome = a.transcriptDigest.isSome)
    (h : a.outcomeBytes = t ++ b.outcomeBytes) : a.EndsInRootA b t := by
  obtain ⟨lrootB, lroot, lcard, -, -⟩ := length_rootLabels
  have lA := a.setRootA.length_toList
  have lB := a.setRootB.length_toList
  have lA' := b.setRootA.length_toList
  have lB' := b.setRootB.length_toList
  have lR := root.length_toList
  have lmode := modeLabel_bounds b.mode
  have lt := length_of_outcome_eq h
  rw [ha, hac, hb, hbc, hd] at lt
  simp only [Option.isSome_some, Option.isSome_none, if_true, Bool.false_eq_true, if_false] at lt
  simp only [outcomeBytes, ha, hac, hb, hbc, Option.elim_some, Option.elim_none, List.append_assoc,
    List.nil_append] at h
  obtain ⟨hidden, ht, h, l0⟩ :=
    Framing.across (y := []) (k := modeLabel a.mode) h.symm (by simp; omega)
  rw [List.nil_append] at ht
  rw [List.length_nil] at l0
  obtain ⟨u, hA, h, l1⟩ := Framing.across h (by omega)
  obtain ⟨v, hA', h, l2⟩ := Framing.across h (by omega)
  obtain ⟨w, hB, h, l3⟩ := Framing.across h (by omega)
  obtain ⟨r, hB', h, l4⟩ := Framing.across h (by omega)
  obtain ⟨m, hR, h, l5⟩ := Framing.across h (by omega)
  obtain ⟨hm, hdigest⟩ := List.append_inj h (by rw [length_leBytes]; omega)
  rw [← hm] at hR
  exact ⟨root, card, hidden, u, v, w, r, ha, hac, hb, hbc, (transcript_read hdigest).symm, ht, hA,
    hA', hB, hB', hR⟩

/-- The fields of `b` begin in the second root of `a`. -/
theorem endsInRootB_of_eq {root : Bytes 32} {digest : TranscriptDigest} {card : UInt64}
    (ha : a.intersectionRoot = some root) (hac : a.cardinality = none)
    (had : a.transcriptDigest = some digest) (hb : b.intersectionRoot = none)
    (hbc : b.cardinality = some card) (hbd : b.transcriptDigest = none)
    (h : a.outcomeBytes = t ++ b.outcomeBytes) : a.EndsInRootB b t := by
  obtain ⟨lrootB, lroot, lcard, ldigest, -⟩ := length_rootLabels
  have lA := a.setRootA.length_toList
  have lB := a.setRootB.length_toList
  have lA' := b.setRootA.length_toList
  have lB' := b.setRootB.length_toList
  have lR := root.length_toList
  have lT := digest.bytes.length_toList
  have lmode := modeLabel_bounds b.mode
  have lt := length_of_outcome_eq h
  rw [ha, hac, had, hb, hbc, hbd] at lt
  simp only [Option.isSome_some, Option.isSome_none, if_true, Bool.false_eq_true, if_false] at lt
  simp only [outcomeBytes, ha, hac, had, hb, hbc, hbd, Option.elim_some, Option.elim_none,
    List.append_assoc, List.nil_append, List.append_nil] at h
  obtain ⟨s, ht, h, l0⟩ := Framing.across (y := []) (k := modeLabel a.mode) h.symm (by simp; omega)
  rw [List.nil_append] at ht
  rw [List.length_nil] at l0
  obtain ⟨hidden, hs, h, l1⟩ := Framing.across h.symm (by omega)
  obtain ⟨u, hB, h, l2⟩ := Framing.across h (by omega)
  obtain ⟨v, hA', h, l3⟩ := Framing.across h (by omega)
  obtain ⟨w, hR, h, l4⟩ := Framing.across h (by omega)
  obtain ⟨r, hB', h, l5⟩ := Framing.across h (by omega)
  exact ⟨root, digest, card, hidden, u, v, w, r, ha, hac, had, hb, hbc, hbd, hs ▸ ht, hB, hA', hR,
    hB', h⟩

/-- The fields of `b` begin one byte before the first root of `a`. -/
theorem endsBeforeRootA_of_eq {root : Bytes 32} {digest : TranscriptDigest} {card : UInt64}
    (ha : a.intersectionRoot = some root) (hac : a.cardinality = some card)
    (had : a.transcriptDigest = none) (hb : b.intersectionRoot = none)
    (hbc : b.cardinality = none) (hbd : b.transcriptDigest = some digest)
    (hmode : b.mode = .cardinality) (h : a.outcomeBytes = t ++ b.outcomeBytes) :
    a.EndsBeforeRootA b t := by
  obtain ⟨lrootB, lroot, lcard, ldigest, lcolon⟩ := length_rootLabels
  have lA := a.setRootA.length_toList
  have lB := a.setRootB.length_toList
  have lA' := b.setRootA.length_toList
  have lB' := b.setRootB.length_toList
  have lR := root.length_toList
  have lT := digest.bytes.length_toList
  have lmode : (modeLabel b.mode).length = 29 := by rw [hmode, length_modeLabel, if_pos rfl]
  have lt := length_of_outcome_eq h
  rw [ha, hac, had, hb, hbc, hbd] at lt
  simp only [Option.isSome_some, Option.isSome_none, if_true, Bool.false_eq_true, if_false] at lt
  have hstart : modeLabel a.mode =
      (utf8 ":mode:" ++ (utf8 a.mode.modeText ++ utf8 ":set_root_a")) ++ utf8 ":" := by
    rw [modeLabel, show utf8 ":set_root_a:" = utf8 ":set_root_a" ++ utf8 ":" from
      utf8_append ":set_root_a" ":"]
    simp only [List.append_assoc]
  have lstart := congrArg List.length hstart
  rw [List.length_append, lcolon] at lstart
  rw [outcomeBytes, hstart, List.append_assoc] at h
  obtain ⟨ht, h⟩ := List.append_inj h.symm (by omega)
  simp only [outcomeBytes, ha, hac, had, hb, hbc, hbd, Option.elim_some, Option.elim_none,
    List.append_assoc, List.nil_append, List.append_nil] at h
  rw [← List.append_assoc (utf8 ":")] at h
  have lA0 : (utf8 ":" ++ a.setRootA.toList).length = 33 := by
    rw [List.length_append, lcolon, lA]
  obtain ⟨u, hA, h, l1⟩ := Framing.across (y := []) (k := modeLabel b.mode) h.symm (by simp; omega)
  rw [List.nil_append] at hA
  rw [List.length_nil] at l1
  obtain ⟨v, hA', h, l2⟩ := Framing.across h (by omega)
  obtain ⟨w, hB, h, l3⟩ := Framing.across h (by omega)
  obtain ⟨r, hB', h, l4⟩ := Framing.across h (by omega)
  obtain ⟨q, hR, h, l5⟩ := Framing.across h (by omega)
  exact ⟨root, card, digest, u, v, w, r, q, ha, hac, had, hb, hbc, hbd, ht, hA, hA', hB, hB', hR,
    h⟩

/-- The fields of `b` begin one byte before the second root of `a`. -/
theorem endsBeforeRootB_of_eq {root : Bytes 32} {card : UInt64}
    (ha : a.intersectionRoot = some root) (hac : a.cardinality = some card)
    (hb : b.intersectionRoot = none) (hbc : b.cardinality = none)
    (hd : b.transcriptDigest.isSome = a.transcriptDigest.isSome)
    (hmode : b.mode = .cardinality) (h : a.outcomeBytes = t ++ b.outcomeBytes) :
    a.EndsBeforeRootB b t := by
  obtain ⟨lrootB, lroot, lcard, -, lcolon⟩ := length_rootLabels
  have lA := a.setRootA.length_toList
  have lB := a.setRootB.length_toList
  have lA' := b.setRootA.length_toList
  have lB' := b.setRootB.length_toList
  have lR := root.length_toList
  have lmode : (modeLabel b.mode).length = 29 := by rw [hmode, length_modeLabel, if_pos rfl]
  have lt := length_of_outcome_eq h
  rw [ha, hac, hb, hbc, hd] at lt
  simp only [Option.isSome_some, Option.isSome_none, if_true, Bool.false_eq_true, if_false] at lt
  have hlabel : utf8 ":set_root_b:" = utf8 ":set_root_b" ++ utf8 ":" :=
    utf8_append ":set_root_b" ":"
  have llabel := congrArg List.length hlabel
  rw [List.length_append, lcolon] at llabel
  have hstart : a.outcomeBytes = (modeLabel a.mode ++ (a.setRootA.toList ++ utf8 ":set_root_b")) ++
      (utf8 ":" ++ (a.setRootB.toList ++
        (a.intersectionRoot.elim [] (fun root => utf8 ":intersection_root:" ++ root.toList) ++
          (a.cardinality.elim [] (fun card => utf8 ":cardinality:" ++ leBytes 8 card.toNat) ++
            a.transcriptDigest.elim [] (fun d => utf8 ":transcript:" ++ d.bytes.toList))))) := by
    rw [outcomeBytes, hlabel]
    simp only [List.append_assoc]
  rw [hstart] at h
  obtain ⟨ht, h⟩ := List.append_inj h.symm (by simp; omega)
  simp only [outcomeBytes, ha, hac, hb, hbc, Option.elim_some, Option.elim_none,
    List.append_assoc, List.nil_append] at h
  rw [← List.append_assoc (utf8 ":")] at h
  have lB0 : (utf8 ":" ++ a.setRootB.toList).length = 33 := by
    rw [List.length_append, lcolon, lB]
  obtain ⟨u, hB, h, l1⟩ := Framing.across (y := []) (k := modeLabel b.mode) h.symm (by simp; omega)
  rw [List.nil_append] at hB
  rw [List.length_nil] at l1
  obtain ⟨v, hA', h, l2⟩ := Framing.across h (by omega)
  obtain ⟨w, hR, h, l3⟩ := Framing.across h (by omega)
  obtain ⟨m, hB', h, l4⟩ := Framing.across h (by omega)
  obtain ⟨hm, hdigest⟩ := List.append_inj h (by rw [length_leBytes]; omega)
  rw [← hm] at hB'
  exact ⟨root, card, u, v, w, ha, hac, hb, hbc, transcript_read hdigest, ht, hB, hA', hR, hB'⟩

/-- One outcome hides in another in these four ways and in no other. -/
theorem hides_iff : t ≠ [] ∧ a.outcomeBytes = t ++ b.outcomeBytes ↔
    a.EndsInRootA b t ∨ a.EndsInRootB b t ∨ a.EndsBeforeRootA b t ∨ a.EndsBeforeRootB b t := by
  constructor
  · rintro ⟨ht, h⟩
    have hmem : ∀ m : AttestationMode, m ∈ [AttestationMode.intersection, .cardinality] := by
      intro m
      cases m <;> simp
    have hpos := List.length_pos_iff.mpr ht
    have hmay := mayHide_of_compatible _ (hmem a.mode) _ (hmem b.mode) _ _ _ _ _ _ (by
      rw [a.outcomeLayout_fits.length, b.outcomeLayout_fits.length, h, List.length_append]
      omega) (a.outcomeLayout_fits.compatible_drop b.outcomeLayout_fits h)
    simp only [mayHide, Bool.and_eq_true, Bool.or_eq_true, beq_iff_eq, Bool.not_eq_true',
      Option.isSome_eq_false_iff, Option.isNone_iff_eq_none] at hmay
    obtain ⟨⟨⟨⟨hroot, hb⟩, hcard⟩, hdigest⟩, hmode⟩ := hmay
    obtain ⟨root, ha⟩ := Option.isSome_iff_exists.mp hroot
    cases hac : a.cardinality with
    | none =>
      rw [hac] at hcard hdigest
      obtain ⟨card, hbc⟩ := Option.isSome_iff_exists.mp hcard
      rcases hdigest with hd | ⟨had, hbd⟩
      · exact .inl (endsInRootA_of_eq ha hac hb hbc hd h)
      · obtain ⟨digest, had⟩ := Option.isSome_iff_exists.mp had
        rw [Option.isSome_none, Option.isSome_eq_false_iff, Option.isNone_iff_eq_none] at hbd
        exact .inr (.inl (endsInRootB_of_eq ha hac had hb hbc hbd h))
    | some card =>
      rw [hac] at hcard hdigest hmode
      rw [Option.isSome_some, Bool.not_true, Option.isSome_eq_false_iff,
        Option.isNone_iff_eq_none] at hcard
      have hmode : b.mode = .cardinality := hmode.resolve_left (by simp)
      rcases hdigest with hd | ⟨had, hbd⟩
      · exact .inr (.inr (.inr (endsBeforeRootB_of_eq ha hac hb hcard hd hmode h)))
      · rw [Option.isSome_some, Bool.not_true, Option.isSome_eq_false_iff,
          Option.isNone_iff_eq_none] at had
        obtain ⟨digest, hbd⟩ := Option.isSome_iff_exists.mp hbd
        exact .inr (.inr (.inl (endsBeforeRootA_of_eq ha hac had hb hcard hbd hmode h)))
  · intro h
    have hlabel : modeLabel a.mode ≠ [] :=
      List.append_ne_nil_of_left_ne_nil (utf8_ne_nil (by decide)) _
    rcases h with h | h | h | h
    · refine ⟨?_, h.outcome_eq⟩
      obtain ⟨root, card, hidden, u, v, w, r, -, -, -, -, -, rfl, -⟩ := h
      exact List.append_ne_nil_of_left_ne_nil hlabel _
    · refine ⟨?_, h.outcome_eq⟩
      obtain ⟨root, digest, card, hidden, u, v, w, r, -, -, -, -, -, -, rfl, -⟩ := h
      exact List.append_ne_nil_of_left_ne_nil hlabel _
    · refine ⟨?_, h.outcome_eq⟩
      obtain ⟨root, card, digest, u, v, w, r, q, -, -, -, -, -, -, rfl, -⟩ := h
      exact List.append_ne_nil_of_left_ne_nil (utf8_ne_nil (by decide)) _
    · refine ⟨?_, h.outcome_eq⟩
      obtain ⟨root, card, u, v, w, -, -, -, -, -, rfl, -⟩ := h
      exact List.append_ne_nil_of_left_ne_nil hlabel _

end Overlaps

/-! ## The whole body -/

/-- Behind the outcome stands a fixed number of bytes, so it is cut off from the end. -/
theorem outcome_issue_read {a b : OverlapAttestation} {t : List UInt8}
    (h : a.outcomeBytes ++ a.issueBytes = t ++ (b.outcomeBytes ++ b.issueBytes)) :
    a.outcomeBytes = t ++ b.outcomeBytes ∧ a.issueBytes = b.issueBytes := by
  rw [← List.append_assoc] at h
  exact List.append_inj' h (by rw [length_issueBytes, length_issueBytes])

theorem session_read {a b : OverlapAttestation} {t : List UInt8} (ht : ¬ utf8 ":session:" <+: t)
    (h : b.sessionBytes = a.sessionBytes ++ t) :
    a.version = b.version ∧ (t = [] ∧ a.sessionId = b.sessionId ∨
      ∃ session session', a.sessionId = some session ∧ b.sessionId = some session' ∧
        utf8 session' = utf8 session ++ t) := by
  rw [sessionBytes, sessionBytes, List.cons_append] at h
  obtain ⟨hversion, hid⟩ := List.cons.inj h
  refine ⟨hversion.symm, ?_⟩
  cases ha : a.sessionId with
  | none =>
    cases hb : b.sessionId with
    | none =>
      rw [ha, hb] at hid
      exact .inl ⟨hid.symm, rfl⟩
    | some session' =>
      rw [ha, hb] at hid
      exact absurd ⟨utf8 session', hid⟩ ht
  | some session =>
    cases hb : b.sessionId with
    | none =>
      rw [ha, hb] at hid
      have hlabel := (List.append_eq_nil_iff.mp (List.append_eq_nil_iff.mp hid.symm).1).1
      exact absurd hlabel (utf8_ne_nil (by decide))
    | some session' =>
      rw [ha, hb] at hid
      simp only [Option.elim_some, List.append_assoc] at hid
      exact .inr ⟨session, session', rfl, rfl, List.append_cancel_left hid⟩

theorem sameClaim_iff {a b : OverlapAttestation} :
    a.SameClaim b ↔ a.sessionBytes = b.sessionBytes ∧
      a.outcomeBytes ++ a.issueBytes = b.outcomeBytes ++ b.issueBytes := by
  constructor
  · intro h
    have hsession : a.sessionBytes = b.sessionBytes := by
      rw [sessionBytes, sessionBytes, h.version, h.sessionId]
    have houtcome : a.outcomeBytes = b.outcomeBytes := by
      rw [outcomeBytes, outcomeBytes, h.mode, h.setRootA, h.setRootB, h.intersectionRoot,
        h.cardinality, h.transcriptDigest]
    have hissue : a.issueBytes = b.issueBytes := by
      rw [issueBytes, issueBytes, h.issuedAt, h.expiresAt, h.issuerPubkey]
    rw [houtcome, hissue]
    exact ⟨hsession, rfl⟩
  · rintro ⟨hsession, hrest⟩
    have hlabel : ¬ utf8 ":session:" <+: [] :=
      fun h => utf8_ne_nil (by decide) (List.prefix_nil.mp h)
    obtain ⟨hversion, hid⟩ := session_read (a := a) (b := b) (t := []) hlabel
      (by rw [List.append_nil, hsession])
    obtain ⟨houtcome, hissue⟩ := outcome_issue_read (t := []) hrest
    obtain ⟨hmode, hrootA, hrootB, hroot, hcard, hdigest⟩ := outcome_read houtcome
    obtain ⟨hissued, hexpires, hkey⟩ := issue_read hissue
    have hsame : a.sessionId = b.sessionId := by
      rcases hid with ⟨-, hid⟩ | ⟨session, session', ha, hb, hutf⟩
      · exact hid
      · rw [ha, hb, utf8_injective (hutf.trans (List.append_nil _))]
    exact ⟨hversion, hsame, hmode, hrootA, hrootB, hroot, hcard, hdigest, hissued, hexpires, hkey⟩

/-- The session can run into the rest only by way of the outcome. -/
theorem runsInto_iff {a b : OverlapAttestation} :
    Framing.RunsInto a.sessionBytes (a.outcomeBytes ++ a.issueBytes) b.sessionBytes
      (b.outcomeBytes ++ b.issueBytes) ↔ b.Absorbs a := by
  constructor
  · rintro ⟨t, ht, hsession, hrest⟩
    obtain ⟨houtcome, hissue⟩ := outcome_issue_read hrest
    obtain ⟨hissued, hexpires, hkey⟩ := issue_read hissue
    have hlabel : ¬ utf8 ":session:" <+: t := by
      intro hlabel
      have hclash : Framing.Clashes (utf8 ":session:") (modeLabel a.mode) := by
        cases a.mode <;> decide +kernel
      refine hclash.not_isPrefix _ (hlabel.trans (?_ : t <+: a.outcomeBytes))
      exact ⟨b.outcomeBytes, houtcome.symm⟩
    obtain ⟨hversion, hid⟩ := session_read hlabel hsession
    rcases hid with ⟨hnil, -⟩ | ⟨session, session', ha, hb, hutf⟩
    · exact absurd hnil ht
    · exact ⟨hversion, ⟨session, session', t, ha, hb, hutf, hides_iff.mp ⟨ht, houtcome⟩⟩, hissued,
        hexpires, hkey⟩
  · rintro ⟨hversion, ⟨session, session', t, ha, hb, hutf, hhides⟩, hissued, hexpires, hkey⟩
    obtain ⟨ht, houtcome⟩ := hides_iff.mpr hhides
    have hissue : a.issueBytes = b.issueBytes := by
      rw [issueBytes, issueBytes, hissued, hexpires, hkey]
    refine ⟨t, ht, ?_, ?_⟩
    · simp [sessionBytes, ha, hb, hutf, hversion]
    · simp [houtcome, hissue]

/-- Two claims are signed as different bodies unless the session identifier of one absorbs
parts of the other's outcome, and then one signature serves for both. -/
theorem claims_distinguished_iff (a b : OverlapAttestation) :
    (¬ a.SameClaim b → a.signingInput ≠ b.signingInput) ↔ ¬ b.Absorbs a ∧ ¬ a.Absorbs b := by
  rw [signingInput_eq, signingInput_eq, Ne, List.append_cancel_left_eq, ← runsInto_iff,
    ← runsInto_iff]
  exact Framing.distinguished_iff sameClaim_iff

/-! ## One signature, two outcomes -/

/-- An attested intersection whose roots spell out the labels of a cardinality. -/
def attestedIntersection : OverlapAttestation :=
  signIntersection .reference 1000 (.fromSeed (filled 7))
    (spelled "A:mode:cardinality:set_root_a:aa") (spelled "BBBBBBBBBBBBBBBBBB:set_root_b:bb")
    (spelled "RRRRRRRRRRR:cardinality:\x05\x00\x00\x00\x00\x00\x00\x00") (some "s") none 3600

/-- The same bytes, read as an attested cardinality in another session. -/
def rereadCardinality : OverlapAttestation :=
  { attestedIntersection with
    sessionId := some "s:mode:intersection:set_root_a:A"
    mode := .cardinality
    setRootA := spelled "aa:set_root_b:BBBBBBBBBBBBBBBBBB"
    setRootB := spelled "bb:intersection_root:RRRRRRRRRRR"
    intersectionRoot := none
    cardinality := some 5 }

theorem intersection_verified_as_cardinality :
    ¬ (¬ attestedIntersection.SameClaim rereadCardinality →
        attestedIntersection.signingInput ≠ rereadCardinality.signingInput) ∧
      attestedIntersection.verify .reference 2000 = .ok () ∧
      rereadCardinality.verify .reference 2000 = .ok () := by
  have hne : ¬ attestedIntersection.SameClaim rereadCardinality :=
    fun h => absurd h.mode (by decide)
  have hinput : attestedIntersection.signingInput = rereadCardinality.signingInput := by
    decide +kernel
  have hverified : attestedIntersection.verify .reference 2000 = .ok () :=
    verify_signIntersection (Crates.reference_proper _) (by decide) _ _ _ _ _
  exact ⟨fun h => h hne hinput, hverified,
    verify_ok_of_signingInput_eq hinput rfl rfl rfl hverified⟩

end OverlapAttestation

end BlindOverlap
