import BlindOverlap.Abort
import BlindOverlap.Reference

/-!
# What an abort receipt's signature fixes

Two texts are signed without their lengths. A NUL ends the session identifier, which may
contain one, and nothing ends the text of the reason.
-/
namespace BlindOverlap

namespace AbortReason

def all : List AbortReason :=
  [.userCancelled, .timeout, .protocolError, .networkError, .resourceExhaustion, .policyViolation,
    .unknown, .custom]

theorem mem_all (reason : AbortReason) : reason ∈ all := by
  cases reason <;> simp [all]

/-- Every reason has a code of its own, ended by a NUL. -/
theorem code_selfDelimiting :
    Framing.SelfDelimiting (fun reason : AbortReason => utf8 reason.code ++ [0]) := by
  have hclash : ∀ a ∈ all, ∀ b ∈ all,
      a ≠ b → Framing.Clashes (utf8 a.code ++ [0]) (utf8 b.code ++ [0]) := by
    decide +kernel
  exact .of_clashes fun a b => hclash a (mem_all a) b (mem_all b)

/-- No end of a code, with the bytes behind it, begins another code. -/
theorem code_tail_clashes : ∀ a ∈ all, ∀ b ∈ all, ∀ mark ∈ [(0 : UInt8), 1],
    ∀ k < (utf8 a.code ++ [0, mark]).length, 0 < k →
      Framing.Clashes ((utf8 a.code ++ [0, mark]).drop k) (utf8 b.code ++ [0]) := by
  decide +kernel

end AbortReason

namespace AbortReceipt

/-- The same statement of an abort. -/
structure SameAbort (r u : AbortReceipt) : Prop where
  sessionId : r.sessionId = u.sessionId
  reason : r.reason = u.reason
  reasonText : r.reasonText = u.reasonText
  issuedAt : r.issuedAt = u.issuedAt
  transcriptDigest : r.transcriptDigest = u.transcriptDigest

/-! ## The payload in pieces -/

def closingBytes (r : AbortReceipt) : List UInt8 :=
  leBytes 8 r.issuedAt.toNat ++ r.transcriptDigest.elim [0] (fun d => 1 :: d.bytes.toList)

/-- What stands behind the session identifier. -/
def afterSession (r : AbortReceipt) : List UInt8 :=
  0 :: (r.issuerPubkey.bytes.toList ++ ((utf8 r.reason.code ++ [0]) ++
    (r.reasonText.elim [0] (fun text => 1 :: utf8 text) ++ r.closingBytes)))

theorem payload_eq (r : AbortReceipt) :
    r.payload = (abortReceiptDomain ++ [0]) ++ (utf8 r.sessionId ++ r.afterSession) := by
  unfold payload computePayload afterSession closingBytes
  simp only [List.append_assoc, List.cons_append, List.nil_append]

/-- Whether a text follows. -/
def textMark (r : AbortReceipt) : UInt8 := if r.reasonText.isSome then 1 else 0

def textBytes (r : AbortReceipt) : List UInt8 := r.reasonText.elim [] utf8

/-- What `u` says of the abort lies behind `front` in the text of `r`. The rest of the two is the
same, or `u` ends in a digest that takes in the time of `r`, or the other way round. -/
def SaidBehind (u r : AbortReceipt) (front : List UInt8) : Prop :=
  (r.textBytes = front ++ (utf8 u.reason.code ++ 0 :: u.textMark :: u.textBytes) ∧
    r.issuedAt = u.issuedAt ∧ r.transcriptDigest = u.transcriptDigest) ∨
  (∃ d hidden, r.transcriptDigest = none ∧ u.transcriptDigest = some d ∧
    r.textBytes = front ++ (utf8 u.reason.code ++ 0 :: u.textMark :: (u.textBytes ++
      (leBytes 8 u.issuedAt.toNat ++ 1 :: hidden))) ∧
    d.bytes.toList = hidden ++ (leBytes 8 r.issuedAt.toNat ++ [0])) ∨
  ∃ d hidden, r.transcriptDigest = some d ∧ u.transcriptDigest = none ∧
    r.textBytes ++ (leBytes 8 r.issuedAt.toNat ++ 1 :: hidden) =
      front ++ (utf8 u.reason.code ++ 0 :: u.textMark :: u.textBytes) ∧
    d.bytes.toList = hidden ++ (leBytes 8 u.issuedAt.toNat ++ [0])

/-- The identifier of `u` is that of `r` and `t` behind it. With the NUL and the key of `u`, `t`
takes in the NUL, the key and the reason of `r` and the beginning of its text, and `u` goes on
in the remainder. -/
def AbsorbsSession (u r : AbortReceipt) : Prop :=
  ∃ t front, t ≠ [] ∧ utf8 u.sessionId = utf8 r.sessionId ++ t ∧
    t ++ 0 :: u.issuerPubkey.bytes.toList =
      0 :: (r.issuerPubkey.bytes.toList ++ (utf8 r.reason.code ++ 0 :: r.textMark :: front)) ∧
    u.SaidBehind r front

/-- The text of `u` is that of `r` with the time and all but the end of the digest written
behind it, and that end is the time of `u` and the mark of an absent digest. -/
def DigestInText (r u : AbortReceipt) : Prop :=
  ∃ text text' d hidden, r.reasonText = some text ∧ u.reasonText = some text' ∧
    r.transcriptDigest = some d ∧ u.transcriptDigest = none ∧
    utf8 text' = utf8 text ++ (leBytes 8 r.issuedAt.toNat ++ 1 :: hidden) ∧
    d.bytes.toList = hidden ++ (leBytes 8 u.issuedAt.toNat ++ [0])

/-- A receipt whose digest has become part of the reason, in the same session. -/
structure TradesDigest (r u : AbortReceipt) : Prop where
  sessionId : r.sessionId = u.sessionId
  reason : r.reason = u.reason
  digest : r.DigestInText u

/-! ## Reading the pieces back -/

theorem closing_read {r u : AbortReceipt} (h : r.closingBytes = u.closingBytes) :
    r.issuedAt = u.issuedAt ∧ r.transcriptDigest = u.transcriptDigest := by
  obtain ⟨hissued, hmark⟩ := Framing.SelfDelimiting.uint64 h
  exact ⟨hissued, TranscriptDigest.bytes_selfDelimiting.marked.injective hmark⟩

theorem length_closingBytes (r : AbortReceipt) :
    r.closingBytes.length = if r.transcriptDigest.isSome then 41 else 9 := by
  unfold closingBytes
  cases r.transcriptDigest with
  | none => simp
  | some d => simp [Bytes.length_toList]

/-- A text runs into what follows it only by taking in a digest. -/
theorem runsInto_closing_iff {r u : AbortReceipt} {text text' : String}
    (hr : r.reasonText = some text) (hu : u.reasonText = some text') :
    Framing.RunsInto (utf8 text) r.closingBytes (utf8 text') u.closingBytes ↔
      r.DigestInText u := by
  constructor
  · rintro ⟨t, ht, htext, hclosing⟩
    have hlength := congrArg List.length hclosing
    have hpos := List.length_pos_iff.mpr ht
    rw [List.length_append, length_closingBytes, length_closingBytes] at hlength
    cases hd : r.transcriptDigest with
    | none =>
      rw [hd] at hlength
      simp only [Option.isSome_none, Bool.false_eq_true, if_false] at hlength
      split_ifs at hlength <;> omega
    | some d =>
      cases hd' : u.transcriptDigest with
      | some d' =>
        rw [hd, hd'] at hlength
        simp only [Option.isSome_some, if_true] at hlength
        omega
      | none =>
        rw [hd, hd'] at hlength
        simp only [Option.isSome_some, Option.isSome_none, if_true, Bool.false_eq_true,
          if_false] at hlength
        -- the time comes first, then the mark of the digest, which `t` reaches beyond
        unfold closingBytes at hclosing
        rw [hd, hd', ← List.take_append_drop 8 t, List.append_assoc] at hclosing
        obtain ⟨htime, hrest⟩ := List.append_inj hclosing (by simp; omega)
        cases hdrop : t.drop 8 with
        | nil =>
          have := congrArg List.length hdrop
          rw [List.length_drop, List.length_nil] at this
          omega
        | cons mark hidden =>
          rw [hdrop] at hrest
          obtain ⟨rfl, hhidden⟩ := List.cons.inj hrest
          refine ⟨text, text', d, hidden, hr, hu, hd, hd', ?_, hhidden⟩
          rw [htext, htime, ← hdrop, List.take_append_drop]
  · rintro ⟨x, y, d, hidden, hx, hy, hd, hd', htext, hhidden⟩
    obtain rfl : text = x := Option.some.inj (hr.symm.trans hx)
    obtain rfl : text' = y := Option.some.inj (hu.symm.trans hy)
    refine ⟨leBytes 8 r.issuedAt.toNat ++ 1 :: hidden, by simp, htext, ?_⟩
    unfold closingBytes
    rw [hd, hd', Option.elim_some, hhidden]
    simp

/-- The reason and what follows it can be divided in one way, or in these two. -/
theorem reason_iff {r u : AbortReceipt} :
    r.reasonText.elim [0] (fun text => 1 :: utf8 text) ++ r.closingBytes =
        u.reasonText.elim [0] (fun text => 1 :: utf8 text) ++ u.closingBytes ↔
      (r.reasonText = u.reasonText ∧ r.closingBytes = u.closingBytes) ∨ r.DigestInText u ∨
        u.DigestInText r := by
  cases hr : r.reasonText with
  | none =>
    cases hu : u.reasonText with
    | none => simp [DigestInText, hr, hu]
    | some text' => simp [DigestInText, hr, hu]
  | some text =>
    cases hu : u.reasonText with
    | none => simp [DigestInText, hr, hu]
    | some text' =>
      rw [← runsInto_closing_iff hr hu, ← runsInto_closing_iff hu hr]
      simp only [Option.elim_some, List.cons_append, List.cons.injEq, true_and,
        Framing.append_eq_append_iff, utf8_injective.eq_iff, Option.some.injEq]

/-- In one session the parts are read back, the reason with what it may have taken in. -/
theorem afterSession_iff {r u : AbortReceipt} (hissuer : r.issuerPubkey = u.issuerPubkey) :
    r.afterSession = u.afterSession ↔ r.reason = u.reason ∧
      ((r.reasonText = u.reasonText ∧ r.closingBytes = u.closingBytes) ∨ r.DigestInText u ∨
        u.DigestInText r) := by
  rw [← reason_iff]
  unfold afterSession
  rw [hissuer]
  constructor
  · intro h
    have h := List.append_cancel_left (List.cons.inj h).2
    exact AbortReason.code_selfDelimiting h
  · rintro ⟨hreason, hrest⟩
    rw [hreason, hrest]

theorem TradesDigest.not_same {r u : AbortReceipt} (h : r.TradesDigest u) :
    r.transcriptDigest ≠ u.transcriptDigest := by
  obtain ⟨text, text', d, hidden, -, -, hd, hd', -⟩ := h.digest
  simp [hd, hd']

/-- What is read in one session. -/
theorem sameSession_iff {r u : AbortReceipt} (hissuer : r.issuerPubkey = u.issuerPubkey) :
    (utf8 r.sessionId = utf8 u.sessionId ∧ r.afterSession = u.afterSession) ↔
      r.SameAbort u ∨ r.TradesDigest u ∨ u.TradesDigest r := by
  rw [afterSession_iff hissuer]
  constructor
  · rintro ⟨hid, hreason, ⟨htext, hclosing⟩ | htrade | htrade⟩
    · obtain ⟨hissued, hdigest⟩ := closing_read hclosing
      exact .inl ⟨utf8_injective hid, hreason, htext, hissued, hdigest⟩
    · exact .inr (.inl ⟨utf8_injective hid, hreason, htrade⟩)
    · exact .inr (.inr ⟨(utf8_injective hid).symm, hreason.symm, htrade⟩)
  · rintro (h | h | h)
    · have hclosing : r.closingBytes = u.closingBytes := by
        rw [closingBytes, closingBytes, h.issuedAt, h.transcriptDigest]
      exact ⟨congrArg utf8 h.sessionId, h.reason, .inl ⟨h.reasonText, hclosing⟩⟩
    · exact ⟨congrArg utf8 h.sessionId, h.reason, .inr (.inl h.digest)⟩
    · exact ⟨congrArg utf8 h.sessionId.symm, h.reason.symm, .inr (.inr h.digest)⟩

/-! ## What an identifier takes in -/

theorem marked_eq (r : AbortReceipt) :
    r.reasonText.elim [0] (fun text => 1 :: utf8 text) = r.textMark :: r.textBytes := by
  unfold textMark textBytes
  cases r.reasonText <;> rfl

theorem textMark_mem (r : AbortReceipt) : r.textMark ∈ [(0 : UInt8), 1] := by
  unfold textMark
  split_ifs <;> simp

section Sessions
variable {r u : AbortReceipt} {t front : List UInt8}

/-- Of two ends of a message the shorter one is cut off from the longer one. -/
theorem end_of_end {x y s s' : List UInt8} (h : x ++ s = y ++ s') (hle : s.length ≤ s'.length) :
    ∃ hidden, s' = hidden ++ s ∧ x = y ++ hidden := by
  have hlength := congrArg List.length h
  simp only [List.length_append] at hlength
  obtain ⟨hidden, hx, hs, -⟩ := Framing.across (k := []) h (by rw [List.length_nil]; omega)
  exact ⟨hidden, hs, hx⟩

/-- Where the text and what follows it can be read once more, behind `front`, the two closings
have one length or one of them is cut off within the digest of the other. -/
theorem saidBehind_iff :
    r.textBytes ++ r.closingBytes = front ++ (utf8 u.reason.code ++
        0 :: u.textMark :: (u.textBytes ++ u.closingBytes)) ↔ u.SaidBehind r front := by
  have hassoc : front ++ (utf8 u.reason.code ++ 0 :: u.textMark ::
      (u.textBytes ++ u.closingBytes)) = (front ++ (utf8 u.reason.code ++
        0 :: u.textMark :: u.textBytes)) ++ u.closingBytes := by
    simp
  rw [hassoc]
  constructor
  · intro h
    by_cases hsome : r.transcriptDigest.isSome = u.transcriptDigest.isSome
    · obtain ⟨htext, hclosing⟩ := List.append_inj' h
        (by rw [length_closingBytes, length_closingBytes, hsome])
      exact .inl ⟨htext, closing_read hclosing⟩
    · cases hr : r.transcriptDigest with
      | none =>
        cases hu : u.transcriptDigest with
        | none => simp [hr, hu] at hsome
        | some d =>
          unfold closingBytes at h
          rw [hr, hu, Option.elim_none, Option.elim_some, ← List.singleton_append (x := 1),
            ← List.append_assoc (leBytes 8 u.issuedAt.toNat),
            ← List.append_assoc _ _ d.bytes.toList] at h
          obtain ⟨hidden, hd, htext⟩ := end_of_end h (by simp [Bytes.length_toList])
          refine .inr (.inl ⟨d, hidden, hr, hu, ?_, hd⟩)
          simpa using htext
      | some d =>
        cases hu : u.transcriptDigest with
        | some d' => simp [hr, hu] at hsome
        | none =>
          unfold closingBytes at h
          rw [hr, hu, Option.elim_none, Option.elim_some, ← List.singleton_append (x := 1),
            ← List.append_assoc (leBytes 8 r.issuedAt.toNat),
            ← List.append_assoc _ _ d.bytes.toList] at h
          obtain ⟨hidden, hd, htext⟩ := end_of_end h.symm (by simp [Bytes.length_toList])
          refine .inr (.inr ⟨d, hidden, hr, hu, ?_, hd⟩)
          simpa using htext.symm
  · rintro (⟨htext, hissued, hdigest⟩ | ⟨d, hidden, hr, hu, htext, hd⟩ |
      ⟨d, hidden, hr, hu, htext, hd⟩)
    · rw [htext, closingBytes, closingBytes, hissued, hdigest]
    · rw [htext, closingBytes, closingBytes, hr, hu, Option.elim_none, Option.elim_some, hd]
      simp
    · rw [← htext, closingBytes, closingBytes, hr, hu, Option.elim_none, Option.elim_some, hd]
      simp

/-- The parts of `u` cannot begin before the text of `r`, the key apart: no end of a reason's
code is read as a reason. -/
theorem afterSession_eq_append_iff (ht : t ≠ []) :
    r.afterSession = t ++ u.afterSession ↔ ∃ front, t ++ 0 :: u.issuerPubkey.bytes.toList =
      0 :: (r.issuerPubkey.bytes.toList ++ (utf8 r.reason.code ++ 0 :: r.textMark :: front)) ∧
      r.textBytes ++ r.closingBytes = front ++ (utf8 u.reason.code ++
        0 :: u.textMark :: (u.textBytes ++ u.closingBytes)) := by
  have hr : r.afterSession = (0 :: (r.issuerPubkey.bytes.toList ++
      (utf8 r.reason.code ++ [0, r.textMark]))) ++ (r.textBytes ++ r.closingBytes) := by
    rw [afterSession, marked_eq]
    simp
  have hu : t ++ u.afterSession = (t ++ 0 :: u.issuerPubkey.bytes.toList) ++
      ((utf8 u.reason.code ++ [0]) ++ u.textMark :: (u.textBytes ++ u.closingBytes)) := by
    rw [afterSession, marked_eq]
    simp
  rw [hr, hu]
  constructor
  · intro h
    rcases List.append_eq_append_iff.mp h with ⟨front, hfront, hrest⟩ | ⟨w, hhead, hrest⟩
    · refine ⟨front, ?_, ?_⟩
      · rw [hfront]
        simp
      · rw [hrest]
        simp
    · have hpos := List.length_pos_iff.mpr ht
      have hw : w = (utf8 r.reason.code ++ [0, r.textMark]).drop t.length := by
        have hlengths : (0 :: r.issuerPubkey.bytes.toList).length + t.length =
            (t ++ 0 :: u.issuerPubkey.bytes.toList).length := by
          simp only [List.length_append, List.length_cons, Bytes.length_toList]
          omega
        rw [← List.cons_append] at hhead
        have hdrop := congrArg (List.drop ((0 :: r.issuerPubkey.bytes.toList).length + t.length))
          hhead
        rw [List.drop_length_add_append, hlengths, List.drop_left] at hdrop
        exact hdrop.symm
      rcases eq_or_ne w [] with rfl | hne
      · refine ⟨[], ?_, ?_⟩
        · simpa using hhead.symm
        · simpa using hrest.symm
      · have hlt : t.length < (utf8 r.reason.code ++ [0, r.textMark]).length := by
          by_contra hge
          exact hne (hw.trans (List.drop_eq_nil_of_le (not_lt.mp hge)))
        have hclash := AbortReason.code_tail_clashes _ (AbortReason.mem_all r.reason) _
          (AbortReason.mem_all u.reason) _ r.textMark_mem _ hlt hpos
        rw [← hw] at hclash
        exact absurd ⟨_, hrest.symm⟩ (hclash.not_isPrefix _)
  · rintro ⟨front, hfront, hrest⟩
    rw [hfront, hrest]
    simp

theorem runsInto_session_iff :
    Framing.RunsInto (utf8 r.sessionId) r.afterSession (utf8 u.sessionId) u.afterSession ↔
      u.AbsorbsSession r := by
  constructor
  · rintro ⟨t, ht, hid, h⟩
    obtain ⟨front, hfront, hsaid⟩ := (afterSession_eq_append_iff ht).mp h
    exact ⟨t, front, ht, hid, hfront, saidBehind_iff.mp hsaid⟩
  · rintro ⟨t, front, ht, hid, hfront, hsaid⟩
    exact ⟨t, ht, hid, (afterSession_eq_append_iff ht).mpr
      ⟨front, hfront, saidBehind_iff.mpr hsaid⟩⟩

end Sessions

/-- Two statements of one issuer are signed as different payloads in all but two cases: a
session identifier absorbs other parts, or a reason takes in a digest. -/
theorem aborts_distinguished_iff {r u : AbortReceipt}
    (hissuer : r.issuerPubkey = u.issuerPubkey) :
    (¬ r.SameAbort u → r.payload ≠ u.payload) ↔
      (¬ u.AbsorbsSession r ∧ ¬ r.AbsorbsSession u) ∧ ¬ r.TradesDigest u ∧ ¬ u.TradesDigest r := by
  rw [payload_eq, payload_eq, Ne, List.append_cancel_left_eq, Framing.append_eq_append_iff,
    sameSession_iff hissuer, not_imp_not, ← runsInto_session_iff,
    ← runsInto_session_iff]
  constructor
  · intro h
    refine ⟨⟨fun habsorbs => ?_, fun habsorbs => ?_⟩, fun htrade => ?_, fun htrade => ?_⟩
    · exact habsorbs.ne (congrArg utf8 (h (.inr (.inl habsorbs))).sessionId)
    · exact habsorbs.ne (congrArg utf8 (h (.inr (.inr habsorbs))).sessionId.symm)
    · exact htrade.not_same (h (.inl (.inr (.inl htrade)))).transcriptDigest
    · exact htrade.not_same (h (.inl (.inr (.inr htrade)))).transcriptDigest.symm
  · rintro ⟨⟨habsorbs, habsorbs'⟩, htrade, htrade'⟩
      ((hsame | htraded | htraded) | habsorbed | habsorbed)
    · exact hsame
    · exact absurd htraded htrade
    · exact absurd htraded htrade'
    · exact absurd habsorbed habsorbs
    · exact absurd habsorbed habsorbs'

/-! ## One signature, two statements -/

/-- A receipt bound to a transcript whose digest ends like a receipt without one. -/
def boundReceipt : AbortReceipt :=
  .new .reference 1699959635 (.fromSeed (filled 7)) "s" .custom (some "left")
    (some ⟨spelled "dddddddddddddddddddddddSSSe\x00\x00\x00\x00\x00"⟩)

/-- The same bytes, read as another reason and no transcript. -/
def unboundReceipt : AbortReceipt :=
  { boundReceipt with
    reasonText := some "leftSSSe\x00\x00\x00\x00\x01ddddddddddddddddddddddd"
    transcriptDigest := none }

theorem bound_verified_as_unbound :
    ¬ (¬ boundReceipt.SameAbort unboundReceipt →
        boundReceipt.payload ≠ unboundReceipt.payload) ∧
      boundReceipt.verify .reference = .ok () ∧ unboundReceipt.verify .reference = .ok () := by
  have hne : ¬ boundReceipt.SameAbort unboundReceipt :=
    fun h => absurd h.transcriptDigest (by decide)
  have hpayload : boundReceipt.payload = unboundReceipt.payload := by decide +kernel
  have hverified : boundReceipt.verify .reference = .ok () :=
    verify_new (Crates.reference_proper _) _ _ _ _ _
  exact ⟨fun h => h hne hpayload, hverified, verify_ok_of_payload_eq hpayload rfl rfl hverified⟩

theorem aborts_distinguished_iff_bound :
    (¬ boundReceipt.SameAbort unboundReceipt → boundReceipt.payload ≠ unboundReceipt.payload) ↔
      (¬ unboundReceipt.AbsorbsSession boundReceipt ∧
        ¬ boundReceipt.AbsorbsSession unboundReceipt) ∧
      ¬ boundReceipt.TradesDigest unboundReceipt ∧ ¬ unboundReceipt.TradesDigest boundReceipt :=
  aborts_distinguished_iff rfl

end AbortReceipt

end BlindOverlap
