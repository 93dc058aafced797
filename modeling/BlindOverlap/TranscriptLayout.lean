import BlindOverlap.Freshness
import BlindOverlap.Reference

/-!
# What a transcript digest binds

Every part but the session identifier is read back from the hashed bytes: nonces and
elements have a fixed width, lists their number in front, absent parts a label of their own.
The identifier has neither a length nor an end.
-/
namespace BlindOverlap

/-- The arguments of a transcript digest. The length of a list is a machine integer. -/
structure TranscriptParts where
  sessionId : String
  initiatorNonce : SessionNonce
  responderNonce : Option SessionNonce
  offerElements : List (Bytes 32)
  replyResponderMasked : Option (List (Bytes 32))
  replyInitiatorDoublyMasked : Option (List (Bytes 32))
  offer_length : offerElements.length < UInt64.size
  responder_length : ∀ elements ∈ replyResponderMasked, elements.length < UInt64.size
  doubly_length : ∀ elements ∈ replyInitiatorDoublyMasked, elements.length < UInt64.size

namespace TranscriptParts

def input (p : TranscriptParts) : List UInt8 :=
  TranscriptDigest.computeInput p.sessionId p.initiatorNonce p.responderNonce p.offerElements
    p.replyResponderMasked p.replyInitiatorDoublyMasked

def digest (K : Crates) (p : TranscriptParts) : TranscriptDigest :=
  .compute K p.sessionId p.initiatorNonce p.responderNonce p.offerElements p.replyResponderMasked
    p.replyInitiatorDoublyMasked

/-- What stands behind the session identifier. -/
def labelledParts (p : TranscriptParts) : List UInt8 :=
  utf8 ":initiator_nonce:" ++ (p.initiatorNonce.bytes.toList ++
    (p.responderNonce.elim [] (fun n => utf8 ":responder_nonce:" ++ n.bytes.toList) ++
      (TranscriptDigest.elementBytes ":offer_elements:" p.offerElements ++
        (p.replyResponderMasked.elim []
            (TranscriptDigest.elementBytes ":reply_responder_masked:") ++
          p.replyInitiatorDoublyMasked.elim []
            (TranscriptDigest.elementBytes ":reply_initiator_doubly_masked:")))))

theorem input_eq (p : TranscriptParts) :
    p.input = (transcriptDomain ++ utf8 ":session:") ++ (utf8 p.sessionId ++ p.labelledParts) := by
  simp only [input, TranscriptDigest.computeInput, labelledParts, List.append_assoc]

/-- The identifier of `q` is that of `p` with the beginning of `p`'s other parts written
behind it, and the remainder of these is made of `q`'s own parts. -/
def Absorbs (q p : TranscriptParts) : Prop :=
  Framing.RunsInto (utf8 p.sessionId) p.labelledParts (utf8 q.sessionId) q.labelledParts

/-! ## Reading the parts back -/

theorem elementBytes_read {label : String} {xs ys : List (Bytes 32)} {s t : List UInt8}
    (hx : xs.length < UInt64.size) (hy : ys.length < UInt64.size)
    (h : TranscriptDigest.elementBytes label xs ++ s =
      TranscriptDigest.elementBytes label ys ++ t) : xs = ys ∧ s = t := by
  simp only [TranscriptDigest.elementBytes, List.append_assoc] at h
  exact (Framing.SelfDelimiting.bytes 32).counted hx hy (List.append_cancel_left h)

/-- An optional list, with what follows it. -/
theorem optionalElements_read {label : String} {xs ys : Option (List (Bytes 32))}
    {s t : List UInt8} (hx : ∀ l ∈ xs, l.length < UInt64.size)
    (hy : ∀ l ∈ ys, l.length < UInt64.size) (hs : ¬ utf8 label <+: s) (ht : ¬ utf8 label <+: t)
    (h : xs.elim [] (TranscriptDigest.elementBytes label) ++ s =
      ys.elim [] (TranscriptDigest.elementBytes label) ++ t) : xs = ys ∧ s = t := by
  have helim : ∀ o : Option (List (Bytes 32)), o.elim [] (TranscriptDigest.elementBytes label) =
      o.elim [] (fun l => utf8 label ++ (leBytes 8 l.length ++ l.flatMap Bytes.toList)) := by
    intro o
    cases o with
    | none => rfl
    | some l => exact List.append_assoc _ _ _
  rw [helim, helim] at h
  refine Framing.labelled_read ?_ hs ht h
  intro l hl m hm hlm
  simp only [List.append_assoc] at hlm
  exact (Framing.SelfDelimiting.bytes 32).counted (hx l hl) (hy m hm) hlm

/-- Behind one session identifier every transcript is written in its own way. -/
theorem eq_of_labelledParts_eq {p q : TranscriptParts} (hid : p.sessionId = q.sessionId)
    (h : p.labelledParts = q.labelledParts) : p = q := by
  have hoffer : ∀ (elements : List (Bytes 32)) (s : List UInt8), ¬ utf8 ":responder_nonce:" <+:
      TranscriptDigest.elementBytes ":offer_elements:" elements ++ s := by
    intro elements s
    simp only [TranscriptDigest.elementBytes, List.append_assoc]
    exact Framing.Clashes.not_isPrefix (by decide +kernel) _
  have hmasked : ∀ o : Option (List (Bytes 32)), ¬ utf8 ":reply_responder_masked:" <+:
      o.elim [] (TranscriptDigest.elementBytes ":reply_initiator_doubly_masked:") := by
    intro o
    cases o with
    | none => decide +kernel
    | some l =>
      simp only [Option.elim_some, TranscriptDigest.elementBytes, List.append_assoc]
      exact Framing.Clashes.not_isPrefix (by decide +kernel) _
  have hend : ¬ utf8 ":reply_initiator_doubly_masked:" <+: [] := by decide +kernel
  obtain ⟨hinitiator, h⟩ := SessionNonce.bytes_selfDelimiting (List.append_cancel_left h)
  obtain ⟨hresponder, h⟩ := Framing.labelled_read
    (fun x _ y _ => @SessionNonce.bytes_selfDelimiting x y _ _) (hoffer _ _) (hoffer _ _) h
  obtain ⟨helements, h⟩ := elementBytes_read p.offer_length q.offer_length h
  obtain ⟨hmaskedEq, h⟩ := optionalElements_read p.responder_length q.responder_length
    (hmasked _) (hmasked _) h
  rw [← List.append_nil (p.replyInitiatorDoublyMasked.elim _ _),
    ← List.append_nil (q.replyInitiatorDoublyMasked.elim _ _)] at h
  obtain ⟨hdoubly, -⟩ := optionalElements_read p.doubly_length q.doubly_length hend hend h
  cases p
  cases q
  simp only [TranscriptParts.mk.injEq]
  exact ⟨hid, hinitiator, hresponder, helements, hmaskedEq, hdoubly⟩

/-- Two transcripts are hashed differently unless the session identifier of one absorbs
parts of the other, and then they are hashed alike. -/
theorem digests_distinguished_iff (p q : TranscriptParts) :
    ((p ≠ q → p.input ≠ q.input) ↔ ¬ q.Absorbs p ∧ ¬ p.Absorbs q) ∧
      ∀ K : Crates, K.CollisionFree {p.input, q.input} →
        ((p ≠ q → p.digest K ≠ q.digest K) ↔ ¬ q.Absorbs p ∧ ¬ p.Absorbs q) := by
  have hinput : (p ≠ q → p.input ≠ q.input) ↔ ¬ q.Absorbs p ∧ ¬ p.Absorbs q := by
    have hread : p = q ↔ utf8 p.sessionId = utf8 q.sessionId ∧
        p.labelledParts = q.labelledParts := by
      constructor
      · rintro rfl
        exact ⟨rfl, rfl⟩
      · rintro ⟨hid, hparts⟩
        exact eq_of_labelledParts_eq (utf8_injective hid) hparts
    rw [input_eq, input_eq, Ne, Ne, List.append_cancel_left_eq]
    exact Framing.distinguished_iff hread
  refine ⟨hinput, fun K hfree => ?_⟩
  have hdigest : p.digest K = q.digest K ↔ p.input = q.input := by
    constructor
    · intro h
      exact hfree (.inl rfl) (.inr rfl) (congrArg TranscriptDigest.bytes h)
    · intro h
      exact congrArg (fun i => TranscriptDigest.mk (K.sha256 i)) h
  rw [Ne, Ne, hdigest]
  exact hinput

/-- An offer of three elements, which spell out another offer behind the first of them. -/
def offeredThree : TranscriptParts where
  sessionId := ""
  initiatorNonce := ⟨spelled "NNNNNNNNNNNNNNNNNNNNNNNNNNNNNNNN"⟩
  responderNonce := none
  offerElements := [spelled "chosen-by-the-peer-here:initiato",
    spelled "r_nonce:MMMMMMMMMMMMMMMMMMMMMMMM",
    spelled "MMMMMMMM:offer_elements:\x00\x00\x00\x00\x00\x00\x00\x00"]
  replyResponderMasked := none
  replyInitiatorDoublyMasked := none
  offer_length := by decide
  responder_length := by simp
  doubly_length := by simp

/-- The same bytes with no element at all, the others being part of the identifier. -/
def offeredNone : TranscriptParts where
  sessionId := ":initiator_nonce:NNNNNNNNNNNNNNNNNNNNNNNNNNNNNNNN:offer_elements:" ++
    "\x03\x00\x00\x00\x00\x00\x00\x00chosen-by-the-peer-here"
  initiatorNonce := ⟨spelled "MMMMMMMMMMMMMMMMMMMMMMMMMMMMMMMM"⟩
  responderNonce := none
  offerElements := []
  replyResponderMasked := none
  replyInitiatorDoublyMasked := none
  offer_length := by decide
  responder_length := by simp
  doubly_length := by simp

theorem three_hashed_as_none :
    ¬ (offeredThree ≠ offeredNone → offeredThree.input ≠ offeredNone.input) := by
  have hne : offeredThree ≠ offeredNone := by
    intro h
    exact absurd (congrArg (fun p => p.offerElements.length) h) (by decide)
  have hinput : offeredThree.input = offeredNone.input := by decide +kernel
  exact fun h => h hne hinput

/-! ## What an identifier can absorb -/

/-- The parts that every transcript opens with. -/
def opening (p : TranscriptParts) : List UInt8 :=
  utf8 ":initiator_nonce:" ++ p.initiatorNonce.bytes.toList

/-- How many bytes the parts take up that depend on the transcript. -/
def size (p : TranscriptParts) : ℕ :=
  (if p.responderNonce.isSome then 49 else 0) + 32 * p.offerElements.length +
    p.replyResponderMasked.elim 0 (fun l => 32 + 32 * l.length) +
    p.replyInitiatorDoublyMasked.elim 0 (fun l => 39 + 32 * l.length)

/-- The identifier of `q` is that of `p` and goes on with the label and the nonce that follow it
there, over as many bytes as the parts of `q` are shorter than those of `p`. -/
def Extends (q p : TranscriptParts) : Prop :=
  ∃ t, utf8 q.sessionId = utf8 p.sessionId ++ t ∧ utf8 ":initiator_nonce" <+: t ∧
    (t <+: p.opening ∨ p.opening <+: t) ∧ t.length + q.size = p.size

theorem length_labelledParts (p : TranscriptParts) : p.labelledParts.length = 73 + p.size := by
  have hlabels : (utf8 ":initiator_nonce:").length = 17 ∧
      (utf8 ":responder_nonce:").length = 17 ∧ (utf8 ":offer_elements:").length = 16 ∧
      (utf8 ":reply_responder_masked:").length = 24 ∧
      (utf8 ":reply_initiator_doubly_masked:").length = 31 := by
    decide +kernel
  obtain ⟨hinitiator, hresponder, hoffer, hmasked, hdoubly⟩ := hlabels
  have helements : ∀ l : List (Bytes 32), (l.flatMap Bytes.toList).length = 32 * l.length := by
    intro l
    simp [List.length_flatMap, Bytes.length_toList, Nat.mul_comm]
  unfold labelledParts size TranscriptDigest.elementBytes
  cases p.responderNonce <;> cases p.replyResponderMasked <;>
    cases p.replyInitiatorDoublyMasked <;>
    simp [hinitiator, hresponder, hoffer, hmasked, hdoubly, helements, Bytes.length_toList] <;>
    omega

/-- An identifier absorbs what follows another one only by extending it. -/
theorem Absorbs.extends {p q : TranscriptParts} (h : q.Absorbs p) : q.Extends p := by
  obtain ⟨t, ht, hid, hparts⟩ := h
  have hlabel : utf8 ":initiator_nonce" <+: t :=
    Framing.take_prefix_of_shift (n := 16) ht (by decide +kernel) hparts
  have hopening : p.opening <+: p.labelledParts := by
    rw [labelledParts, ← List.append_assoc]
    exact List.prefix_append _ _
  refine ⟨t, hid, hlabel, List.prefix_or_prefix_of_prefix ⟨_, hparts.symm⟩ hopening, ?_⟩
  have hlength := congrArg List.length hparts
  rw [List.length_append, length_labelledParts, length_labelledParts] at hlength
  omega

/-- Transcripts of which neither extends the identifier of the other are hashed differently. -/
theorem transcripts_distinguished (p q : TranscriptParts) (hq : ¬ q.Extends p)
    (hp : ¬ p.Extends q) :
    (p ≠ q → p.input ≠ q.input) ∧
      ∀ K : Crates, K.CollisionFree {p.input, q.input} → p ≠ q → p.digest K ≠ q.digest K := by
  have habsorbs : ¬ q.Absorbs p ∧ ¬ p.Absorbs q :=
    ⟨fun h => hq h.extends, fun h => hp h.extends⟩
  obtain ⟨hinput, hdigest⟩ := digests_distinguished_iff p q
  exact ⟨hinput.mpr habsorbs, fun K hfree => (hdigest K hfree).mpr habsorbs⟩

/-- The same offer in a session of its own is hashed differently. -/
theorem transcripts_distinguished_offers :
    offeredThree.digest .reference ≠
      TranscriptParts.digest .reference { offeredNone with sessionId := "" } := by
  have hne : offeredThree ≠ { offeredNone with sessionId := "" } := by
    intro h
    exact absurd (congrArg (fun p => p.offerElements.length) h) (by decide)
  have hlabel : ¬ utf8 ":initiator_nonce" <+: [] := by decide +kernel
  refine (transcripts_distinguished offeredThree { offeredNone with sessionId := "" } ?_ ?_).2
    .reference (Crates.collisionFree_pair (by decide +kernel)) hne
  · rintro ⟨t, hid, ht, -⟩
    obtain rfl := List.self_eq_append_right.mp hid
    exact hlabel ht
  · rintro ⟨t, hid, ht, -⟩
    obtain rfl := List.self_eq_append_right.mp hid
    exact hlabel ht

end TranscriptParts

end BlindOverlap
