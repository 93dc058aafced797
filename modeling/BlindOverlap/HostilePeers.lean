import BlindOverlap.Lifecycle

/-!
# Results against any peer

The elements a peer sends are compared with one another only; the identifiers come from
the session. So a result is well-formed whatever the peer sends, and it counts the same
in both modes.
-/
namespace BlindOverlap

/-- A result of the asked mode that says nothing but what can be true of the own set. -/
def PsiResult.Sound (K : Crates) (own : FactSet) : IntersectionMode → PsiResult → Prop
  | .intersection, .intersection ids root =>
    ids.Pairwise (· < ·) ∧ (∀ id ∈ ids, id ∈ own.ids) ∧ root = (FactSet.fromIds K ids).root
  | .cardinality, .cardinality count => count ≤ own.len
  | _, _ => False

def PsiResult.size : PsiResult → ℕ
  | .intersection ids _ => ids.length
  | .cardinality count => count

section Compared
variable {K : Crates} {own theirs : List MaskedElement} {s : FactSet}

/-- What is matched stands in ascending order already. -/
theorem insertionSort_matched (own theirs : List MaskedElement) (s : FactSet) :
    (matchedByPosition own theirs s.idList).insertionSort (· ≤ ·) =
      matchedByPosition own theirs s.idList := by
  have hascending := s.ids.ascending.sublist (matchedByPosition_sublist own theirs s.idList)
  exact (hascending.imp le_of_lt).insertionSort_eq

theorem intersectMasked_sound (hcount : own.length = s.idList.length) (mode : IntersectionMode) :
    (intersectMasked K own theirs s.idList mode).Sound K s mode := by
  have hmatched := matchedByPosition_sublist own theirs s.idList
  cases mode with
  | intersection =>
    simp only [intersectMasked, insertionSort_matched]
    exact ⟨s.ids.ascending.sublist hmatched, fun id hid => hmatched.subset hid, rfl⟩
  | cardinality =>
    simp only [intersectMasked, ← length_matchedByPosition hcount.le]
    exact hmatched.length_le

theorem size_intersectMasked (hcount : own.length = s.idList.length) (mode : IntersectionMode) :
    (intersectMasked K own theirs s.idList mode).size =
      (intersectMasked K own theirs s.idList .intersection).size := by
  cases mode with
  | intersection => rfl
  | cardinality =>
    simp only [intersectMasked, PsiResult.size, insertionSort_matched,
      length_matchedByPosition hcount.le]

end Compared

namespace InitiatorSession

/-- The same session with another mode, everything else being equal. -/
def inMode (mode : IntersectionMode) (s : InitiatorSession) : InitiatorSession :=
  { s with mode := mode }

@[simp] theorem inMode_self (s : InitiatorSession) : s.inMode s.mode = s := rfl

theorem processReply_inMode_next (K : Crates) (now : UInt64) (s : InitiatorSession)
    (reply : MaskedSetReply) (mode : IntersectionMode) :
    ((s.inMode mode).processReply K now reply).next =
      (s.processReply K now reply).next.inMode mode := by
  have hcheck : (s.inMode mode).checkReply now reply = s.checkReply now reply := rfl
  have hcount : (s.inMode mode).ourCount = s.ourCount := rfl
  cases hc : s.checkReply now reply with
  | error e => simp [processReply, hcheck, hc]
  | ok u =>
    by_cases hn : reply.initiatorDoublyMasked.length = s.ourCount
    · simp only [processReply, hcheck, hc, noteResponderNonce_ourCount, hcount, hn, ne_eq,
        not_true_eq_false, if_false]
      rfl
    · simp only [processReply, hcheck, hc, noteResponderNonce_ourCount, hcount, hn, ne_eq,
        not_false_eq_true, if_true]
      rfl

/-- A signed message finds its reply, or changes the session by its signer at most. -/
theorem processReplySigned_inMode_next (K : Crates) (now : UInt64) (s : InitiatorSession)
    (signed : SignedWireMessage) (mode : IntersectionMode) :
    ((s.inMode mode).processReplySigned K now signed).next =
      (s.processReplySigned K now signed).next.inMode mode := by
  have hcheck : Session.checkSigner K (s.inMode mode).channelBinding (s.inMode mode).config signed =
      Session.checkSigner K s.channelBinding s.config signed := rfl
  have hnoted : (s.inMode mode).noteSigner signed = (s.noteSigner signed).inMode mode := rfl
  cases hc : Session.checkSigner K s.channelBinding s.config signed with
  | error e => simp [processReplySigned, hcheck, hc]
  | ok u =>
    simp only [processReplySigned, hcheck, hc, hnoted]
    cases signed.message with
    | reply reply => exact processReply_inMode_next K now (s.noteSigner signed) reply mode
    | offer m => rfl
    | reveal m => rfl
    | abort m => rfl

/-- No call makes the rest of a session depend on its mode. -/
theorem machine_inMode_next (K : Crates) (mode : IntersectionMode) (s : InitiatorSession)
    (op : InitiatorOp) :
    (machine K (s.inMode mode) op).next = (machine K s op).next.inMode mode := by
  have hoffer : ((s.inMode mode).generateOffer K).next = (s.generateOffer K).next.inMode mode := by
    unfold generateOffer
    change Step.next (if s.state ≠ .created then _ else _) = _
    split_ifs <;> rfl
  cases op with
  | generateOffer => exact hoffer
  | generateOfferSigned identity => exact hoffer
  | processReply now reply => exact processReply_inMode_next K now s reply mode
  | processReplySigned now signed => exact processReplySigned_inMode_next K now s signed mode
  | generateReveal now drawn => rfl
  | generateRevealSigned now drawn identity => rfl

/-- A call that gives a result compares as many elements as this side has sent, with any
others; only the comparison looks at the mode. -/
theorem machine_compares {K : Crates} {s : InitiatorSession} {op : InitiatorOp} {r : PsiResult}
    (h : (machine K s op).output = .ok (.result r)) :
    s.state ≠ .created ∧ ∃ own theirs : List MaskedElement, own.length = s.ourCount ∧
      ∀ mode, (machine K (s.inMode mode) op).output =
        .ok (.result (intersectMasked K own theirs s.originalIds mode)) := by
  have hsome : (succeeded SessionOutput.result? (machine K s op).output).isSome = true := by
    rw [h]
    rfl
  have hstate : s.state ≠ .created := by
    rw [(machine_result hsome).1]
    simp
  refine ⟨hstate, ?_⟩
  cases op with
  | processReply now reply =>
    obtain ⟨r', hr', -⟩ := succeeded_map_isSome hsome
    obtain ⟨ha, -⟩ := processReply_ok hr'
    refine ⟨reply.initiatorDoublyMasked, Session.maskReceived K s.secret reply.responderMasked,
      ha.count, fun mode => ?_⟩
    have ha' : (s.inMode mode).AcceptsReply now reply :=
      ⟨⟨ha.state, ha.sessionId, ha.fresh⟩, ha.count⟩
    simp only [machine, Step.mapOk_output, processReply_of_accepts ha']
    rfl
  | processReplySigned now signed =>
    obtain ⟨r', hr', -⟩ := succeeded_map_isSome hsome
    obtain ⟨hc, reply, hm, ha, -⟩ := processReplySigned_ok hr'
    refine ⟨reply.initiatorDoublyMasked, Session.maskReceived K s.secret reply.responderMasked,
      ha.count, fun mode => ?_⟩
    have ha' : ((s.inMode mode).noteSigner signed).AcceptsReply now reply :=
      ⟨⟨ha.state, ha.sessionId, ha.fresh⟩, ha.count⟩
    have hc' : Session.checkSigner K (s.inMode mode).channelBinding (s.inMode mode).config signed =
        .ok () := hc
    simp only [machine, Step.mapOk_output, processReplySigned, hc', hm,
      processReply_of_accepts ha']
    rfl
  | generateOffer =>
    obtain ⟨m, -, hm⟩ := succeeded_map_isSome hsome
    cases hm
  | generateOfferSigned identity =>
    obtain ⟨m, -, hm⟩ := succeeded_map_isSome hsome
    cases hm
  | generateReveal now drawn =>
    obtain ⟨m, -, hm⟩ := succeeded_map_isSome hsome
    cases hm
  | generateRevealSigned now drawn identity =>
    obtain ⟨m, -, hm⟩ := succeeded_map_isSome hsome
    cases hm

end InitiatorSession

namespace ResponderSession

/-- The same session with another mode, everything else being equal. -/
def inMode (mode : IntersectionMode) (s : ResponderSession) : ResponderSession :=
  { s with mode := mode }

@[simp] theorem inMode_self (s : ResponderSession) : s.inMode s.mode = s := rfl

theorem processOfferAndReply_inMode_next (K : Crates) (now sentAt : UInt64) (drawn : SessionNonce)
    (s : ResponderSession) (offer : MaskedSetOffer) (mode : IntersectionMode) :
    ((s.inMode mode).processOfferAndReply K now sentAt drawn offer).next =
      (s.processOfferAndReply K now sentAt drawn offer).next.inMode mode := by
  have hcheck : (s.inMode mode).checkOffer now offer = s.checkOffer now offer := rfl
  cases hc : s.checkOffer now offer with
  | error e => simp [processOfferAndReply, hcheck, hc]
  | ok u =>
    simp only [processOfferAndReply, hcheck, hc]
    rfl

theorem processReveal_inMode_next (K : Crates) (now : UInt64) (s : ResponderSession)
    (reveal : IntersectionReveal) (mode : IntersectionMode) :
    ((s.inMode mode).processReveal K now reveal).next =
      (s.processReveal K now reveal).next.inMode mode := by
  have hcheck : (s.inMode mode).checkReveal now reveal = s.checkReveal now reveal := rfl
  have hcount : (s.inMode mode).ourCount = s.ourCount := rfl
  have htheirs : (s.inMode mode).initiatorDoublyMasked = s.initiatorDoublyMasked := rfl
  cases hc : s.checkReveal now reveal with
  | error e => simp [processReveal, hcheck, hc]
  | ok u =>
    by_cases hn : reveal.responderDoublyMasked.length = s.ourCount
    · cases ht : s.initiatorDoublyMasked with
      | none => simp [processReveal, hcheck, hc, hcount, hn, htheirs, ht]
      | some theirs =>
        simp only [processReveal, hcheck, hc, hcount, hn, htheirs, ht, ne_eq,
          not_true_eq_false, if_false]
        rfl
    · simp [processReveal, hcheck, hc, hcount, hn]

/-- No call makes the rest of a session depend on its mode. -/
theorem machine_inMode_next (K : Crates) (mode : IntersectionMode) (s : ResponderSession)
    (op : ResponderOp) :
    (machine K (s.inMode mode) op).next = (machine K s op).next.inMode mode := by
  have hsigner : ∀ signed,
      Session.checkSigner K (s.inMode mode).channelBinding (s.inMode mode).config signed =
        Session.checkSigner K s.channelBinding s.config signed := fun _ => rfl
  have hnoted : ∀ signed, (s.inMode mode).noteSigner signed = (s.noteSigner signed).inMode mode :=
    fun _ => rfl
  cases op with
  | processOfferAndReply now sentAt drawn offer =>
    exact processOfferAndReply_inMode_next K now sentAt drawn s offer mode
  | processOfferAndReplySigned now sentAt drawn identity signed =>
    cases hc : Session.checkSigner K s.channelBinding s.config signed with
    | error e => simp [machine, processOfferAndReplySigned, hsigner, hc]
    | ok u =>
      simp only [machine, processOfferAndReplySigned, hsigner, hc, hnoted]
      cases signed.message with
      | offer offer =>
        exact processOfferAndReply_inMode_next K now sentAt drawn (s.noteSigner signed) offer mode
      | reply m => rfl
      | reveal m => rfl
      | abort m => rfl
  | processReveal now reveal => exact processReveal_inMode_next K now s reveal mode
  | processRevealSigned now signed =>
    cases hc : Session.checkSigner K s.channelBinding s.config signed with
    | error e => simp [machine, processRevealSigned, hsigner, hc]
    | ok u =>
      simp only [machine, processRevealSigned, hsigner, hc]
      cases signed.message with
      | reveal reveal => exact processReveal_inMode_next K now s reveal mode
      | offer m => rfl
      | reply m => rfl
      | abort m => rfl

theorem WellFormed.ourCount {s : ResponderSession} (h : s.WellFormed) (hs : s.state ≠ .created) :
    s.ourCount = s.originalIds.length := by
  obtain ⟨⟨m, hm, hlength⟩, -⟩ := h.offer_some hs
  simp [ResponderSession.ourCount, hm, hlength]

theorem processReveal_inMode_output {K : Crates} {now : UInt64} {s : ResponderSession}
    {reveal : IntersectionReveal} {r : PsiResult}
    (h : (s.processReveal K now reveal).output = .ok r) :
    ∃ theirs, ∀ mode, ((s.inMode mode).processReveal K now reveal).output =
      .ok (intersectMasked K reveal.responderDoublyMasked theirs s.originalIds mode) := by
  obtain ⟨e, -, he⟩ | ⟨-, -, he⟩ | ⟨-, -, he⟩ | ⟨ha, theirs, ht, -⟩ :=
    processReveal_cases K now s reveal
  · simp [he] at h
  · simp [he] at h
  · simp [he] at h
  · refine ⟨theirs, fun mode => ?_⟩
    have ha' : (s.inMode mode).AcceptsReveal now reveal :=
      ⟨⟨ha.state, ha.sessionId, ha.fresh⟩, ha.count⟩
    rw [processReveal_of_accepts ha' ht]
    rfl

/-- A call that gives a result compares as many elements as this side has sent, with any
others; only the comparison looks at the mode. -/
theorem machine_compares {K : Crates} {s : ResponderSession} {op : ResponderOp} {r : PsiResult}
    (h : (machine K s op).output = .ok (.result r)) :
    s.state ≠ .created ∧ ∃ own theirs : List MaskedElement, own.length = s.ourCount ∧
      ∀ mode, (machine K (s.inMode mode) op).output =
        .ok (.result (intersectMasked K own theirs s.originalIds mode)) := by
  have hsome : (succeeded SessionOutput.result? (machine K s op).output).isSome = true := by
    rw [h]
    rfl
  have hstate : s.state ≠ .created := by
    rw [(machine_result hsome).1]
    simp
  refine ⟨hstate, ?_⟩
  cases op with
  | processReveal now reveal =>
    obtain ⟨r', hr', -⟩ := succeeded_map_isSome hsome
    obtain ⟨ha, -⟩ := processReveal_ok hr'
    obtain ⟨theirs, houtput⟩ := processReveal_inMode_output hr'
    refine ⟨reveal.responderDoublyMasked, theirs, ha.count, fun mode => ?_⟩
    simp only [machine, Step.mapOk_output, houtput, Except.map]
  | processRevealSigned now signed =>
    obtain ⟨r', hr', -⟩ := succeeded_map_isSome hsome
    obtain ⟨hc, reveal, hm, ha, -⟩ := processRevealSigned_ok hr'
    have hplain : ∀ mode, (s.inMode mode).processRevealSigned K now signed =
        (s.inMode mode).processReveal K now reveal := by
      intro mode
      have hc' : Session.checkSigner K (s.inMode mode).channelBinding (s.inMode mode).config
          signed = .ok () := hc
      simp only [processRevealSigned, hc', hm]
    rw [← inMode_self s, hplain] at hr'
    obtain ⟨theirs, houtput⟩ := processReveal_inMode_output hr'
    refine ⟨reveal.responderDoublyMasked, theirs, ha.count, fun mode => ?_⟩
    simp only [machine, Step.mapOk_output, hplain, Except.map]
    exact congrArg (Except.map SessionOutput.result) (houtput mode)
  | processOfferAndReply now sentAt drawn offer =>
    obtain ⟨m, -, hm⟩ := succeeded_map_isSome hsome
    cases hm
  | processOfferAndReplySigned now sentAt drawn identity signed =>
    obtain ⟨m, -, hm⟩ := succeeded_map_isSome hsome
    cases hm

end ResponderSession

/-! ## Whole runs -/

/-- A result that is sound for the own set, in agreement with the one that the same calls
give in intersection mode. -/
def ResultOfRun (K : Crates) (own : FactSet) (mode : IntersectionMode) (result : PsiResult)
    (inIntersection : Except SessionError SessionOutput) : Prop :=
  result.Sound K own mode ∧ ∃ ids root,
    inIntersection = .ok (.result (.intersection ids root)) ∧ result.size = ids.length

theorem resultOfRun_intersectMasked {K : Crates} {own theirs : List MaskedElement} {s : FactSet}
    (hcount : own.length = s.idList.length) (mode : IntersectionMode) :
    ResultOfRun K s mode (intersectMasked K own theirs s.idList mode)
      (.ok (.result (intersectMasked K own theirs s.idList .intersection))) :=
  ⟨intersectMasked_sound hcount mode, _, _, rfl, size_intersectMasked hcount mode⟩

/-- Whatever a session is given before and whatever the peer sends, a result it returns is
sound, and its size does not depend on the mode. -/
theorem hostile_peer_results_sound (K : Crates) :
    (∀ s, InitiatorSession.Constructed K s → ∀ ops op result,
      (InitiatorSession.machine K ((InitiatorSession.machine K).final s ops) op).output =
        .ok (.result result) →
      ResultOfRun K s.factSet s.mode result
        (InitiatorSession.machine K
          ((InitiatorSession.machine K).final (s.inMode .intersection) ops) op).output) ∧
    ∀ s, ResponderSession.Constructed K s → ∀ ops op result,
      (ResponderSession.machine K ((ResponderSession.machine K).final s ops) op).output =
        .ok (.result result) →
      ResultOfRun K s.factSet s.mode result
        (ResponderSession.machine K
          ((ResponderSession.machine K).final (s.inMode .intersection) ops) op).output := by
  constructor
  · intro s hs ops op result h
    have hbasis := InitiatorSession.final_sameBasis K s ops
    have hids : s.originalIds = s.factSet.idList := by
      obtain ⟨_, _, _, _, _, _, _, -, rfl⟩ := hs.exists_created
      rfl
    obtain ⟨hstate, own, theirs, hcount, houtput⟩ := InitiatorSession.machine_compares h
    rw [(hs.wellFormed.final K ops).ourCount hstate, hbasis.originalIds, hids] at hcount
    rw [hbasis.originalIds, hids] at houtput
    have hresult := h.symm.trans (houtput ((InitiatorSession.machine K).final s ops).mode)
    rw [hbasis.mode] at hresult
    cases hresult
    rw [(InitiatorSession.machine K).final_map _ (InitiatorSession.machine_inMode_next K _),
      houtput]
    exact resultOfRun_intersectMasked hcount s.mode
  · intro s hs ops op result h
    have hbasis := ResponderSession.final_sameBasis K s ops
    have hids : s.originalIds = s.factSet.idList := by
      obtain ⟨_, _, _, _, _, _, -, rfl⟩ := hs.exists_created
      rfl
    obtain ⟨hstate, own, theirs, hcount, houtput⟩ := ResponderSession.machine_compares h
    rw [(hs.wellFormed.final K ops).ourCount hstate, hbasis.originalIds, hids] at hcount
    rw [hbasis.originalIds, hids] at houtput
    have hresult := h.symm.trans (houtput ((ResponderSession.machine K).final s ops).mode)
    rw [hbasis.mode] at hresult
    cases hresult
    rw [(ResponderSession.machine K).final_map _ (ResponderSession.machine_inMode_next K _),
      houtput]
    exact resultOfRun_intersectMasked hcount s.mode

/-- The count stands although the reply carries elements that nobody masked. -/
theorem hostile_peer_results_sound_unmasked :
    ResultOfRun .reference samplePartyA.factSet .intersection
        (.intersection [] (FactSet.fromIds .reference []).root)
        (InitiatorSession.machine .reference ((InitiatorSession.machine .reference).final
          ((samplePartyA.initiator sampleReadings "sample").inMode .intersection) [.generateOffer])
          (.processReply 1002 (.new "sample" [] [filled 7, filled 7]))).output ∧
      ResultOfRun .reference samplePartyB.factSet .cardinality (.cardinality 0)
        (ResponderSession.machine .reference ((ResponderSession.machine .reference).final
          ((samplePartyB.responder "sample").inMode .intersection)
          [.processOfferAndReply 1001 1001 ⟨filled 2⟩ (.new "sample" [])])
          (.processReveal 1004 (.new "sample" [filled 7]))).output :=
  ⟨(hostile_peer_results_sound .reference).1 _ (.withConfig withConfig_samplePartyA) _ _ _ rfl,
    (hostile_peer_results_sound .reference).2 _ (.withConfig withConfig_samplePartyB) _ _ _ rfl⟩

end BlindOverlap
