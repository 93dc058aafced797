import BlindOverlap.Exchange
import BlindOverlap.Reference

/-!
# What an exchange reports

The online exchange and the colocated protocol both report the identifiers that
hash to a common point. With an injective hash these are the common identifiers;
without one they include identifiers that only agree once clamped.
-/
namespace BlindOverlap

/-- The initiator's session at the start of an exchange. -/
def Party.initiator (a : Party) (c : ExchangeReadings) (sessionId : String) : InitiatorSession :=
  .created c.createdAt a.drawn sessionId a.factSet a.mode a.config

/-- The responder's session at the start of an exchange. -/
def Party.responder (b : Party) (sessionId : String) : ResponderSession :=
  .created b.drawn sessionId b.factSet b.mode b.config

theorem Party.withConfig_initiator {a : Party} (h : a.factSet.len ≤ maxSetSize)
    (c : ExchangeReadings) (sessionId : String) :
    InitiatorSession.withConfig c.createdAt a.drawn sessionId a.factSet a.mode a.config =
      .ok (a.initiator c sessionId) :=
  InitiatorSession.withConfig_eq_ok_iff.mpr ⟨h, rfl⟩

theorem Party.withConfig_responder {b : Party} (h : b.factSet.len ≤ maxSetSize)
    (sessionId : String) :
    ResponderSession.withConfig b.drawn sessionId b.factSet b.mode b.config =
      .ok (b.responder sessionId) :=
  ResponderSession.withConfig_eq_ok_iff.mpr ⟨h, rfl⟩

/-- New sessions of one identifier face each other. -/
theorem Party.facing {c : ExchangeReadings} {a b : Party} (ht : Timely c a.config b.config)
    (sessionId : String) : Facing c (a.initiator c sessionId) (b.responder sessionId) :=
  ⟨rfl, rfl, rfl, rfl, ht⟩

theorem onlineExchange_eq {K : Crates} {c : ExchangeReadings} {sessionId : String} {a b : Party}
    (ha : a.factSet.len ≤ maxSetSize) (hb : b.factSet.len ≤ maxSetSize)
    (ht : Timely c a.config b.config) :
    onlineExchange K c sessionId a b =
      .ok (honestOutcome K c (a.initiator c sessionId) (b.responder sessionId)) := by
  simp only [onlineExchange, Party.withConfig_initiator ha, Party.withConfig_responder hb,
    Except.ok_bind, (Party.facing ht sessionId).exchange_eq K]

/-- Secrets that mask all identifiers of two sets lawfully. -/
abbrev MasksLawfully (K : Crates) (a b : StaticSecret) (s t : FactSet) : Prop :=
  (sessionMasks K a b).Lawful (s.idList ++ t.idList)

/-- Both sides of an honest exchange report the identifiers with common points. -/
theorem onlineExchange_alike {K : Crates} {c : ExchangeReadings} (sessionId : String) {a b : Party}
    (ha : a.factSet.len ≤ maxSetSize) (hb : b.factSet.len ≤ maxSetSize)
    (ht : Timely c a.config b.config)
    (hm : MasksLawfully K a.drawn.secret b.drawn.secret a.factSet b.factSet) :
    ∃ o, onlineExchange K c sessionId a b = .ok o ∧
      o.initiatorResult = .ofSet K (alike K a.factSet.ids b.factSet.ids) a.mode ∧
      o.responderResult = .ofSet K (alike K b.factSet.ids a.factSet.ids) b.mode :=
  ⟨_, onlineExchange_eq ha hb ht, initiator_intersectMasked hm a.mode,
    responder_intersectMasked hm b.mode⟩

/-- The colocated protocol reports the same as the initiator. -/
theorem intersect_alike {K : Crates} {drawnA drawnB : StaticSecret} {s t : FactSet}
    (hs : s.len ≤ maxSetSize) (ht : t.len ≤ maxSetSize) (hm : MasksLawfully K drawnA drawnB s t)
    (mode : IntersectionMode) :
    PsiProtocol.intersect K drawnA drawnB s t mode = .ok (.ofSet K (alike K s.ids t.ids) mode) := by
  have hA : PsiParty.new drawnA s mode = .ok ⟨drawnA, s, mode, s.idList⟩ := if_neg (not_lt.mpr hs)
  have hB : PsiParty.new drawnB t mode = .ok ⟨drawnB, t, mode, t.idList⟩ := if_neg (not_lt.mpr ht)
  simp only [PsiProtocol.intersect, hA, hB, Except.ok_bind, Except.pure_eq_ok]
  exact congrArg Except.ok (initiator_intersectMasked hm mode)

/-- Honest exchanges compute the intersection, on both sides and as the colocated
protocol does. -/
theorem honest_exchange_correct (K : Crates) (c : ExchangeReadings) (sessionId : String)
    (a b : Party) (drawnA drawnB : StaticSecret)
    (ha : a.factSet.len ≤ maxSetSize) (hb : b.factSet.len ≤ maxSetSize)
    (ht : Timely c a.config b.config)
    (hm : MasksLawfully K a.drawn.secret b.drawn.secret a.factSet b.factSet)
    (hm' : MasksLawfully K drawnA drawnB a.factSet b.factSet)
    (hhash : Set.InjOn (Session.hashToPublicKey K) {x | x ∈ a.factSet.ids ∨ x ∈ b.factSet.ids}) :
    ∃ o, onlineExchange K c sessionId a b = .ok o ∧
      o.initiatorResult = .ofSet K (a.factSet.ids.inter b.factSet.ids) a.mode ∧
      o.responderResult = .ofSet K (a.factSet.ids.inter b.factSet.ids) b.mode ∧
      PsiProtocol.intersect K drawnA drawnB a.factSet b.factSet a.mode = .ok o.initiatorResult := by
  obtain ⟨o, ho, hi, hr⟩ := onlineExchange_alike sessionId ha hb ht hm
  obtain ⟨hab, hba⟩ := alike_eq_common hhash
  rw [hab] at hi
  rw [hba] at hr
  refine ⟨o, ho, hi, hr, ?_⟩
  rw [intersect_alike ha hb hm' a.mode, hi, hab]

/-! ### A concrete exchange -/

/-- Masks known pointwise are lawful when their points differ. -/
theorem lawful_of_points {ids : List FactId} (table : List SamplePoints)
    (h : ∀ x ∈ ids, ∃ p ∈ table, p.Of x)
    (hA : ∀ p ∈ table, ∀ q ∈ table, p.underA = q.underA → p.plain = q.plain)
    (hboth : ∀ p ∈ table, ∀ q ∈ table, p.underBoth = q.underBoth → p.underA = q.underA) :
    (sessionMasks .reference sampleSecretA sampleSecretB).Lawful ids where
  commute := by
    intro x hx
    obtain ⟨p, -, hp⟩ := h x hx
    simp only [sessionMasks, Session.hashToPublicKey, hp.plain, hp.underA, hp.underB, hp.ofA,
      hp.ofB]
  left_inj := by
    intro x hx y hy he
    obtain ⟨p, hpt, hp⟩ := h x hx
    obtain ⟨q, hqt, hq⟩ := h y hy
    simp only [sessionMasks, Session.hashToPublicKey, hp.plain, hq.plain, hp.underA,
      hq.underA] at he ⊢
    exact hA p hpt q hqt he
  right_inj := by
    intro x hx y hy he
    obtain ⟨p, hpt, hp⟩ := h x hx
    obtain ⟨q, hqt, hq⟩ := h y hy
    simp only [sessionMasks, Session.hashToPublicKey, hp.plain, hq.plain, hp.underA, hq.underA,
      hp.ofA, hq.ofA] at he ⊢
    exact hboth p hpt q hqt he

def samplePartyA : Party where
  factSet := .fromIds .reference [filled 5, filled 3]
  mode := .intersection
  config := .new
  drawn := ⟨sampleSecretA, ⟨filled 18⟩⟩

def samplePartyB : Party where
  factSet := .fromIds .reference [filled 5]
  mode := .cardinality
  config := .new
  drawn := ⟨sampleSecretB, ⟨filled 34⟩⟩

def sampleReadings : ExchangeReadings :=
  ⟨1000, 1001, 1002, 1003, 1004, 1005, ⟨filled 1⟩, ⟨filled 2⟩⟩

theorem sample_timely : Timely sampleReadings samplePartyA.config samplePartyB.config :=
  ⟨fun _ => ⟨by decide, by decide⟩, fun _ _ => ⟨by decide, by decide⟩,
    fun _ => ⟨by decide, by decide⟩⟩

theorem sample_lawful : MasksLawfully .reference sampleSecretA sampleSecretB
    samplePartyA.factSet samplePartyB.factSet := by
  have hids : ∀ x ∈ samplePartyA.factSet.idList ++ samplePartyB.factSet.idList,
      x = filled 5 ∨ x = filled 3 := by decide +kernel
  refine lawful_of_points [pointsOfFive, pointsOfThree] ?_ (by decide +kernel) (by decide +kernel)
  intro x hx
  rcases hids x hx with rfl | rfl
  · exact ⟨_, List.mem_cons_self, pointsOfFive_of⟩
  · exact ⟨_, List.mem_cons_of_mem _ List.mem_cons_self, pointsOfThree_of⟩

theorem sample_injOn : Set.InjOn (Session.hashToPublicKey .reference)
    {x | x ∈ samplePartyA.factSet.ids ∨ x ∈ samplePartyB.factSet.ids} := by
  have hinj : ∀ x ∈ samplePartyA.factSet.idList ++ samplePartyB.factSet.idList,
      ∀ y ∈ samplePartyA.factSet.idList ++ samplePartyB.factSet.idList,
        Session.hashToPublicKey .reference x = Session.hashToPublicKey .reference y → x = y := by
    decide +kernel
  exact fun x hx y hy he => hinj x (List.mem_append.mpr hx) y (List.mem_append.mpr hy) he

theorem honest_exchange_correct_sample :
    ∃ o, onlineExchange .reference sampleReadings "sample" samplePartyA samplePartyB = .ok o ∧
      o.initiatorResult = .ofSet .reference
        (samplePartyA.factSet.ids.inter samplePartyB.factSet.ids) .intersection ∧
      o.responderResult = .ofSet .reference
        (samplePartyA.factSet.ids.inter samplePartyB.factSet.ids) .cardinality ∧
      PsiProtocol.intersect .reference sampleSecretA sampleSecretB samplePartyA.factSet
        samplePartyB.factSet .intersection = .ok o.initiatorResult :=
  honest_exchange_correct .reference sampleReadings "sample" samplePartyA samplePartyB
    sampleSecretA sampleSecretB (by decide +kernel) (by decide +kernel) sample_timely sample_lawful
    sample_lawful sample_injOn

/-! ## Disjoint sets -/

theorem PsiResult.ofSet_eq_empty_iff {K : Crates} {s : OrderedSet FactId}
    {mode : IntersectionMode} :
    PsiResult.ofSet K s mode = .ofSet K .empty mode ↔ ∀ x, x ∉ s := by
  have hnil : s.toList = [] ↔ ∀ x, x ∉ s := List.eq_nil_iff_forall_not_mem
  rw [← hnil]
  constructor
  · intro h
    cases mode with
    | intersection => exact (PsiResult.intersection.inj h).1
    | cardinality => exact List.length_eq_zero_iff.mp (PsiResult.cardinality.inj h)
  · intro h
    have he : s = .empty := OrderedSet.ext (fun x => by simp [hnil.mp h x])
    rw [he]

/-- Whether both ways of computing it report nothing in common. -/
def ReportsNothing (K : Crates) (c : ExchangeReadings) (sessionId : String) (a b : Party)
    (drawnA drawnB : StaticSecret) : Prop :=
  PsiProtocol.intersect K drawnA drawnB a.factSet b.factSet a.mode = .ok (.ofSet K .empty a.mode) ∧
    ∃ o, onlineExchange K c sessionId a b = .ok o ∧
      o.initiatorResult = .ofSet K .empty a.mode ∧ o.responderResult = .ofSet K .empty b.mode

/-- Two identifiers with one clamped scalar are reported as a match. -/
theorem not_reportsNothing {K : Crates} {c : ExchangeReadings} {sessionId : String} {a b : Party}
    {drawnA drawnB : StaticSecret} {x y : FactId}
    (ha : a.factSet.len ≤ maxSetSize) (hb : b.factSet.len ≤ maxSetSize)
    (hm : MasksLawfully K drawnA drawnB a.factSet b.factSet)
    (hx : x ∈ a.factSet.ids) (hy : y ∈ b.factSet.ids) (he : clampInteger x = clampInteger y) :
    ¬ ReportsNothing K c sessionId a b drawnA drawnB := by
  rintro ⟨hnone, -⟩
  rw [intersect_alike ha hb hm a.mode] at hnone
  have hempty := PsiResult.ofSet_eq_empty_iff.mp (Except.ok.inj hnone)
  exact hempty x (mem_alike.mpr ⟨hx, y, hy, congrArg K.montgomeryMulBase he.symm⟩)

/-- Nothing is reported exactly when no two identifiers of the two sets have the
same clamped scalar, which disjointness does not give. -/
theorem reportsNothing_iff (K : Crates) (c : ExchangeReadings) (sessionId : String) (a b : Party)
    (drawnA drawnB : StaticSecret)
    (ha : a.factSet.len ≤ maxSetSize) (hb : b.factSet.len ≤ maxSetSize)
    (ht : Timely c a.config b.config)
    (hm : MasksLawfully K a.drawn.secret b.drawn.secret a.factSet b.factSet)
    (hm' : MasksLawfully K drawnA drawnB a.factSet b.factSet)
    (hbase : ∀ x ∈ a.factSet.ids, ∀ y ∈ b.factSet.ids,
      K.montgomeryMulBase (clampInteger x) = K.montgomeryMulBase (clampInteger y) →
        clampInteger x = clampInteger y) :
    ReportsNothing K c sessionId a b drawnA drawnB ↔
      ∀ x ∈ a.factSet.ids, ∀ y ∈ b.factSet.ids, clampInteger x ≠ clampInteger y := by
  constructor
  · intro h x hx y hy he
    exact not_reportsNothing ha hb hm' hx hy he h
  · intro hne
    obtain ⟨o, ho, hi, hr⟩ := onlineExchange_alike sessionId ha hb ht hm
    have hab : ∀ x, x ∉ alike K a.factSet.ids b.factSet.ids := by
      intro x hx
      obtain ⟨hx, y, hy, he⟩ := mem_alike.mp hx
      exact hne x hx y hy (hbase x hx y hy he.symm)
    have hba : ∀ y, y ∉ alike K b.factSet.ids a.factSet.ids := by
      intro y hy
      obtain ⟨hy, x, hx, he⟩ := mem_alike.mp hy
      exact hne x hx y hy (hbase x hx y hy he)
    rw [ReportsNothing, intersect_alike ha hb hm' a.mode, PsiResult.ofSet_eq_empty_iff.mpr hab]
    exact ⟨rfl, o, ho, hi.trans (PsiResult.ofSet_eq_empty_iff.mpr hab),
      hr.trans (PsiResult.ofSet_eq_empty_iff.mpr hba)⟩

/-- The concrete exchange, with parties that share nothing. -/
def strangerToA : Party := { samplePartyB with factSet := .fromIds .reference [Bytes.zero 32] }

theorem strangers_lawful : MasksLawfully .reference sampleSecretA sampleSecretB
    samplePartyA.factSet strangerToA.factSet := by
  have hids : ∀ x ∈ samplePartyA.factSet.idList ++ strangerToA.factSet.idList,
      x = filled 5 ∨ x = filled 3 ∨ x = Bytes.zero 32 := by decide +kernel
  refine lawful_of_points [pointsOfFive, pointsOfThree, pointsOfZero] ?_ (by decide +kernel)
    (by decide +kernel)
  intro x hx
  rcases hids x hx with rfl | rfl | rfl
  · exact ⟨_, by simp, pointsOfFive_of⟩
  · exact ⟨_, by simp, pointsOfThree_of⟩
  · exact ⟨_, by simp, pointsOfZero_of⟩

theorem reportsNothing_iff_sample :
    ReportsNothing .reference sampleReadings "sample" samplePartyA strangerToA sampleSecretA
        sampleSecretB ↔
      ∀ x ∈ samplePartyA.factSet.ids, ∀ y ∈ strangerToA.factSet.ids,
        clampInteger x ≠ clampInteger y := by
  have hbase : ∀ x ∈ samplePartyA.factSet.idList, ∀ y ∈ strangerToA.factSet.idList,
      Crates.reference.montgomeryMulBase (clampInteger x) =
        Crates.reference.montgomeryMulBase (clampInteger y) → clampInteger x = clampInteger y := by
    decide +kernel
  exact reportsNothing_iff .reference sampleReadings "sample" samplePartyA strangerToA
    sampleSecretA sampleSecretB (by decide +kernel) (by decide +kernel) sample_timely
    strangers_lawful strangers_lawful hbase

/-- Two identifiers that differ in a bit which clamping clears. -/
def clampTwin : FactId := ⟨1 :: List.replicate 31 0, rfl⟩

def twinPartyA : Party := { samplePartyA with factSet := .fromIds .reference [Bytes.zero 32] }

def twinPartyB : Party := { samplePartyB with factSet := .fromIds .reference [clampTwin] }

/-- Disjoint sets under lawful masks, and yet a match is reported. -/
theorem disjoint_sets_match :
    (∀ x ∈ twinPartyA.factSet.ids, x ∉ twinPartyB.factSet.ids) ∧
      MasksLawfully .reference sampleSecretA sampleSecretB twinPartyA.factSet twinPartyB.factSet ∧
      ¬ ReportsNothing .reference sampleReadings "sample" twinPartyA twinPartyB sampleSecretA
        sampleSecretB := by
  have hdisjoint : ∀ x ∈ twinPartyA.factSet.idList, x ∉ twinPartyB.factSet.idList := by
    decide +kernel
  have hids : ∀ x ∈ twinPartyA.factSet.idList ++ twinPartyB.factSet.idList,
      x = Bytes.zero 32 ∨ x = clampTwin := by decide +kernel
  have htwin : pointsOfZero.Of clampTwin :=
    ⟨by decide +kernel, pointsOfZero_of.underA, pointsOfZero_of.underB, pointsOfZero_of.ofA,
      pointsOfZero_of.ofB⟩
  have hlawful : MasksLawfully .reference sampleSecretA sampleSecretB twinPartyA.factSet
      twinPartyB.factSet := by
    refine lawful_of_points [pointsOfZero] ?_ (by simp) (by simp)
    intro x hx
    rcases hids x hx with rfl | rfl
    · exact ⟨_, List.mem_cons_self, pointsOfZero_of⟩
    · exact ⟨_, List.mem_cons_self, htwin⟩
  exact ⟨hdisjoint, hlawful, not_reportsNothing (x := Bytes.zero 32) (y := clampTwin)
    (by decide +kernel) (by decide +kernel) hlawful (by decide +kernel) (by decide +kernel)
    (by decide +kernel)⟩

end BlindOverlap
