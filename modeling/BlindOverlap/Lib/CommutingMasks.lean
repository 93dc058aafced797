import BlindOverlap.Lib.OrderedSet

/-!
# Set intersection by commuting masks

Two parties embed their elements into a space of points and mask every point
twice, once with each other's mask. The masks commute and are injective on the
points that occur, so two doubly masked elements agree exactly when their
embeddings do. The first party knows its elements by position only: it keeps
the element at every position whose mask occurs on the other side.
-/

/-- Elements at the positions of `own` whose mask occurs in `theirs`. -/
def matchedByPosition {α π : Type*} [DecidableEq π] (own theirs : List π) (elements : List α) :
    List α :=
  own.zipIdx.filterMap (fun m => if m.1 ∈ theirs then elements[m.2]? else none)

section Positions
variable {α π : Type*} [DecidableEq π]

/-- With the elements aligned from position `k` on, matching is a filter. -/
theorem filterMap_zipIdx_map (mask : α → π) (theirs : List π) (before elements : List α) :
    ((elements.map mask).zipIdx before.length).filterMap
      (fun m => if m.1 ∈ theirs then (before ++ elements)[m.2]? else none) =
      elements.filter (fun a => decide (mask a ∈ theirs)) := by
  induction elements generalizing before with
  | nil => rfl
  | cons a elements ih =>
    have hshift : before ++ a :: elements = (before ++ [a]) ++ elements := by simp
    have hrest := ih (before ++ [a])
    simp only [List.length_append, List.length_singleton] at hrest
    by_cases h : mask a ∈ theirs
    · simp only [List.map_cons, List.zipIdx_cons, List.filterMap_cons, h, if_true, hshift, hrest]
      simp [h]
    · simp only [List.map_cons, List.zipIdx_cons, List.filterMap_cons, h, if_false, hshift, hrest]
      simp [h]

theorem matchedByPosition_map (mask : α → π) (theirs : List π) (elements : List α) :
    matchedByPosition (elements.map mask) theirs elements =
      elements.filter (fun a => decide (mask a ∈ theirs)) := by
  simpa [matchedByPosition] using filterMap_zipIdx_map mask theirs [] elements

/-- Masks on the other side that match none of the own ones change nothing. -/
theorem matchedByPosition_append {own theirs extra : List π} (h : ∀ e ∈ extra, e ∉ own)
    (elements : List α) :
    matchedByPosition own (theirs ++ extra) elements = matchedByPosition own theirs elements := by
  refine List.filterMap_congr (fun m hm => ?_)
  have hown : m.1 ∈ own := List.fst_mem_of_mem_zipIdx hm
  have hextra : m.1 ∉ extra := fun he => h m.1 he hown
  simp only [List.mem_append, hextra, or_false]

/-- Whatever the masks are, what is matched from position `k` on is picked from the
elements from there on, in their order. -/
theorem filterMap_zipIdx_sublist (own theirs : List π) (elements : List α) (k : ℕ) :
    ((own.zipIdx k).filterMap
      (fun m => if m.1 ∈ theirs then elements[m.2]? else none)).Sublist (elements.drop k) := by
  induction own generalizing k with
  | nil => exact List.nil_sublist _
  | cons o own ih =>
    have hrest := ih (k + 1)
    have hdrop : (elements.drop (k + 1)).Sublist (elements.drop k) :=
      List.drop_sublist_drop_left elements (Nat.le_succ k)
    rw [List.zipIdx_cons, List.filterMap_cons]
    by_cases ho : o ∈ theirs
    · rcases Nat.lt_or_ge k elements.length with hk | hk
      · simp only [ho, if_true, List.getElem?_eq_getElem hk]
        rw [List.drop_eq_getElem_cons hk]
        exact hrest.cons_cons _
      · simp only [ho, if_true, List.getElem?_eq_none hk]
        exact hrest.trans hdrop
    · simp only [ho, if_false]
      exact hrest.trans hdrop

theorem matchedByPosition_sublist (own theirs : List π) (elements : List α) :
    (matchedByPosition own theirs elements).Sublist elements := by
  simpa [matchedByPosition] using filterMap_zipIdx_sublist own theirs elements 0

theorem length_filterMap_zipIdx (own theirs : List π) (elements : List α) {k : ℕ}
    (h : k + own.length ≤ elements.length) :
    ((own.zipIdx k).filterMap
      (fun m => if m.1 ∈ theirs then elements[m.2]? else none)).length =
      (own.filter (fun m => decide (m ∈ theirs))).length := by
  induction own generalizing k with
  | nil => rfl
  | cons o own ih =>
    rw [List.length_cons] at h
    have hrest := ih (k := k + 1) (by omega)
    have hk : k < elements.length := by omega
    rw [List.zipIdx_cons, List.filterMap_cons, List.filter_cons]
    by_cases ho : o ∈ theirs
    · simp only [ho, if_true, List.getElem?_eq_getElem hk, decide_true, List.length_cons, hrest]
    · simpa [ho] using hrest

/-- Counting the masks that occur on the other side counts what is matched, as long as no
mask stands beyond the last element. -/
theorem length_matchedByPosition {own : List π} {elements : List α}
    (h : own.length ≤ elements.length) (theirs : List π) :
    (matchedByPosition own theirs elements).length =
      (own.filter (fun m => decide (m ∈ theirs))).length :=
  length_filterMap_zipIdx own theirs elements (by omega)

end Positions

/-- Two masks over a space of points, and how elements are embedded in it. -/
structure MaskPair (α π : Type*) where
  embed : α → π
  left : π → π
  right : π → π

namespace MaskPair
variable {α π : Type*}

/-- The masks commute on the embedded elements, and tell apart what they mask. -/
structure Lawful (p : MaskPair α π) (elements : List α) : Prop where
  commute : ∀ a ∈ elements, p.left (p.right (p.embed a)) = p.right (p.left (p.embed a))
  left_inj : ∀ a ∈ elements, ∀ b ∈ elements,
    p.left (p.embed a) = p.left (p.embed b) → p.embed a = p.embed b
  right_inj : ∀ a ∈ elements, ∀ b ∈ elements,
    p.right (p.left (p.embed a)) = p.right (p.left (p.embed b)) →
      p.left (p.embed a) = p.left (p.embed b)

/-- Doubly masked elements agree exactly when their embeddings do. -/
theorem doubly_masked_eq_iff {p : MaskPair α π} {elements : List α} (h : p.Lawful elements)
    {a b : α} (ha : a ∈ elements) (hb : b ∈ elements) :
    p.right (p.left (p.embed a)) = p.left (p.right (p.embed b)) ↔ p.embed a = p.embed b := by
  constructor
  · intro he
    rw [h.commute b hb] at he
    exact h.left_inj a ha b hb (h.right_inj a ha b hb he)
  · intro he
    rw [he, h.commute b hb]

variable [DecidableEq π]

/-- The elements of the first list whose embedding occurs in the second. -/
def shared (p : MaskPair α π) (as bs : List α) : List α :=
  as.filter (fun a => decide (p.embed a ∈ bs.map p.embed))

theorem mem_shared {p : MaskPair α π} {as bs : List α} {a : α} :
    a ∈ p.shared as bs ↔ a ∈ as ∧ ∃ b ∈ bs, p.embed b = p.embed a := by
  simp [shared]

/-- What the party holding the left mask finds is what both sides embed alike. -/
theorem filter_left_eq_shared {p : MaskPair α π} {as bs : List α} (h : p.Lawful (as ++ bs)) :
    as.filter (fun a => decide (p.right (p.left (p.embed a)) ∈
      bs.map (fun b => p.left (p.right (p.embed b))))) = p.shared as bs := by
  refine List.filter_congr (fun a ha => ?_)
  have hiff : ∀ b ∈ bs, p.left (p.right (p.embed b)) = p.right (p.left (p.embed a)) ↔
      p.embed b = p.embed a := by
    intro b hb
    rw [eq_comm, doubly_masked_eq_iff h (List.mem_append_left bs ha)
      (List.mem_append_right as hb), eq_comm]
  simp only [decide_eq_decide, List.mem_map]
  constructor
  · rintro ⟨b, hb, he⟩
    exact ⟨b, hb, (hiff b hb).mp he⟩
  · rintro ⟨b, hb, he⟩
    exact ⟨b, hb, (hiff b hb).mpr he⟩

/-- The other party finds the same, its own elements being matched. -/
theorem filter_right_eq_shared {p : MaskPair α π} {as bs : List α} (h : p.Lawful (as ++ bs)) :
    bs.filter (fun b => decide (p.left (p.right (p.embed b)) ∈
      as.map (fun a => p.right (p.left (p.embed a))))) = p.shared bs as := by
  refine List.filter_congr (fun b hb => ?_)
  have hiff : ∀ a ∈ as, p.right (p.left (p.embed a)) = p.left (p.right (p.embed b)) ↔
      p.embed a = p.embed b := fun a ha =>
    doubly_masked_eq_iff h (List.mem_append_left bs ha) (List.mem_append_right as hb)
  simp only [decide_eq_decide, List.mem_map]
  constructor
  · rintro ⟨a, ha, he⟩
    exact ⟨a, ha, (hiff a ha).mp he⟩
  · rintro ⟨a, ha, he⟩
    exact ⟨a, ha, (hiff a ha).mpr he⟩

end MaskPair
