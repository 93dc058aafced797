import BlindOverlap.CanonicalJson
import BlindOverlap.Lib.Framing

/-!
# What the root of a fact set commits to

A set keeps the root of its identifiers next to them. However it was made, the root is
that of what it holds, and the hashed bytes spell out the identifiers one by one. A set
is thus a set of identifiers in the mathematical sense, and its root stands for it.
-/
namespace BlindOverlap
namespace FactSet

/-- The bytes that the root is a hash of. -/
def rootInput (ids : OrderedSet FactId) : List UInt8 :=
  utf8 "BlindOverlap:SetRoot:v1" ++ leBytes 8 ids.size ++ ids.toList.flatMap Bytes.toList

theorem computeSetRoot_eq (K : Crates) (ids : OrderedSet FactId) :
    computeSetRoot K ids = K.sha256 (rootInput ids) := rfl

/-- The number of identifiers has eight bytes whatever it is, and they are all of one length. -/
theorem rootInput_injective : Function.Injective rootInput := by
  intro s t h
  rw [rootInput, rootInput, List.append_assoc, List.append_assoc] at h
  have hids := (List.append_inj (List.append_cancel_left h) (by simp)).2
  have hlists : s.toList = t.toList :=
    Framing.flatMap_injective (by decide) Bytes.toList_injective Bytes.length_toList hids
  ext id
  rw [← OrderedSet.mem_toList, hlists, OrderedSet.mem_toList]

/-- A set whose root is that of its identifiers. -/
def Committed (K : Crates) (s : FactSet) : Prop := s.root = computeSetRoot K s.ids

/-- The sets that a run of insertions makes of what a constructor returns. -/
inductive Reachable (displayDouble : UInt64 → String) (K : Crates) : FactSet → Prop
  | empty : Reachable displayDouble K (empty K)
  | fromIds (ids : List FactId) : Reachable displayDouble K (fromIds K ids)
  | fromJsonValues (values : List Json) :
    Reachable displayDouble K (fromJsonValues displayDouble K values)
  | insert {s : FactSet} (id : FactId) (h : Reachable displayDouble K s) :
    Reachable displayDouble K (s.insert K id)

/-- The set as a mathematical one. -/
def contents (s : FactSet) : Set FactId := {id | s.contains id = true}

section Contents
variable {K : Crates}

@[simp] theorem mem_contents {s : FactSet} {id : FactId} : id ∈ s.contents ↔ id ∈ s.ids :=
  decide_eq_true_iff

@[simp] theorem contents_empty : (empty K).contents = ∅ := by
  ext id
  simp [empty]

@[simp] theorem contents_fromIds (ids : List FactId) :
    (fromIds K ids).contents = {id | id ∈ ids} := by
  ext id
  simp [fromIds]

@[simp] theorem contents_fromJsonValues (displayDouble : UInt64 → String) (values : List Json) :
    (fromJsonValues displayDouble K values).contents =
      {id | ∃ j ∈ values, factIdFromJson displayDouble K j = id} := by
  ext id
  simp [fromJsonValues]

@[simp] theorem contents_insert (s : FactSet) (id : FactId) :
    (s.insert K id).contents = Insert.insert id s.contents := by
  ext other
  simp [insert]

theorem ids_eq_iff {s t : FactSet} : s.ids = t.ids ↔ s.contents = t.contents := by
  constructor
  · intro h
    ext id
    rw [mem_contents, mem_contents, h]
  · intro h
    ext id
    rw [← mem_contents, ← mem_contents, h]

end Contents

/-! ## The root along a run -/

section Run
variable {displayDouble : UInt64 → String} {K : Crates} {s t : FactSet}

theorem committed_insert (K : Crates) (s : FactSet) (id : FactId) :
    Committed K (s.insert K id) := rfl

theorem Reachable.committed (h : Reachable displayDouble K s) : Committed K s := by
  cases h with
  | empty => rfl
  | fromIds ids => rfl
  | fromJsonValues values => rfl
  | insert id h => exact committed_insert K _ id

theorem Reachable.insertAll (h : Reachable displayDouble K s) (ids : List FactId) :
    Reachable displayDouble K (ids.foldl (FactSet.insert K) s) := by
  induction ids generalizing s with
  | nil => exact h
  | cons id ids ih => exact ih (h.insert id)

/-- Inserting identifiers one by one adds them all. -/
theorem contents_insertAll (K : Crates) (s : FactSet) (ids : List FactId) :
    (ids.foldl (FactSet.insert K) s).contents = s.contents ∪ {id | id ∈ ids} := by
  induction ids generalizing s with
  | nil => simp
  | cons id ids ih =>
    rw [List.foldl_cons, ih, contents_insert]
    ext other
    simp only [Set.mem_union, Set.mem_insert_iff, Set.mem_ofPred_eq, List.mem_cons]
    tauto

/-- Committed sets are told apart by what they contain. -/
theorem Committed.eq_iff (hs : Committed K s) (ht : Committed K t) :
    s = t ↔ s.contents = t.contents := by
  constructor
  · rintro rfl
    rfl
  · intro h
    have hids := ids_eq_iff.mpr h
    have hroot : s.root = t.root := by rw [hs, ht, hids]
    cases s
    cases t
    cases hids
    cases hroot
    rfl

theorem rootInput_eq_iff : rootInput s.ids = rootInput t.ids ↔ s.contents = t.contents :=
  rootInput_injective.eq_iff.trans ids_eq_iff

theorem Committed.root_eq_iff (hs : Committed K s) (ht : Committed K t)
    (hfree : K.CollisionFree {rootInput s.ids, rootInput t.ids}) : s.root = t.root ↔ s = t := by
  rw [hs.eq_iff ht, ← rootInput_eq_iff, hs, ht, computeSetRoot_eq, computeSetRoot_eq]
  exact hfree.eq_iff (by simp) (by simp)

end Run

/-- Every set that can be made has the root of its identifiers. The bytes under two roots
agree for equal contents only, so that without a collision the roots tell the sets apart.
Insertions in any order, with or without repetition, make the set of what was inserted. -/
theorem reachable_root_commits (displayDouble : UInt64 → String) (K : Crates) :
    (∀ s, Reachable displayDouble K s → s.root = computeSetRoot K s.ids) ∧
    (∀ s t, Reachable displayDouble K s → Reachable displayDouble K t →
      (rootInput s.ids = rootInput t.ids ↔ s.contents = t.contents) ∧
      (s = t ↔ s.contents = t.contents) ∧
      (K.CollisionFree {rootInput s.ids, rootInput t.ids} → (s.root = t.root ↔ s = t))) ∧
    (∀ s, Reachable displayDouble K s → ∀ ids ids' : List FactId,
      (∀ id, id ∈ ids ↔ id ∈ ids') → ids.foldl (insert K) s = ids'.foldl (insert K) s) ∧
    ∀ ids ids' : List FactId, (∀ id, id ∈ ids ↔ id ∈ ids') →
      ids.foldl (insert K) (empty K) = fromIds K ids' := by
  refine ⟨fun s hs => hs.committed, ?_, ?_, ?_⟩
  · intro s t hs ht
    exact ⟨rootInput_eq_iff, hs.committed.eq_iff ht.committed,
      hs.committed.root_eq_iff ht.committed⟩
  · intro s hs ids ids' hsame
    rw [(hs.insertAll ids).committed.eq_iff (hs.insertAll ids').committed, contents_insertAll,
      contents_insertAll]
    simp only [hsame]
  · intro ids ids' hsame
    have hempty : Reachable displayDouble K (empty K) := .empty
    have hids' : Reachable displayDouble K (fromIds K ids') := .fromIds ids'
    rw [(hempty.insertAll ids).committed.eq_iff hids'.committed, contents_insertAll,
      contents_empty, contents_fromIds, Set.empty_union]
    simp only [hsame]

def sampleInserted : FactSet :=
  (fromIds .reference [filled 2, filled 1]).insert .reference (filled 2)

def sampleOther : FactSet := (empty .reference).insert .reference (filled 3)

theorem reachable_root_commits_sample :
    (sampleInserted.root = sampleOther.root ↔ sampleInserted = sampleOther) ∧
      [filled 1, filled 2, filled 1].foldl (insert .reference) (empty .reference) =
        fromIds .reference [filled 2, filled 1] := by
  have hcommits := reachable_root_commits (fun _ => "") .reference
  refine ⟨(hcommits.2.1 _ _ (.insert _ (.fromIds _)) (.insert _ .empty)).2.2 ?_, ?_⟩
  · exact Crates.collisionFree_pair (by decide +kernel)
  · exact hcommits.2.2.2 _ _ (by simp [or_comm])

end FactSet

end BlindOverlap
