import Mathlib

/-!
# Ordered sets stored as ascending lists

The iteration order of a balanced-tree set is its only observable structure, so
the set is its strictly ascending list of elements. Two sets with the same
elements are then equal, and iterating a set is reading its list.
-/

structure OrderedSet (α : Type*) [LinearOrder α] where
  toList : List α
  ascending : toList.Pairwise (· < ·)
  deriving DecidableEq

namespace OrderedSet
variable {α : Type*} [LinearOrder α]

instance : Membership α (OrderedSet α) := ⟨fun s a => a ∈ s.toList⟩

instance (a : α) (s : OrderedSet α) : Decidable (a ∈ s) :=
  inferInstanceAs (Decidable (a ∈ s.toList))

@[simp] theorem mem_toList {s : OrderedSet α} {a : α} : a ∈ s.toList ↔ a ∈ s := Iff.rfl

theorem nodup (s : OrderedSet α) : s.toList.Nodup := s.ascending.imp ne_of_lt

/-- An ascending list is determined by its elements. -/
theorem eq_of_mem_iff {l m : List α} (hl : l.Pairwise (· < ·)) (hm : m.Pairwise (· < ·))
    (h : ∀ a, a ∈ l ↔ a ∈ m) : l = m := by
  have hp : l.Perm m := (List.perm_ext_iff_of_nodup (hl.imp ne_of_lt) (hm.imp ne_of_lt)).mpr h
  exact hp.eq_of_pairwise (fun a b _ _ hab hba => absurd hba hab.asymm) hl hm

@[ext] theorem ext {s t : OrderedSet α} (h : ∀ a, a ∈ s ↔ a ∈ t) : s = t := by
  cases s with
  | mk l hl =>
    cases t with
    | mk m hm =>
      have he : l = m := eq_of_mem_iff hl hm h
      subst he
      rfl

def empty : OrderedSet α := ⟨[], List.Pairwise.nil⟩

@[simp] theorem mem_empty (a : α) : a ∉ (empty : OrderedSet α) := List.not_mem_nil

theorem eq_empty_iff {s : OrderedSet α} : s = empty ↔ ∀ a, a ∉ s := by
  constructor
  · rintro rfl a
    exact mem_empty a
  · exact fun h => ext (fun a => by simp [h a])

def size (s : OrderedSet α) : ℕ := s.toList.length

/-- Insertion at the place the order gives, unless the element is present. -/
def insert (a : α) (s : OrderedSet α) : OrderedSet α :=
  if h : a ∈ s then s
  else
    { toList := s.toList.orderedInsert (· ≤ ·) a
      ascending := by
        have hle : (s.toList.orderedInsert (· ≤ ·) a).Pairwise (· ≤ ·) :=
          (s.ascending.imp le_of_lt).orderedInsert a s.toList
        have hnodup : (s.toList.orderedInsert (· ≤ ·) a).Nodup :=
          (List.perm_orderedInsert (· ≤ ·) a s.toList).nodup_iff.mpr
            (List.nodup_cons.mpr ⟨h, s.nodup⟩)
        exact (hle.and hnodup).imp (fun hab => lt_of_le_of_ne hab.1 hab.2) }

@[simp] theorem mem_insert {a b : α} {s : OrderedSet α} : b ∈ s.insert a ↔ b = a ∨ b ∈ s := by
  unfold insert
  split_ifs with h
  · constructor
    · exact Or.inr
    · rintro (rfl | hb)
      · exact h
      · exact hb
  · exact List.mem_orderedInsert (· ≤ ·)

/-- The elements of a list, inserted one by one. -/
def ofList (l : List α) : OrderedSet α := l.foldl (fun s a => s.insert a) empty

theorem mem_foldl_insert (l : List α) (s : OrderedSet α) (b : α) :
    b ∈ l.foldl (fun s a => s.insert a) s ↔ b ∈ s ∨ b ∈ l := by
  induction l generalizing s with
  | nil => simp
  | cons a l ih =>
    simp only [List.foldl_cons, ih, mem_insert, List.mem_cons]
    tauto

@[simp] theorem mem_ofList {l : List α} {b : α} : b ∈ ofList l ↔ b ∈ l := by
  simp [ofList, mem_foldl_insert]

@[simp] theorem ofList_toList (s : OrderedSet α) : ofList s.toList = s :=
  ext (fun _ => mem_ofList)

def filter (p : α → Bool) (s : OrderedSet α) : OrderedSet α :=
  ⟨s.toList.filter p, s.ascending.filter p⟩

@[simp] theorem filter_toList (p : α → Bool) (s : OrderedSet α) :
    (s.filter p).toList = s.toList.filter p := rfl

@[simp] theorem mem_filter {p : α → Bool} {s : OrderedSet α} {a : α} :
    a ∈ s.filter p ↔ a ∈ s ∧ p a = true := List.mem_filter

def inter (s t : OrderedSet α) : OrderedSet α := s.filter (fun a => decide (a ∈ t))

@[simp] theorem mem_inter {s t : OrderedSet α} {a : α} : a ∈ s.inter t ↔ a ∈ s ∧ a ∈ t := by
  simp [inter]

end OrderedSet
