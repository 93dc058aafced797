import BlindOverlap.Lib.Json

/-!
# JSON values up to the order of members

Two values are the same when they differ in the order of object members only, at any
depth. Sorting the members of every object by their keys gives each value, in which no
object repeats a key, one representative.
-/
namespace JsonOrder

/-! ## Sorting members -/

/-- Members by ascending keys. -/
def sortByKey {α : Type} (members : List (String × α)) : List (String × α) :=
  members.insertionSort (fun a b => a.1 ≤ b.1)

section Members
variable {α β : Type}

theorem perm_sortByKey (members : List (String × α)) : (sortByKey members).Perm members :=
  List.perm_insertionSort _ members

/-- Sorting looks at the keys only. -/
theorem sortByKey_map (f : α → β) (members : List (String × α)) :
    sortByKey (members.map (fun m => (m.1, f m.2))) =
      (sortByKey members).map (fun m => (m.1, f m.2)) := by
  have hmap := List.map_insertionSort (fun a b : String × α => a.1 ≤ b.1)
    (fun a b : String × β => a.1 ≤ b.1) (fun m => (m.1, f m.2)) members (fun _ _ _ _ => Iff.rfl)
  exact hmap.symm

/-- Members with keys of their own are sorted in one way only. -/
theorem sortByKey_eq_of_perm {members members' : List (String × α)}
    (hkeys : (members.map Prod.fst).Nodup) (h : members.Perm members') :
    sortByKey members = sortByKey members' := by
  have hsorted : ∀ l : List (String × α), (sortByKey l).Pairwise (fun a b => a.1 ≤ b.1) :=
    List.pairwise_insertionSort _
  have hperm : (sortByKey members).Perm (sortByKey members') :=
    (perm_sortByKey members).trans (h.trans (perm_sortByKey members').symm)
  refine List.Perm.eq_of_pairwise ?_ (hsorted members) (hsorted members') hperm
  intro a b ha hb hab hba
  have hmem : a ∈ members := (perm_sortByKey members).mem_iff.mp ha
  have hmem' : b ∈ members := h.mem_iff.mpr ((perm_sortByKey members').mem_iff.mp hb)
  exact List.inj_on_of_nodup_map hkeys hmem hmem' (le_antisymm hab hba)

end Members

mutual

/-- The members of every object by ascending keys. -/
def ordered : Json → Json
  | .array items => .array (orderedItems items)
  | .object members => .object (sortByKey (orderedMembers members))
  | .null => .null
  | .bool b => .bool b
  | .int i => .int i
  | .float bits => .float bits
  | .string s => .string s

def orderedItems : List Json → List Json
  | [] => []
  | j :: items => ordered j :: orderedItems items

def orderedMembers : List (String × Json) → List (String × Json)
  | [] => []
  | (key, j) :: members => (key, ordered j) :: orderedMembers members

end

theorem orderedItems_eq_map (items : List Json) : orderedItems items = items.map ordered := by
  induction items with
  | nil => rfl
  | cons j items ih => rw [orderedItems, ih, List.map_cons]

theorem orderedMembers_eq_map (members : List (String × Json)) :
    orderedMembers members = members.map (fun m => (m.1, ordered m.2)) := by
  induction members with
  | nil => rfl
  | cons m members ih => rw [orderedMembers, ih, List.map_cons]

/-! ## Sameness -/

mutual

inductive SameValue : Json → Json → Prop where
  | null : SameValue .null .null
  | bool (b : Bool) : SameValue (.bool b) (.bool b)
  | int (i : ℤ) : SameValue (.int i) (.int i)
  | float (bits : UInt64) : SameValue (.float bits) (.float bits)
  | string (s : String) : SameValue (.string s) (.string s)
  | array {items items' : List Json} (h : SameItems items items') :
      SameValue (.array items) (.array items')
  /-- The members match in some order. -/
  | object {members members' members'' : List (String × Json)} (h : SameMembers members members')
      (hperm : members'.Perm members'') : SameValue (.object members) (.object members'')

inductive SameItems : List Json → List Json → Prop where
  | nil : SameItems [] []
  | cons {j j' : Json} {items items' : List Json} (h : SameValue j j')
      (hs : SameItems items items') : SameItems (j :: items) (j' :: items')

inductive SameMembers : List (String × Json) → List (String × Json) → Prop where
  | nil : SameMembers [] []
  | cons {key : String} {j j' : Json} {members members' : List (String × Json)} (h : SameValue j j')
      (hs : SameMembers members members') :
      SameMembers ((key, j) :: members) ((key, j') :: members')

end

/-- Members that agree after sorting their values agree one by one in some order. -/
theorem exists_aligned {members members' : List (String × Json)}
    (h : sortByKey (orderedMembers members) = sortByKey (orderedMembers members')) :
    ∃ aligned, List.Forall₂ (fun m n => m = (n.1, ordered n.2)) (orderedMembers members) aligned ∧
      aligned.Perm members' := by
  have hperm : (orderedMembers members).Perm (orderedMembers members') :=
    (perm_sortByKey _).symm.trans (h ▸ perm_sortByKey _)
  have hself : List.Forall₂ (fun m n => m = (n.1, ordered n.2)) (orderedMembers members')
      members' := by
    rw [orderedMembers_eq_map, List.forall₂_map_left_iff]
    exact List.forall₂_same.mpr (fun _ _ => rfl)
  exact List.perm_comp_forall₂ hperm hself

mutual

/-- Values with one representative are the same. -/
theorem sameValue_of_ordered_eq : ∀ {v w : Json}, ordered v = ordered w → SameValue v w
  | .null, w, h => by cases w <;> simp [ordered] at h; exact .null
  | .bool b, w, h => by cases w <;> simp [ordered] at h; exact h ▸ .bool b
  | .int i, w, h => by cases w <;> simp [ordered] at h; exact h ▸ .int i
  | .float bits, w, h => by cases w <;> simp [ordered] at h; exact h ▸ .float bits
  | .string s, w, h => by cases w <;> simp [ordered] at h; exact h ▸ .string s
  | .array items, w, h => by
    cases w <;> simp [ordered] at h
    exact .array (sameItems_of_ordered_eq h)
  | .object members, w, h => by
    cases w <;> simp [ordered] at h
    obtain ⟨aligned, hmatch, hperm⟩ := exists_aligned h
    exact .object (sameMembers_of_ordered hmatch) hperm

theorem sameItems_of_ordered_eq : ∀ {items items' : List Json},
    orderedItems items = orderedItems items' → SameItems items items'
  | [], items', h => by
    cases items' <;> simp [orderedItems] at h
    exact .nil
  | j :: items, items', h => by
    cases items' <;> simp [orderedItems] at h
    exact .cons (sameValue_of_ordered_eq h.1) (sameItems_of_ordered_eq h.2)

theorem sameMembers_of_ordered : ∀ {members members' : List (String × Json)},
    List.Forall₂ (fun m n => m = (n.1, ordered n.2)) (orderedMembers members) members' →
      SameMembers members members'
  | [], members', h => by
    cases h
    exact .nil
  | (key, j) :: members, members', h => by
    obtain ⟨⟨key', j'⟩, members', hhead, htail, rfl⟩ := List.forall₂_cons_left_iff.mp h
    obtain ⟨rfl, hj⟩ := Prod.mk.inj hhead
    exact .cons (sameValue_of_ordered_eq hj) (sameMembers_of_ordered htail)

end

/-! ## Unique keys -/

mutual

/-- Whether no object repeats a key. -/
def uniqueKeys : Json → Bool
  | .array items => uniqueKeysItems items
  | .object members => decide (members.map Prod.fst).Nodup && uniqueKeysMembers members
  | _ => true

def uniqueKeysItems : List Json → Bool
  | [] => true
  | j :: items => uniqueKeys j && uniqueKeysItems items

def uniqueKeysMembers : List (String × Json) → Bool
  | [] => true
  | (_, j) :: members => uniqueKeys j && uniqueKeysMembers members

end

theorem uniqueKeysItems_iff {items : List Json} :
    uniqueKeysItems items = true ↔ ∀ j ∈ items, uniqueKeys j = true := by
  induction items with
  | nil => simp [uniqueKeysItems]
  | cons j items ih => simp [uniqueKeysItems, ih]

theorem uniqueKeysMembers_iff {members : List (String × Json)} :
    uniqueKeysMembers members = true ↔ ∀ m ∈ members, uniqueKeys m.2 = true := by
  induction members with
  | nil => simp [uniqueKeysMembers]
  | cons m members ih => simp [uniqueKeysMembers, ih]

mutual

/-- A value has one representative, whatever the order of its members. -/
theorem ordered_eq_of_sameValue : ∀ {v w : Json}, SameValue v w → uniqueKeys v = true →
    ordered v = ordered w
  | _, _, .null, _ => rfl
  | _, _, .bool b, _ => rfl
  | _, _, .int i, _ => rfl
  | _, _, .float bits, _ => rfl
  | _, _, .string s, _ => rfl
  | _, _, .array h, hkeys => by
    rw [ordered, ordered, orderedItems_eq_of_sameItems h hkeys]
  | _, _, @SameValue.object members members' members'' h hperm, hkeys => by
    obtain ⟨hnodup, hvalues⟩ := Bool.and_eq_true_iff.mp hkeys
    have hmatch := orderedMembers_eq_of_sameMembers h hvalues
    have hfst : ((orderedMembers members).map Prod.fst).Nodup := by
      rw [orderedMembers_eq_map, List.map_map]
      exact of_decide_eq_true hnodup
    rw [ordered, ordered, sortByKey_eq_of_perm hfst ?_]
    rw [hmatch, orderedMembers_eq_map, orderedMembers_eq_map]
    exact hperm.map _

theorem orderedItems_eq_of_sameItems : ∀ {items items' : List Json}, SameItems items items' →
    uniqueKeysItems items = true → orderedItems items = orderedItems items'
  | _, _, .nil, _ => rfl
  | _, _, .cons h hs, hkeys => by
    obtain ⟨hhead, htail⟩ := Bool.and_eq_true_iff.mp hkeys
    rw [orderedItems, orderedItems, ordered_eq_of_sameValue h hhead,
      orderedItems_eq_of_sameItems hs htail]

theorem orderedMembers_eq_of_sameMembers : ∀ {members members' : List (String × Json)},
    SameMembers members members' → uniqueKeysMembers members = true →
      orderedMembers members = orderedMembers members'
  | _, _, .nil, _ => rfl
  | _, _, .cons h hs, hkeys => by
    obtain ⟨hhead, htail⟩ := Bool.and_eq_true_iff.mp hkeys
    rw [orderedMembers, orderedMembers, ordered_eq_of_sameValue h hhead,
      orderedMembers_eq_of_sameMembers hs htail]

end

/-- The representative decides sameness. -/
theorem ordered_eq_iff {v w : Json} (h : uniqueKeys v = true) :
    ordered v = ordered w ↔ SameValue v w :=
  ⟨sameValue_of_ordered_eq, fun hsame => ordered_eq_of_sameValue hsame h⟩

/-! ## Values without a type -/

/-- Of the members with one key the last. -/
def lastMembers {α : Type} : List (String × α) → List (String × α)
  | [] => []
  | m :: members =>
    if m.1 ∈ members.map Prod.fst then lastMembers members else m :: lastMembers members

mutual

/-- A value as it is kept when it is read without a type: of repeated keys the last counts. -/
def untyped : Json → Json
  | .array items => .array (untypedItems items)
  | .object members => .object (lastMembers (untypedMembers members))
  | .null => .null
  | .bool b => .bool b
  | .int i => .int i
  | .float bits => .float bits
  | .string s => .string s

def untypedItems : List Json → List Json
  | [] => []
  | j :: items => untyped j :: untypedItems items

def untypedMembers : List (String × Json) → List (String × Json)
  | [] => []
  | (key, j) :: members => (key, untyped j) :: untypedMembers members

end

section LastMembers
variable {α : Type} {members : List (String × α)}

theorem lastMembers_sublist (members : List (String × α)) :
    (lastMembers members).Sublist members := by
  induction members with
  | nil => exact List.Sublist.refl _
  | cons m members ih =>
    rw [lastMembers]
    split_ifs
    · exact ih.cons m
    · exact ih.cons_cons m

theorem nodup_lastMembers (members : List (String × α)) :
    ((lastMembers members).map Prod.fst).Nodup := by
  induction members with
  | nil => exact List.nodup_nil
  | cons m members ih =>
    rw [lastMembers]
    split_ifs with hm
    · exact ih
    · refine List.nodup_cons.mpr ⟨fun hlast => hm ?_, ih⟩
      exact ((lastMembers_sublist members).map Prod.fst).mem hlast

theorem lastMembers_eq_self (h : (members.map Prod.fst).Nodup) : lastMembers members = members := by
  induction members with
  | nil => rfl
  | cons m members ih =>
    obtain ⟨hm, hrest⟩ := List.nodup_cons.mp h
    rw [lastMembers, if_neg hm, ih hrest]

end LastMembers

theorem untypedItems_eq_map (items : List Json) : untypedItems items = items.map untyped := by
  induction items with
  | nil => rfl
  | cons j items ih => rw [untypedItems, ih, List.map_cons]

theorem untypedMembers_eq_map (members : List (String × Json)) :
    untypedMembers members = members.map (fun m => (m.1, untyped m.2)) := by
  induction members with
  | nil => rfl
  | cons m members ih => rw [untypedMembers, ih, List.map_cons]

theorem uniqueKeys_untyped (j : Json) : uniqueKeys (untyped j) = true := by
  induction j using Json.induction with
  | array items ih =>
    rw [untyped, uniqueKeys, untypedItems_eq_map, uniqueKeysItems_iff, List.forall_mem_map]
    exact ih
  | object members ih =>
    rw [untyped, uniqueKeys, Bool.and_eq_true, decide_eq_true_eq, uniqueKeysMembers_iff]
    refine ⟨nodup_lastMembers _, fun m hm => ?_⟩
    have hmem := (lastMembers_sublist _).mem hm
    rw [untypedMembers_eq_map] at hmem
    obtain ⟨m', hm', rfl⟩ := List.mem_map.mp hmem
    exact ih m' hm'
  | _ => rfl

theorem untyped_eq_self {j : Json} (h : uniqueKeys j = true) : untyped j = j := by
  induction j using Json.induction with
  | array items ih =>
    rw [untyped, untypedItems_eq_map]
    have hitems := List.map_congr_left fun j hj => ih j hj (uniqueKeysItems_iff.mp h j hj)
    exact congrArg Json.array (hitems.trans (List.map_id _))
  | object members ih =>
    obtain ⟨hkeys, hvalues⟩ := Bool.and_eq_true_iff.mp h
    have hmembers : members.map (fun m => (m.1, untyped m.2)) = members := by
      refine (List.map_congr_left fun m hm => ?_).trans (List.map_id _)
      exact Prod.ext rfl (ih m hm (uniqueKeysMembers_iff.mp hvalues m hm))
    rw [untyped, untypedMembers_eq_map, hmembers, lastMembers_eq_self (of_decide_eq_true hkeys)]
  | _ => rfl

theorem uniqueKeys_ordered {j : Json} (h : uniqueKeys j = true) :
    uniqueKeys (ordered j) = true := by
  induction j using Json.induction with
  | array items ih =>
    rw [ordered, uniqueKeys, orderedItems_eq_map, uniqueKeysItems_iff, List.forall_mem_map]
    exact fun j hj => ih j hj (uniqueKeysItems_iff.mp h j hj)
  | object members ih =>
    obtain ⟨hkeys, hvalues⟩ := Bool.and_eq_true_iff.mp h
    rw [ordered, uniqueKeys, Bool.and_eq_true, decide_eq_true_eq, uniqueKeysMembers_iff,
      orderedMembers_eq_map, sortByKey_map, List.map_map]
    constructor
    · exact ((perm_sortByKey members).map Prod.fst).nodup_iff.mpr (of_decide_eq_true hkeys)
    · rw [List.forall_mem_map]
      intro m hm
      have hm := (perm_sortByKey members).mem_iff.mp hm
      exact ih m hm (uniqueKeysMembers_iff.mp hvalues m hm)
  | _ => rfl

theorem ordered_ordered (j : Json) : ordered (ordered j) = ordered j := by
  induction j using Json.induction with
  | array items ih =>
    rw [ordered, ordered, orderedItems_eq_map, orderedItems_eq_map, List.map_map]
    exact congrArg Json.array (List.map_congr_left ih)
  | object members ih =>
    have hsorted : sortByKey (sortByKey members) = sortByKey members :=
      List.Pairwise.insertionSort_eq (List.pairwise_insertionSort _ members)
    rw [ordered, ordered, orderedMembers_eq_map, orderedMembers_eq_map, sortByKey_map,
      sortByKey_map, sortByKey_map, hsorted, List.map_map]
    refine congrArg Json.object (List.map_congr_left fun m hm => ?_)
    exact Prod.ext rfl (ih m ((perm_sortByKey members).mem_iff.mp hm))
  | _ => rfl

end JsonOrder
