import Mathlib

/-!
# Maps whose entries carry their key

An entry stands under the key that it carries. Such a map is listed by its entries, each
of them once and in any order, and is made again by inserting the entries of a list.
-/
namespace KeyedMap

variable {κ ε : Type*} [DecidableEq κ] [Hashable κ] {key : ε → κ} {m : Std.HashMap κ ε}

/-- Entries stand under the key that they carry. -/
def Keyed (key : ε → κ) (m : Std.HashMap κ ε) : Prop := ∀ k e, m[k]? = some e → key e = k

theorem keyed_empty : Keyed key (∅ : Std.HashMap κ ε) := by
  intro k e h
  simp at h

theorem Keyed.insert (h : Keyed key m) (e : ε) : Keyed key (m.insert (key e) e) := by
  intro k e' he'
  rw [Std.HashMap.getElem?_insert] at he'
  split_ifs at he' with hk
  · cases he'
    exact beq_iff_eq.mp hk
  · exact h k e' he'

theorem Keyed.erase (h : Keyed key m) (k : κ) : Keyed key (m.erase k) := by
  intro k' e he
  rw [Std.HashMap.getElem?_erase] at he
  split_ifs at he
  exact h k' e he

/-- A list of the entries of a map, each of them once. -/
structure Lists (key : ε → κ) (l : List ε) (m : Std.HashMap κ ε) : Prop where
  nodup : (l.map key).Nodup
  mem_iff : ∀ e, e ∈ l ↔ m[key e]? = some e

theorem Lists.perm {l l' : List ε} (h : Lists key l m) (hp : l'.Perm l) : Lists key l' m :=
  ⟨(hp.map key).nodup_iff.mpr h.nodup, fun e => hp.mem_iff.trans (h.mem_iff e)⟩

/-- The values of a map list it. -/
theorem Keyed.lists (h : Keyed key m) : Lists key (m.toList.map Prod.snd) m where
  nodup := by
    have hkeys : (m.toList.map Prod.snd).map key = m.toList.map Prod.fst := by
      rw [List.map_map]
      refine List.map_congr_left (fun p hp => ?_)
      exact h p.1 p.2 (Std.HashMap.mem_toList_iff_getElem?_eq_some.mp hp)
    rw [hkeys, Std.HashMap.map_fst_toList_eq_keys]
    exact Std.HashMap.nodup_keys
  mem_iff e := by
    constructor
    · intro he
      obtain ⟨⟨k, e'⟩, hp, rfl⟩ := List.mem_map.mp he
      have hk := Std.HashMap.mem_toList_iff_getElem?_eq_some.mp hp
      exact (h k e' hk).symm ▸ hk
    · intro he
      exact List.mem_map.mpr ⟨(key e, e), Std.HashMap.mem_toList_iff_getElem?_eq_some.mpr he, rfl⟩

/-- Inserts entries one after another. -/
def insertAll (key : ε → κ) (m : Std.HashMap κ ε) (l : List ε) : Std.HashMap κ ε :=
  l.foldl (fun m e => m.insert (key e) e) m

/-- Of entries with different keys each is found, and nothing else is changed. -/
theorem getElem?_insertAll (m : Std.HashMap κ ε) {l : List ε} (hn : (l.map key).Nodup) (k : κ) :
    (insertAll key m l)[k]? = (l.find? (fun e => key e = k)).or m[k]? := by
  induction l generalizing m with
  | nil => rfl
  | cons e l ih =>
    obtain ⟨he, hn⟩ := List.nodup_cons.mp hn
    have hrest : (insertAll key m (e :: l))[k]? =
        (l.find? (fun e => key e = k)).or (m.insert (key e) e)[k]? := ih _ hn
    rw [hrest, Std.HashMap.getElem?_insert, List.find?_cons]
    by_cases hk : key e = k
    · have hnone : l.find? (fun e' => key e' = k) = none := by
        refine List.find?_eq_none.mpr (fun e' he' hke' => he ?_)
        rw [hk, ← of_decide_eq_true hke']
        exact List.mem_map_of_mem he'
      simp [hk, hnone]
    · simp [hk]

/-- A map is made again from any list of it. -/
theorem Lists.getElem?_insertAll {l : List ε} (h : Lists key l m) (hm : Keyed key m) (k : κ) :
    (KeyedMap.insertAll key ∅ l)[k]? = m[k]? := by
  rw [KeyedMap.getElem?_insertAll ∅ h.nodup]
  cases hf : l.find? (fun e => key e = k) with
  | some e =>
    have hk : key e = k := by simpa using List.find?_some hf
    have he := (h.mem_iff e).mp (List.mem_of_find?_eq_some hf)
    rw [← hk, he]
    rfl
  | none =>
    cases hmk : m[k]? with
    | none => simp
    | some e =>
      have hk := hm k e hmk
      have he : e ∈ l := (h.mem_iff e).mpr (hk.symm ▸ hmk)
      simpa [hk] using List.find?_eq_none.mp hf e he

end KeyedMap
