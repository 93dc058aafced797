import Mathlib

/-!
# Maps whose entries expire

An entry is live until its expiry, and a clean-up drops nothing that is. Two maps agree at
a time when they have the same live entries then; rebuilding a map from its entries in any
order gives a map that agrees.
-/
namespace Expiring

variable {κ ε τ : Type*} [DecidableEq κ] [Hashable κ] [LinearOrder τ]

/-- The entry of a key, unless it has expired. -/
def live (expires : ε → τ) (t : τ) (m : Std.HashMap κ ε) (k : κ) : Option ε :=
  m[k]?.filter (fun e => decide (t < expires e))

/-- Drops the entries that have expired. -/
def cleanup (expires : ε → τ) (t : τ) (m : Std.HashMap κ ε) : Std.HashMap κ ε :=
  m.filter (fun _ e => decide (t < expires e))

variable {expires : ε → τ} {t t' : τ} {m m' : Std.HashMap κ ε} {k : κ} {e : ε}

theorem live_eq_some_iff : live expires t m k = some e ↔ m[k]? = some e ∧ t < expires e := by
  simp [live, Option.filter_eq_some_iff]

theorem live_empty : live expires t (∅ : Std.HashMap κ ε) k = none := by
  simp [live]

/-- Later on, fewer entries are live. -/
theorem live_later (h : t ≤ t') :
    live expires t' m k = (live expires t m k).filter (fun e => decide (t' < expires e)) := by
  rw [live, live, Option.filter_filter]
  congr 1
  funext e
  simp only [← Bool.decide_and, decide_eq_decide]
  exact ⟨fun he => ⟨h.trans_lt he, he⟩, And.right⟩

/-- Cleaning up takes nothing that is live later. -/
theorem live_cleanup (h : t ≤ t') :
    live expires t' (cleanup expires t m) k = live expires t' m k := by
  rw [live, cleanup, Std.HashMap.getElem?_filter', ← live, ← live_later h]

theorem live_insert_self :
    live expires t (m.insert k e) k = if t < expires e then some e else none := by
  simp only [live, Std.HashMap.getElem?_insert_self, Option.filter_some, decide_eq_true_eq]

theorem live_insert_of_ne {k' : κ} (h : k' ≠ k) :
    live expires t (m.insert k e) k' = live expires t m k' := by
  have hbeq : (k == k') = false := beq_eq_false_iff_ne.mpr (Ne.symm h)
  simp [live, Std.HashMap.getElem?_insert, hbeq]

/-! ## Counting live entries -/

/-- The keys whose entries have not expired. -/
def liveKeys (expires : ε → τ) (t : τ) (m : Std.HashMap κ ε) : List κ :=
  (m.toList.filter (fun f => decide (t < expires f.2))).map Prod.fst

theorem mem_liveKeys : k ∈ liveKeys expires t m ↔ (live expires t m k).isSome = true := by
  rw [Option.isSome_iff_exists]
  simp only [liveKeys, List.mem_map, List.mem_filter, decide_eq_true_eq, Prod.exists,
    exists_and_right, exists_eq_right, Std.HashMap.mem_toList_iff_getElem?_eq_some,
    live_eq_some_iff]

theorem nodup_liveKeys (expires : ε → τ) (t : τ) (m : Std.HashMap κ ε) :
    (liveKeys expires t m).Nodup := by
  have hdistinct : m.toList.Pairwise (fun a b => a.1 ≠ b.1) :=
    Std.HashMap.distinct_keys_toList.imp (fun hab => beq_eq_false_iff_ne.mp hab)
  exact List.pairwise_map.mpr (hdistinct.filter _)

/-- A map that has an entry for every live one of another has no fewer. -/
theorem length_liveKeys_le
    (h : ∀ k, (live expires t m k).isSome = true → (live expires t m' k).isSome = true) :
    (liveKeys expires t m).length ≤ (liveKeys expires t m').length :=
  ((nodup_liveKeys expires t m).subperm
    (fun k hk => mem_liveKeys.mpr (h k (mem_liveKeys.mp hk)))).length_le

/-- Maps with the same live entries. -/
def Agree (expires : ε → τ) (t : τ) (m m' : Std.HashMap κ ε) : Prop :=
  ∀ k, live expires t m k = live expires t m' k

/-- A map is determined by its entries, in whichever order they are inserted. -/
theorem Agree.foldl_insert {l : List (κ × ε)} (h : l.Perm m.toList) :
    Agree expires t (l.foldl (fun m' f => m'.insert f.1 f.2) ∅) m := by
  have hfold : ∀ (l : List (κ × ε)) (m₀ : Std.HashMap κ ε),
      l.foldl (fun m' f => m'.insert f.1 f.2) m₀ = m₀.insertMany l := by
    intro l
    induction l with
    | nil => exact fun m₀ => Std.HashMap.insertMany_nil.symm
    | cons f l ih =>
      intro m₀
      rw [List.foldl_cons, ih, Std.HashMap.insertMany_cons]
  have hdistinct : l.Pairwise (fun a b => (a.1 == b.1) = false) :=
    (h.pairwise_iff (fun hab => BEq.symm_false hab)).mpr Std.HashMap.distinct_keys_toList
  intro k
  rw [live, live, hfold]
  congr 1
  cases hk : m[k]? with
  | none =>
    rw [Std.HashMap.getElem?_insertMany_list_of_contains_eq_false]
    · simp
    · rw [Bool.eq_false_iff]
      intro hc
      obtain ⟨f, hf, rfl⟩ := List.mem_map.mp (List.contains_iff_mem.mp hc)
      have hsome := Std.HashMap.mem_toList_iff_getElem?_eq_some.mp (h.mem_iff.mp hf)
      simp [hk] at hsome
  | some e =>
    have hmem : (k, e) ∈ l := h.mem_iff.mpr (Std.HashMap.mem_toList_iff_getElem?_eq_some.mpr hk)
    exact Std.HashMap.getElem?_insertMany_list_of_mem BEq.rfl hdistinct hmem

end Expiring
