import Mathlib

/-!
# Settings that later ones override

A list of settings is carried out one after another, each of them on one place. What is seen
of a place in the end is due to the last setting of it, so a condition on all places is one on
the settings that no later one overrides.
-/
namespace Overriding
variable {ω κ σ : Type*}

/-- A setting of the list with no later one of the same place. -/
def InForce (place : ω → κ) (l : List ω) (w : ω) : Prop :=
  ∃ before after, l = before ++ w :: after ∧ ∀ v ∈ after, place v ≠ place w

theorem not_inForce_nil {place : ω → κ} {w : ω} : ¬ InForce place [] w := by
  rintro ⟨before, after, h, -⟩
  simp at h

/-- Of a longer list the last setting is in force, and those before it whose place it is not. -/
theorem inForce_concat {place : ω → κ} {l : List ω} {x w : ω} :
    InForce place (l ++ [x]) w ↔ w = x ∨ (place x ≠ place w ∧ InForce place l w) := by
  constructor
  · rintro ⟨before, after, h, hafter⟩
    rcases List.eq_nil_or_concat' after with rfl | ⟨after, y, rfl⟩
    · exact .inl (List.head_eq_of_cons_eq (List.append_inj' h rfl).2).symm
    · have hsplit : l ++ [x] = (before ++ w :: after) ++ [y] := by simpa using h
      obtain ⟨rfl, hy⟩ := List.append_inj' hsplit rfl
      obtain rfl := List.head_eq_of_cons_eq hy
      refine .inr ⟨hafter x (by simp), before, after, rfl, fun v hv => ?_⟩
      exact hafter v (by simp [hv])
  · rintro (rfl | ⟨hx, before, after, rfl, hafter⟩)
    · exact ⟨l, [], rfl, by simp⟩
    · refine ⟨before, after ++ [x], by simp, fun v hv => ?_⟩
      rcases List.mem_append.mp hv with hv | hv
      · exact hafter v hv
      · rw [List.mem_singleton.mp hv]
        exact hx

section Views
variable {place : ω → κ} {apply : σ → ω → σ} (view : σ → κ → Prop) {met : ω → Prop}

/-- What is seen of one place after all settings. -/
theorem view_foldl_iff (hself : ∀ s w, view (apply s w) (place w) ↔ met w)
    (hother : ∀ s w k, k ≠ place w → (view (apply s w) k ↔ view s k)) (s : σ) (l : List ω) (k : κ) :
    view (l.foldl apply s) k ↔ (∀ w, InForce place l w → place w = k → met w) ∧
      ((∀ w ∈ l, place w ≠ k) → view s k) := by
  induction l using List.reverseRecOn with
  | nil => simp [not_inForce_nil]
  | append_singleton l x ih =>
    rw [List.foldl_concat]
    by_cases hk : place x = k
    · subst hk
      rw [hself]
      constructor
      · intro hx
        refine ⟨fun w hw hplace => ?_, fun h => absurd rfl (h x (by simp))⟩
        rcases inForce_concat.mp hw with rfl | ⟨hne, -⟩
        · exact hx
        · exact absurd hplace.symm hne
      · intro h
        exact h.1 x (inForce_concat.mpr (.inl rfl)) rfl
    · rw [hother _ _ _ (Ne.symm hk), ih]
      have hrest : (∀ w, InForce place (l ++ [x]) w → place w = k → met w) ↔
          ∀ w, InForce place l w → place w = k → met w := by
        refine forall_congr' fun w => ?_
        constructor
        · intro h hw hplace
          exact h (inForce_concat.mpr (.inr ⟨hplace ▸ hk, hw⟩)) hplace
        · intro h hw hplace
          rcases inForce_concat.mp hw with rfl | ⟨-, hw⟩
          · exact absurd hplace hk
          · exact h hw hplace
      rw [hrest]
      refine and_congr_right fun _ => imp_congr_left ?_
      simp [or_imp, forall_and, hk]

/-- Where every place is in order at first, all of them are in the end exactly if the settings
in force are met. -/
theorem forall_view_foldl_iff (hself : ∀ s w, view (apply s w) (place w) ↔ met w)
    (hother : ∀ s w k, k ≠ place w → (view (apply s w) k ↔ view s k)) {s : σ}
    (hs : ∀ k, view s k) (l : List ω) :
    (∀ k, view (l.foldl apply s) k) ↔ ∀ w, InForce place l w → met w := by
  constructor
  · intro h w hw
    exact ((view_foldl_iff view hself hother s l (place w)).mp (h (place w))).1 w hw rfl
  · intro h k
    exact (view_foldl_iff view hself hother s l k).mpr ⟨fun w hw _ => h w hw, fun _ => hs k⟩

end Views

end Overriding
