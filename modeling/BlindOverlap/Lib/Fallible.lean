import Mathlib

/-!
# Sequencing fallible computations

How `Except` blocks unfold, and what a successful block says about its parts.
-/

namespace Except
variable {ε : Type*} {α β : Type}

@[simp] theorem ok_bind (a : α) (f : α → Except ε β) : (Except.ok a >>= f) = f a := rfl

@[simp] theorem error_bind (e : ε) (f : α → Except ε β) :
    (Except.error e >>= f) = Except.error e := rfl

@[simp] theorem pure_eq_ok (a : α) : (pure a : Except ε α) = Except.ok a := rfl

@[simp] theorem throw_eq_error (e : ε) : (throw e : Except ε α) = Except.error e := rfl

/-- A block succeeds when its first part does and the rest succeeds on its value. -/
theorem bind_eq_ok_iff {x : Except ε α} {f : α → Except ε β} {b : β} :
    (x >>= f) = .ok b ↔ ∃ a, x = .ok a ∧ f a = .ok b := by
  cases x <;> simp

theorem bind_unit_eq_ok_iff {x : Except ε Unit} {f : Unit → Except ε β} {b : β} :
    (x >>= f) = .ok b ↔ x = .ok () ∧ f () = .ok b := by
  cases x <;> simp

/-- A block that starts with a check. -/
theorem ite_error_eq_ok_iff {p : Prop} [Decidable p] {e : ε} {x : Except ε α} {a : α} :
    (if p then .error e else x) = .ok a ↔ ¬ p ∧ x = .ok a := by
  by_cases hp : p <;> simp [hp]

/-- A block that ends in a check. -/
theorem bind_check_eq_ok_iff {x : Except ε Unit} {p : Prop} [Decidable p] {e : ε} :
    (do x; if p then throw e) = .ok () ↔ x = .ok () ∧ ¬ p := by
  rw [bind_unit_eq_ok_iff, throw_eq_error, ite_error_eq_ok_iff]
  simp

@[simp] theorem mapError_ok {ε' : Type*} (f : ε → ε') (a : α) :
    (Except.ok a : Except ε α).mapError f = .ok a := rfl

@[simp] theorem mapError_error {ε' : Type*} (f : ε → ε') (e : ε) :
    (Except.error e : Except ε α).mapError f = .error (f e) := rfl

@[simp] theorem mapError_eq_ok_iff {ε' : Type*} {x : Except ε α} {f : ε → ε'} {a : α} :
    x.mapError f = .ok a ↔ x = .ok a := by
  cases x <;> simp

@[simp] theorem map_eq_error_iff {x : Except ε α} {f : α → β} {e : ε} :
    x.map f = .error e ↔ x = .error e := by
  cases x <;> simp [Except.map]

theorem toOption_map {x : Except ε α} {f : α → β} : (x.map f).toOption = x.toOption.map f := by
  cases x <;> rfl

theorem toOption_eq_some_iff {x : Except ε α} {a : α} : x.toOption = some a ↔ x = .ok a := by
  cases x <;> simp [Except.toOption]

/-- A list is read when each of its items is, and item by item. -/
theorem mapM_eq_ok_iff {f : α → Except ε β} {l : List α} {l' : List β} :
    l.mapM f = .ok l' ↔ List.Forall₂ (fun a b => f a = .ok b) l l' := by
  induction l generalizing l' with
  | nil => cases l' <;> simp
  | cons a l ih =>
    simp only [List.mapM_cons, bind_eq_ok_iff, pure_eq_ok, ok.injEq,
      List.forall₂_cons_left_iff, exists_and_left, ← ih, @eq_comm _ l']

/-! ## Rows of checks -/

section Checks
variable {ι : Type} {l : List ι} {f : ι → Except ε Unit}

/-- A row of checks passes when every one of them does. -/
theorem forM_eq_ok_iff : forM l f = .ok () ↔ ∀ i ∈ l, f i = .ok () := by
  induction l with
  | nil => simp
  | cons i l ih => simp [bind_unit_eq_ok_iff, ih]

/-- A row of checks fails as the first of them that does. -/
theorem forM_eq_error_iff {e : ε} :
    forM l f = .error e ↔ ∃ before i after, l = before ++ i :: after ∧
      (∀ j ∈ before, f j = .ok ()) ∧ f i = .error e := by
  induction l with
  | nil => simp
  | cons i l ih =>
    rw [List.forM_cons]
    cases hi : f i with
    | error e' =>
      rw [error_bind]
      constructor
      · rintro ⟨⟩
        exact ⟨[], i, l, rfl, nofun, hi⟩
      · rintro ⟨before, j, after, hl, hbefore, hj⟩
        cases before with
        | nil =>
          obtain ⟨rfl, -⟩ := List.cons.inj hl
          exact hi.symm.trans hj
        | cons k before =>
          obtain ⟨rfl, -⟩ := List.cons.inj hl
          cases hi.symm.trans (hbefore i (by simp))
    | ok u =>
      rw [ok_bind, ih]
      constructor
      · rintro ⟨before, j, after, rfl, hbefore, hj⟩
        exact ⟨i :: before, j, after, rfl, List.forall_mem_cons.mpr ⟨hi, hbefore⟩, hj⟩
      · rintro ⟨before, j, after, hl, hbefore, hj⟩
        cases before with
        | nil =>
          obtain ⟨rfl, -⟩ := List.cons.inj hl
          cases hi.symm.trans hj
        | cons k before =>
          obtain ⟨rfl, rfl⟩ := List.cons.inj hl
          exact ⟨before, j, after, rfl, (List.forall_mem_cons.mp hbefore).2, hj⟩

end Checks

end Except
