import BlindOverlap.Lib.JsonOrder
import BlindOverlap.Lib.JsonText
import BlindOverlap.Lib.Text

/-!
# JSON texts as lines

A text without spaces has no line breaks either, and it starts and ends with a token. It is
a line of its own, which trimming leaves as it is.
-/

namespace JsonText

/-! ## Line breaks -/

/-- No control characters. -/
def Printable (cs : List Char) : Prop := ∀ c ∈ cs, 32 ≤ c.toNat

theorem printable_append {cs ds : List Char} :
    Printable (cs ++ ds) ↔ Printable cs ∧ Printable ds := by
  rw [Printable, List.forall_mem_append]
  rfl

theorem printable_cons {c : Char} {cs : List Char} :
    Printable (c :: cs) ↔ 32 ≤ c.toNat ∧ Printable cs := List.forall_mem_cons

theorem printable_intercalate {texts : List (List Char)} (h : ∀ cs ∈ texts, Printable cs) :
    Printable (List.intercalate [','] texts) := by
  induction texts with
  | nil => exact List.forall_mem_nil _
  | cons cs texts ih =>
    obtain ⟨hhead, htail⟩ := List.forall_mem_cons.mp h
    cases texts with
    | nil =>
      rw [List.intercalate_singleton]
      exact hhead
    | cons ds texts =>
      rw [List.intercalate_cons_cons, printable_append, printable_append]
      exact ⟨⟨hhead, by simp [Printable]⟩, ih htail⟩

theorem digitChar_printable : ∀ n < 16, 32 ≤ (Nat.digitChar n).toNat := by decide

theorem printable_printChar (c : Char) : Printable (printChar c) := by
  unfold printChar
  split_ifs with hquote hslash hnewline hreturn htab hback hform hcontrol
  · simp [Printable]
  · simp [Printable]
  · simp [Printable]
  · simp [Printable]
  · simp [Printable]
  · simp [Printable]
  · simp [Printable]
  · have hhigh := digitChar_printable (c.toNat / 16) (by omega)
    have hlow := digitChar_printable (c.toNat % 16) (by omega)
    simp only [printable_cons]
    exact ⟨by simp, by simp, by simp, by simp, hhigh, hlow, List.forall_mem_nil _⟩
  · exact printable_cons.mpr ⟨Nat.le_of_not_lt hcontrol, List.forall_mem_nil _⟩

theorem printable_printString (s : String) : Printable (printString s) := by
  rw [printString, printable_cons, printable_append]
  refine ⟨by simp, ?_, by simp [Printable]⟩
  intro d hd
  obtain ⟨c, -, hmem⟩ := List.mem_flatMap.mp hd
  exact printable_printChar c d hmem

theorem toNat_of_isDigit {c : Char} (h : c.isDigit = true) : 48 ≤ c.toNat ∧ c.toNat ≤ 57 := by
  rw [Char.isDigit, Bool.and_eq_true, decide_eq_true_eq, decide_eq_true_eq] at h
  exact h

theorem printInt_chars (i : ℤ) : ∀ c ∈ printInt i, c = '-' ∨ c.isDigit = true := by
  have hdigits : ∀ c ∈ Nat.toDigits 10 i.natAbs, c.isDigit = true :=
    fun c hc => Nat.isDigit_of_mem_toDigits (by decide) (by decide) hc
  intro c hc
  unfold printInt at hc
  split_ifs at hc
  · exact (List.mem_cons.mp hc).imp id (hdigits c)
  · exact .inr (hdigits c hc)

theorem printable_printInt (i : ℤ) : Printable (printInt i) := by
  intro c hc
  rcases printInt_chars i c hc with rfl | hdigit
  · simp
  · have hc := toNat_of_isDigit hdigit
    omega

theorem printable_print (j : Json) (depth : ℕ) : Printable (print compact depth j) := by
  induction j using Json.induction generalizing depth with
  | null => simp [print, Printable]
  | bool b => cases b <;> simp [print, Printable]
  | int i => exact printable_printInt i
  | float bits => exact List.forall_mem_nil _
  | string s => exact printable_printString s
  | array items ih =>
    have hitems : ∀ cs ∈ items.map (print compact (depth + 1)), Printable cs :=
      List.forall_mem_map.mpr fun j hj => ih j hj (depth + 1)
    rw [print_array, printable_cons, printable_append]
    exact ⟨by simp, printable_intercalate hitems, by simp [Printable]⟩
  | object members ih =>
    have hmembers : ∀ cs ∈ members.map (printMember compact (depth + 1)), Printable cs := by
      refine List.forall_mem_map.mpr fun m hm => ?_
      rw [printMember, printable_append, printable_cons]
      exact ⟨printable_printString m.1, by simp, ih m hm (depth + 1)⟩
    rw [print_object, printable_cons, printable_append]
    exact ⟨by simp, printable_intercalate hmembers, by simp [Printable]⟩

theorem unbroken_toText (j : Json) : Text.Unbroken (toText compact j) := by
  rw [Text.Unbroken, toText, String.toList_ofList]
  constructor
  · intro hc
    exact absurd (printable_print j 0 _ hc) (by decide)
  · intro hc
    exact absurd (printable_print j 0 _ hc) (by decide)

/-! ## Ends of a line -/

/-- What a compact text starts and ends with. -/
def IsEdge (c : Char) : Prop :=
  c.isDigit = true ∨ c ∈ ['-', '\"', '[', ']', '\x7b', '\x7d', 'n', 't', 'f', 'l', 'e']

theorem IsEdge.solid {c : Char} (h : IsEdge c) : Text.isWhitespace c = false ∧ c ≠ '#' := by
  rcases h with hdigit | hmem
  · have hc := toNat_of_isDigit hdigit
    constructor
    · rw [Text.isWhitespace, ← Bool.not_eq_true]
      simp only [Bool.or_eq_true, decide_eq_true_eq, beq_iff_eq]
      omega
    · rintro rfl
      exact absurd hdigit (by decide)
  · have hall : ∀ d ∈ ['-', '\"', '[', ']', '\x7b', '\x7d', 'n', 't', 'f', 'l', 'e'],
        Text.isWhitespace d = false ∧ d ≠ '#' := by
      simp [Text.isWhitespace]
    exact hall c hmem

theorem print_edges {j : Json} (h : plain j = true) (depth : ℕ) :
    ∃ first last, (print compact depth j).head? = some first ∧
      (print compact depth j).getLast? = some last ∧ IsEdge first ∧ IsEdge last := by
  cases j with
  | null =>
    rw [print]
    exact ⟨'n', 'l', rfl, rfl, by simp [IsEdge], by simp [IsEdge]⟩
  | bool b =>
    cases b
    · rw [print]
      exact ⟨'f', 'e', rfl, rfl, by simp [IsEdge], by simp [IsEdge]⟩
    · rw [print]
      exact ⟨'t', 'e', rfl, rfl, by simp [IsEdge], by simp [IsEdge]⟩
  | int i =>
    rw [print]
    obtain ⟨c, rest, hc, -⟩ := printInt_head i
    have hedge : ∀ d ∈ printInt i, IsEdge d := by
      intro d hd
      rcases printInt_chars i d hd with rfl | hdigit
      · exact .inr (by decide)
      · exact .inl hdigit
    have hne : printInt i ≠ [] := by simp [hc]
    exact ⟨_, _, List.head?_eq_some_head hne, List.getLast?_eq_some_getLast hne,
      hedge _ (List.head_mem hne), hedge _ (List.getLast_mem hne)⟩
  | float bits => cases h
  | string s =>
    refine ⟨'\"', '\"', by rw [print]; rfl, ?_, by simp [IsEdge], by simp [IsEdge]⟩
    rw [print, printString, ← List.cons_append, List.getLast?_concat]
  | array items =>
    refine ⟨'[', ']', by rw [print_array]; rfl, ?_, by simp [IsEdge], by simp [IsEdge]⟩
    rw [print_array, ← List.cons_append, List.getLast?_concat]
  | object members =>
    refine ⟨'\x7b', '\x7d', by rw [print_object]; rfl, ?_, by simp [IsEdge], by simp [IsEdge]⟩
    rw [print_object, ← List.cons_append, List.getLast?_concat]

/-- A compact text is no comment, and not blank. -/
theorem toText_solid {j : Json} (h : plain j = true) :
    Text.trim (toText compact j) = toText compact j ∧
      ¬ (toText compact j = "" ∨ (toText compact j).toList.head? = some '#') := by
  obtain ⟨first, last, hfirst, hlast, hsolid, hend⟩ := print_edges h 0
  have htext : (toText compact j).toList = print compact 0 j := String.toList_ofList
  constructor
  · refine Text.trim_of_ends ?_ ?_
    · rw [htext, hfirst]
      exact fun c hc => Option.some.inj hc ▸ hsolid.solid.1
    · rw [htext, hlast]
      exact fun c hc => Option.some.inj hc ▸ hend.solid.1
  · rintro (hempty | hcomment)
    · rw [← htext, hempty] at hfirst
      cases hfirst
    · rw [htext, hfirst] at hcomment
      exact hsolid.solid.2 (Option.some.inj hcomment)

end JsonText
