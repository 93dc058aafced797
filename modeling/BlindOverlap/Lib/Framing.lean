import BlindOverlap.Lib.Bytes

/-!
# Values written one after another

An encoding that says where it ends can be followed by anything and still be read off the
front. A text that is written without its length cannot: a longer text may go on into the
bytes that follow a shorter one. Two such messages are equal only in this way.
-/
namespace Framing

variable {α β γ : Type}

/-- No encoding goes on where another one has ended. -/
def SelfDelimiting (f : α → List β) : Prop :=
  ∀ ⦃a b s t⦄, f a ++ s = f b ++ t → a = b ∧ s = t

theorem SelfDelimiting.injective {f : α → List β} (h : SelfDelimiting f) :
    Function.Injective f := by
  intro a b hab
  exact (h (s := []) (t := []) (by rw [hab])).1

theorem SelfDelimiting.of_length {f : α → List β} {n : ℕ} (hinj : Function.Injective f)
    (hlength : ∀ a, (f a).length = n) : SelfDelimiting f := by
  intro a b s t h
  obtain ⟨hf, hst⟩ := List.append_inj h ((hlength a).trans (hlength b).symm)
  exact ⟨hinj hf, hst⟩

theorem SelfDelimiting.comp {f : α → List β} (h : SelfDelimiting f) {g : γ → α}
    (hg : Function.Injective g) : SelfDelimiting (fun c => f (g c)) := by
  intro a b s t heq
  obtain ⟨hab, hst⟩ := h heq
  exact ⟨hg hab, hst⟩

/-- A byte in front tells an absent part from a present one. -/
theorem SelfDelimiting.marked {f : α → List UInt8} (h : SelfDelimiting f) :
    SelfDelimiting (fun o : Option α => o.elim [0] (fun a => 1 :: f a)) := by
  intro a b s t heq
  cases a with
  | none =>
    cases b with
    | none => exact ⟨rfl, (List.cons.inj heq).2⟩
    | some b => exact absurd (List.cons.inj heq).1 (by decide)
  | some a =>
    cases b with
    | none => exact absurd (List.cons.inj heq).1 (by decide)
    | some b =>
      obtain ⟨rfl, hst⟩ := h (List.cons.inj heq).2
      exact ⟨rfl, hst⟩

/-- Among lists of one length the encodings of the elements can be read one by one. -/
theorem SelfDelimiting.flatMap {f : α → List β} (h : SelfDelimiting f) {xs ys : List α}
    {s t : List β} (hlength : xs.length = ys.length)
    (heq : xs.flatMap f ++ s = ys.flatMap f ++ t) : xs = ys ∧ s = t := by
  induction xs generalizing ys with
  | nil =>
    rw [List.length_nil] at hlength
    rw [List.eq_nil_of_length_eq_zero hlength.symm] at heq ⊢
    exact ⟨rfl, heq⟩
  | cons x xs ih =>
    cases ys with
    | nil => cases hlength
    | cons y ys =>
      simp only [List.flatMap_cons, List.append_assoc] at heq
      obtain ⟨rfl, htail⟩ := h heq
      obtain ⟨rfl, hst⟩ := ih (Nat.succ.inj hlength) htail
      exact ⟨rfl, hst⟩

/-- Encodings of one positive length give away how many they are. -/
theorem flatMap_injective {f : α → List β} {n : ℕ} (hn : 0 < n) (hinj : Function.Injective f)
    (hlength : ∀ a, (f a).length = n) : Function.Injective (fun l : List α => l.flatMap f) := by
  intro xs ys h
  have htotal : ∀ l : List α, (l.flatMap f).length = l.length * n := by
    intro l
    simp [List.length_flatMap, hlength]
  have hcount : xs.length * n = ys.length * n := by
    rw [← htotal xs, ← htotal ys]
    exact congrArg List.length h
  exact ((SelfDelimiting.of_length hinj hlength).flatMap (Nat.eq_of_mul_eq_mul_right hn hcount)
    (congrArg (· ++ []) h)).1

/-! ## Numbers and arrays -/

theorem SelfDelimiting.bytes (n : ℕ) : SelfDelimiting (Bytes.toList (n := n)) :=
  .of_length Bytes.toList_injective Bytes.length_toList

/-- Numbers that fit into the width are told apart by their bytes. -/
theorem leBytes_inj {width m n : ℕ} (hm : m < 256 ^ width) (hn : n < 256 ^ width)
    (h : leBytes width m = leBytes width n) : m = n := by
  induction width generalizing m n with
  | zero => omega
  | succ width ih =>
    obtain ⟨hlow, hhigh⟩ := List.cons.inj h
    have hmod : m % 256 = n % 256 := by simpa using congrArg UInt8.toNat hlow
    have hdiv : m / 256 = n / 256 := by
      refine ih ?_ ?_ hhigh
      · exact Nat.div_lt_of_lt_mul (by rwa [pow_succ'] at hm)
      · exact Nat.div_lt_of_lt_mul (by rwa [pow_succ'] at hn)
    omega

theorem SelfDelimiting.uint64 : SelfDelimiting (fun n : UInt64 => leBytes 8 n.toNat) :=
  .of_length (fun a b h => UInt64.toNat_inj.mp (leBytes_inj a.toNat_lt b.toNat_lt h))
    (fun a => length_leBytes 8 a.toNat)

theorem SelfDelimiting.uint32 : SelfDelimiting (fun n : UInt32 => leBytes 4 n.toNat) :=
  .of_length (fun a b h => UInt32.toNat_inj.mp (leBytes_inj a.toNat_lt b.toNat_lt h))
    (fun a => length_leBytes 4 a.toNat)

/-- A list behind its own length, as long as the length fits. -/
theorem SelfDelimiting.counted {f : α → List UInt8} (h : SelfDelimiting f) {width : ℕ}
    {xs ys : List α} {s t : List UInt8} (hx : xs.length < 256 ^ width)
    (hy : ys.length < 256 ^ width)
    (heq : leBytes width xs.length ++ (xs.flatMap f ++ s) =
      leBytes width ys.length ++ (ys.flatMap f ++ t)) : xs = ys ∧ s = t := by
  obtain ⟨hcount, hitems⟩ := List.append_inj heq (by simp)
  exact h.flatMap (leBytes_inj hx hy hcount) hitems

/-! ## Labelled parts -/

/-- Neither of two labels is the beginning of the other. -/
def Clashes (l m : List β) : Prop := ¬ l <+: m ∧ ¬ m <+: l

instance [DecidableEq β] (l m : List β) : Decidable (Clashes l m) :=
  inferInstanceAs (Decidable (_ ∧ _))

theorem Clashes.symm {l m : List β} (h : Clashes l m) : Clashes m l := ⟨h.2, h.1⟩

theorem Clashes.not_isPrefix {l m : List β} (h : Clashes l m) (s : List β) : ¬ l <+: m ++ s := by
  intro hl
  rcases List.prefix_or_prefix_of_prefix hl (List.prefix_append m s) with hlm | hml
  · exact h.1 hlm
  · exact h.2 hml

/-- Words of which none begins another are self-delimiting. -/
theorem SelfDelimiting.of_clashes {f : α → List β} (h : ∀ a b, a ≠ b → Clashes (f a) (f b)) :
    SelfDelimiting f := by
  intro a b s t heq
  have hab : a = b := by
    by_contra hne
    exact (h a b hne).not_isPrefix t ⟨s, heq⟩
  subst hab
  exact ⟨rfl, List.append_cancel_left heq⟩

/-- A part that is left out when it is absent is recognised by its label, where nothing that
follows can begin with that label. -/
theorem labelled_read {f : α → List β} {label s t : List β} {a b : Option α}
    (h : ∀ x ∈ a, ∀ y ∈ b, f x ++ s = f y ++ t → x = y ∧ s = t)
    (hs : ¬ label <+: s) (ht : ¬ label <+: t)
    (heq : a.elim [] (fun x => label ++ f x) ++ s = b.elim [] (fun x => label ++ f x) ++ t) :
    a = b ∧ s = t := by
  cases a with
  | none =>
    cases b with
    | none => exact ⟨rfl, heq⟩
    | some b =>
      refine absurd ⟨f b ++ t, ?_⟩ hs
      simpa using heq.symm
  | some a =>
    cases b with
    | none =>
      refine absurd ⟨f a ++ s, ?_⟩ ht
      simpa using heq
    | some b =>
      simp only [Option.elim_some, List.append_assoc] at heq
      obtain ⟨rfl, hst⟩ := h a rfl b rfl (List.append_cancel_left heq)
      exact ⟨rfl, hst⟩

theorem not_prefix_labelled {f : α → List β} {label other s : List β} (o : Option α)
    (hother : Clashes label other) (hs : ¬ label <+: s) :
    ¬ label <+: o.elim [] (fun x => other ++ f x) ++ s := by
  cases o with
  | none => exact hs
  | some x =>
    rw [Option.elim_some, List.append_assoc]
    exact hother.not_isPrefix _

/-- Two messages that begin with one label are shifted against each other by at least as much
of the label as does not overlap with itself. -/
theorem take_prefix_of_shift {label t x y : List β} {n : ℕ} (ht : t ≠ [])
    (hborder : ∀ k < n, 0 < k → ¬ label.drop k <+: label) (h : label ++ y = t ++ (label ++ x)) :
    label.take n <+: t := by
  rcases List.append_eq_append_iff.mp h with ⟨u, rfl, -⟩ | ⟨u, rfl, hu⟩
  · exact (List.take_prefix n label).trans (List.prefix_append label u)
  · have hu' : u <+: t ++ u := by
      rcases List.prefix_or_prefix_of_prefix (List.prefix_append u y)
        (hu ▸ List.prefix_append (t ++ u) x) with hpre | hpre
      · exact hpre
      · have hlength := hpre.length_le
        rw [List.length_append] at hlength
        exact absurd (List.length_eq_zero_iff.mp (by omega)) ht
    by_cases hn : n ≤ t.length
    · rw [List.take_append_of_le_length hn]
      exact List.take_prefix n t
    · refine absurd ?_ (hborder t.length (by omega) (List.length_pos_iff.mpr ht))
      simpa using hu'

/-- The first part of one message lies across a boundary of another. -/
theorem across {x s y k t : List β} (h : x ++ s = y ++ (k ++ t))
    (hle : y.length + k.length ≤ x.length) :
    ∃ m, x = y ++ (k ++ m) ∧ t = m ++ s ∧ y.length + (k.length + m.length) = x.length := by
  rw [← List.append_assoc] at h
  rcases List.append_eq_append_iff.mp h with ⟨m, hm, hs⟩ | ⟨m, hm, ht⟩
  · have hlength := congrArg List.length hm
    simp only [List.length_append] at hlength
    obtain rfl : m = [] := List.length_eq_zero_iff.mp (by omega)
    refine ⟨[], ?_, by simpa using hs.symm, ?_⟩
    · simpa using hm.symm
    · simpa using hlength
  · have hlength := congrArg List.length hm
    simp only [List.length_append] at hlength
    refine ⟨m, by rw [hm, List.append_assoc], ht, ?_⟩
    omega

/-! ## A text without an end of its own -/

section Running
variable {text rest text' rest' : List β}

/-- The second text goes on where the first one ends, spelling out the beginning of what
follows it there. -/
def RunsInto (text rest text' rest' : List β) : Prop :=
  ∃ t ≠ [], text' = text ++ t ∧ rest = t ++ rest'

theorem append_eq_append_iff :
    text ++ rest = text' ++ rest' ↔ (text = text' ∧ rest = rest') ∨
      RunsInto text rest text' rest' ∨ RunsInto text' rest' text rest := by
  rw [List.append_eq_append_iff]
  constructor
  · rintro (⟨t, htext, hrest⟩ | ⟨t, htext, hrest⟩)
    · rcases eq_or_ne t [] with rfl | ht
      · exact .inl ⟨by simpa using htext.symm, by simpa using hrest⟩
      · exact .inr (.inl ⟨t, ht, htext, hrest⟩)
    · rcases eq_or_ne t [] with rfl | ht
      · exact .inl ⟨by simpa using htext, by simpa using hrest.symm⟩
      · exact .inr (.inr ⟨t, ht, htext, hrest⟩)
  · rintro (⟨htext, hrest⟩ | ⟨t, -, htext, hrest⟩ | ⟨t, -, htext, hrest⟩)
    · exact .inl ⟨[], by simp [htext], by simp [hrest]⟩
    · exact .inl ⟨t, htext, hrest⟩
    · exact .inr ⟨t, htext, hrest⟩

theorem RunsInto.ne (h : RunsInto text rest text' rest') : text ≠ text' := by
  obtain ⟨t, ht, htext, -⟩ := h
  intro heq
  exact ht (by simpa [heq] using htext)

theorem RunsInto.length_lt (h : RunsInto text rest text' rest') : rest'.length < rest.length := by
  obtain ⟨t, ht, -, hrest⟩ := h
  have := List.length_pos_iff.mpr ht
  rw [hrest, List.length_append]
  omega

/-- Messages that mean the same, `P`, exactly if text and rest agree are told apart unless
one of them runs into the other. -/
theorem distinguished_iff {P : Prop} (hP : P ↔ text = text' ∧ rest = rest') :
    (¬ P → text ++ rest ≠ text' ++ rest') ↔
      ¬ RunsInto text rest text' rest' ∧ ¬ RunsInto text' rest' text rest := by
  rw [← not_or, not_imp_not, append_eq_append_iff, hP]
  constructor
  · rintro h (hruns | hruns)
    · exact hruns.ne (h (.inr (.inl hruns))).1
    · exact hruns.ne (h (.inr (.inr hruns))).1.symm
  · rintro h (hsame | hruns)
    · exact hsame
    · exact absurd hruns h

end Running

/-! ## Layouts

A layout tells which bytes stand at fixed places. Whether two messages can be shifted
against each other at all is read off their layouts. -/

def Fits (layout : List (Option β)) (message : List β) : Prop :=
  List.Forall₂ (fun place b => ∀ c ∈ place, c = b) layout message

namespace Fits

theorem nil : Fits ([] : List (Option β)) [] := List.Forall₂.nil

theorem append {l l' : List (Option β)} {m m' : List β} (h : Fits l m) (h' : Fits l' m') :
    Fits (l ++ l') (m ++ m') :=
  List.rel_append h h'

theorem fixed (m : List β) : Fits (m.map some) m := by
  rw [Fits, List.forall₂_map_left_iff]
  exact List.forall₂_same.mpr (fun b _ c hc => (Option.some.inj hc).symm)

theorem free {m : List β} {n : ℕ} (h : m.length = n) : Fits (List.replicate n none) m := by
  induction m generalizing n with
  | nil =>
    rw [← h]
    exact nil
  | cons b m ih =>
    rw [← h]
    exact .cons (fun c hc => absurd hc (by simp)) (ih rfl)

theorem length {l : List (Option β)} {m : List β} (h : Fits l m) : l.length = m.length :=
  List.Forall₂.length_eq h

end Fits

/-- Only two different bytes exclude each other. -/
def placesAgree [DecidableEq β] : Option β → Option β → Bool
  | some a, some b => decide (a = b)
  | _, _ => true

/-- Whether one message can have both layouts. -/
def compatible [DecidableEq β] : List (Option β) → List (Option β) → Bool
  | [], [] => true
  | p :: l, p' :: l' => placesAgree p p' && compatible l l'
  | _, _ => false

theorem placesAgree_of_mem [DecidableEq β] {p p' : Option β} {b : β} (h : ∀ c ∈ p, c = b)
    (h' : ∀ c ∈ p', c = b) : placesAgree p p' = true := by
  cases p with
  | none => rfl
  | some a =>
    cases p' with
    | none => rfl
    | some a' => exact decide_eq_true ((h a rfl).trans (h' a' rfl).symm)

theorem Fits.compatible [DecidableEq β] {l l' : List (Option β)} {m : List β} (h : Fits l m)
    (h' : Fits l' m) : Framing.compatible l l' = true := by
  induction m generalizing l l' with
  | nil =>
    cases h
    cases h'
    rfl
  | cons b m ih =>
    obtain ⟨p, l, hp, hl, rfl⟩ := List.forall₂_cons_right_iff.mp h
    obtain ⟨p', l', hp', hl', rfl⟩ := List.forall₂_cons_right_iff.mp h'
    rw [Framing.compatible, placesAgree_of_mem hp hp', ih hl hl', Bool.and_self]

/-- A message that ends in another one has, from there on, the layouts of both. -/
theorem Fits.compatible_drop [DecidableEq β] {l l' : List (Option β)} {m m' t : List β}
    (h : Fits l m) (h' : Fits l' m') (heq : m = t ++ m') :
    Framing.compatible (l.drop (l.length - l'.length)) l' = true := by
  have hlength : l.length - l'.length = t.length := by
    rw [h.length, h'.length, heq, List.length_append]
    omega
  have hdrop := List.forall₂_drop t.length h
  rw [heq, List.drop_left] at hdrop
  rw [hlength]
  exact Fits.compatible hdrop h'

end Framing
