import Mathlib

/-!
# Deterministic machines and their runs

A machine answers each input and moves to a next state. A run is the list of
its events, every event keeping the state on both sides of the call. Two rules
carry all inductions over runs: an invariant of the state holds wherever a run
arrives, and machines related by a simulation answer alike. The simulation rule
threads a reading of an external clock through the inputs.
-/

/-- The answer of one call together with the state it leaves behind. -/
structure Step (σ ο : Type*) where
  output : ο
  next : σ

/-- Wraps the value of a successful call, the next state staying as it is. -/
def Step.mapOk {σ ε : Type*} {α β : Type*} (f : α → β) (s : Step σ (Except ε α)) :
    Step σ (Except ε β) :=
  ⟨s.output.map f, s.next⟩

@[simp] theorem Step.mapOk_output {σ ε : Type*} {α β : Type*} (f : α → β)
    (s : Step σ (Except ε α)) : (s.mapOk f).output = s.output.map f := rfl

@[simp] theorem Step.mapOk_next {σ ε : Type*} {α β : Type*} (f : α → β)
    (s : Step σ (Except ε α)) : (s.mapOk f).next = s.next := rfl

abbrev Machine (σ ι ο : Type*) := σ → ι → Step σ ο

/-- One call, seen from outside. -/
structure Event (σ ι ο : Type*) where
  before : σ
  input : ι
  output : ο
  after : σ

namespace Machine
variable {σ σ' τ ι ο : Type*}

def fire (m : Machine σ ι ο) (s : σ) (i : ι) : Event σ ι ο :=
  ⟨s, i, (m s i).output, (m s i).next⟩

def trace (m : Machine σ ι ο) : σ → List ι → List (Event σ ι ο)
  | _, [] => []
  | s, i :: is => m.fire s i :: m.trace (m s i).next is

def final (m : Machine σ ι ο) : σ → List ι → σ
  | s, [] => s
  | s, i :: is => m.final (m s i).next is

def outputs (m : Machine σ ι ο) (s : σ) (is : List ι) : List ο :=
  (m.trace s is).map Event.output

@[simp] theorem final_nil (m : Machine σ ι ο) (s : σ) : m.final s [] = s := rfl

@[simp] theorem final_cons (m : Machine σ ι ο) (s : σ) (i : ι) (is : List ι) :
    m.final s (i :: is) = m.final (m s i).next is := rfl

@[simp] theorem trace_nil (m : Machine σ ι ο) (s : σ) : m.trace s [] = [] := rfl

@[simp] theorem trace_cons (m : Machine σ ι ο) (s : σ) (i : ι) (is : List ι) :
    m.trace s (i :: is) = m.fire s i :: m.trace (m s i).next is := rfl

@[simp] theorem outputs_nil (m : Machine σ ι ο) (s : σ) : m.outputs s [] = [] := rfl

@[simp] theorem outputs_cons (m : Machine σ ι ο) (s : σ) (i : ι) (is : List ι) :
    m.outputs s (i :: is) = (m s i).output :: m.outputs (m s i).next is := rfl

/-- A run makes the calls that it is given. -/
theorem input_mem_of_mem_trace (m : Machine σ ι ο) {e : Event σ ι ο} {s : σ} {is : List ι}
    (h : e ∈ m.trace s is) : e.input ∈ is := by
  induction is generalizing s with
  | nil => cases h
  | cons i is ih =>
    rcases List.mem_cons.mp h with rfl | h
    · exact List.mem_cons_self
    · exact List.mem_cons_of_mem i (ih h)

/-- Invariant rule: what every call preserves holds at the end of every run. -/
theorem final_invariant (m : Machine σ ι ο) {inv : σ → Prop}
    (hstep : ∀ s i, inv s → inv (m s i).next) {s : σ} (hs : inv s) (is : List ι) :
    inv (m.final s is) := by
  induction is generalizing s with
  | nil => exact hs
  | cons i is ih => exact ih (hstep s i hs)

/-- Transport rule: a change of the state that every call commutes with commutes with runs. -/
theorem final_map (m : Machine σ ι ο) (f : σ → σ) (hnext : ∀ s i, (m (f s) i).next = f (m s i).next)
    (s : σ) (is : List ι) : m.final (f s) is = f (m.final s is) := by
  induction is generalizing s with
  | nil => rfl
  | cons i is ih => rw [final_cons, final_cons, hnext, ih]

/-- Invariant rule for runs whose events are known to meet a condition. -/
theorem final_invariant_of_events (m : Machine σ ι ο) {inv : σ → Prop}
    {cond : Event σ ι ο → Prop} (hstep : ∀ s i, inv s → cond (m.fire s i) → inv (m s i).next)
    {s : σ} (hs : inv s) (is : List ι) (hcond : ∀ e ∈ m.trace s is, cond e) :
    inv (m.final s is) := by
  induction is generalizing s with
  | nil => exact hs
  | cons i is ih =>
    obtain ⟨hfirst, hrest⟩ := List.forall_mem_cons.mp hcond
    exact ih (hstep s i hs hfirst) hrest

/-- Safety rule: along a run that starts in an invariant, every event has the
properties of a call made inside it. -/
theorem trace_forall (m : Machine σ ι ο) {inv : σ → Prop} {p : Event σ ι ο → Prop}
    (hstep : ∀ s i, inv s → inv (m s i).next) (hp : ∀ s i, inv s → p (m.fire s i))
    {s : σ} (hs : inv s) (is : List ι) : ∀ e ∈ m.trace s is, p e := by
  induction is generalizing s with
  | nil => simp
  | cons i is ih =>
    intro e he
    rcases List.mem_cons.mp he with rfl | he
    · exact hp s i hs
    · exact ih (hstep s i hs) e he

/-- Condition rule: in an invariant that lasts as long as a condition is met, where a call has
the properties in question exactly if it meets the condition, so have whole runs. -/
theorem trace_forall_iff (m : Machine σ ι ο) {inv : σ → Prop} {p cond : Event σ ι ο → Prop}
    (hstep : ∀ s i, inv s → cond (m.fire s i) → inv (m s i).next)
    (hiff : ∀ s i, inv s → (p (m.fire s i) ↔ cond (m.fire s i))) {s : σ} (hs : inv s)
    (is : List ι) : (∀ e ∈ m.trace s is, p e) ↔ ∀ e ∈ m.trace s is, cond e := by
  induction is generalizing s with
  | nil => simp
  | cons i is ih =>
    rw [trace_cons, List.forall_mem_cons, List.forall_mem_cons, hiff s i hs]
    exact and_congr_right fun hcond => ih (hstep s i hs hcond)

/-- Once-only rule: when every event of a kind crosses into a condition that lasts,
a run has one such event at most. -/
theorem filterMap_trace_length_le_one {β : Type*} (m : Machine σ ι ο) (done : σ → Prop)
    {kind : Event σ ι ο → Option β} (hstay : ∀ s i, done s → done (m s i).next)
    (hcross : ∀ s i, (kind (m.fire s i)).isSome = true → ¬ done s ∧ done (m s i).next)
    (s : σ) (is : List ι) : ((m.trace s is).filterMap kind).length ≤ 1 := by
  have hnone : ∀ (is : List ι) (s : σ), done s → (m.trace s is).filterMap kind = [] := by
    intro is
    induction is with
    | nil => exact fun _ _ => rfl
    | cons i is ih =>
      intro s hs
      have hk : kind (m.fire s i) = none :=
        Option.not_isSome_iff_eq_none.mp (fun hk => (hcross s i hk).1 hs)
      rw [trace_cons, List.filterMap_cons_none hk]
      exact ih _ (hstay s i hs)
  induction is generalizing s with
  | nil => simp
  | cons i is ih =>
    cases hk : kind (m.fire s i) with
    | none =>
      rw [trace_cons, List.filterMap_cons_none hk]
      exact ih _
    | some b =>
      have hdone := (hcross s i (Option.isSome_iff_exists.mpr ⟨b, hk⟩)).2
      rw [trace_cons, List.filterMap_cons_some hk, hnone is _ hdone]
      exact le_refl 1

/-- Inputs that read an external clock: each moves its reading on. -/
inductive Paced (tick : τ → ι → τ → Prop) : τ → List ι → Prop where
  | nil (t : τ) : Paced tick t []
  | cons {t t' : τ} {i : ι} {is : List ι} (h : tick t i t') (ht : Paced tick t' is) :
      Paced tick t (i :: is)

/-- Invariant rule for paced runs: what holds at a reading and every call carries over to the
next one holds where a first part of the run ends, and the rest is paced from there. -/
theorem Paced.final_invariant (m : Machine σ ι ο) {tick : τ → ι → τ → Prop} {inv : τ → σ → Prop}
    (hstep : ∀ t i t' s, tick t i t' → inv t s → inv t' (m s i).next) {t : τ} {is js : List ι}
    (hp : Paced tick t (is ++ js)) {s : σ} (hs : inv t s) :
    ∃ t', Paced tick t' js ∧ inv t' (m.final s is) := by
  induction is generalizing t s with
  | nil => exact ⟨t, hp, hs⟩
  | cons i is ih =>
    cases hp with
    | cons htick hrest => exact ih hrest (hstep _ _ _ _ htick hs)

/-- Simulation rule: states related at the current reading answer alike and stay
related, so whole paced runs give the same answers. -/
theorem outputs_eq_of_simulation (m : Machine σ ι ο) (m' : Machine σ' ι ο)
    {tick : τ → ι → τ → Prop} {rel : τ → σ → σ' → Prop}
    (hout : ∀ t i t' s s', tick t i t' → rel t s s' → (m s i).output = (m' s' i).output)
    (hnext : ∀ t i t' s s', tick t i t' → rel t s s' → rel t' (m s i).next (m' s' i).next)
    {t : τ} {is : List ι} (hp : Paced tick t is) {s : σ} {s' : σ'} (h : rel t s s') :
    m.outputs s is = m'.outputs s' is := by
  induction hp generalizing s s' with
  | nil => rfl
  | cons htick _ ih =>
    rw [outputs_cons, outputs_cons, hout _ _ _ _ _ htick h, ih (hnext _ _ _ _ _ htick h)]

/-- Refinement rule: where related states give related answers to inputs of a kind and stay
related, so do whole runs of them, whatever the two machines answer with. -/
theorem forall₂_outputs_of_refinement {ο' : Type*} (m : Machine σ ι ο) (m' : Machine σ' ι ο')
    {R : σ → σ' → Prop} {A : ο → ο' → Prop} {kind : ι → Prop}
    (hout : ∀ s s' i, kind i → R s s' → A (m s i).output (m' s' i).output)
    (hnext : ∀ s s' i, kind i → R s s' → R (m s i).next (m' s' i).next) {s : σ} {s' : σ'}
    (h : R s s') {is : List ι} (his : ∀ i ∈ is, kind i) :
    List.Forall₂ A (m.outputs s is) (m'.outputs s' is) ∧ R (m.final s is) (m'.final s' is) := by
  induction is generalizing s s' with
  | nil => exact ⟨.nil, h⟩
  | cons i is ih =>
    obtain ⟨hi, his⟩ := List.forall_mem_cons.mp his
    obtain ⟨houtputs, hfinal⟩ := ih (hnext s s' i hi h) his
    exact ⟨.cons (hout s s' i hi h) houtputs, hfinal⟩

end Machine
