import BlindOverlap.Lib.JsonText

/-!
# Values that their coding gives back

A coding is a way to write the values of a type as JSON and a way to read them. It keeps a
value that is read from what was written for it. Fields that are kept, whether required,
optional or with a default, make a record that is kept.
-/
namespace Json

/-- A value that comes back from what is written for it, which can be printed, is nested `n`
deep at most and is not mistaken for a missing value. -/
structure Keeps (n : ℕ) {α : Type} (write : α → Json) (read : Json → Except DecodeError α)
    (a : α) : Prop where
  read_write : read (write a) = .ok a
  storable : JsonText.Storable n (write a)
  ne_null : write a ≠ .null

/-- What is written for a field, if anything, can be printed. -/
def StorableField (n : ℕ) (field : Option Json) : Prop := ∀ j ∈ field, JsonText.Storable n j

@[simp] theorem storableField_some {n : ℕ} {j : Json} :
    StorableField n (some j) ↔ JsonText.Storable n j := by
  simp [StorableField]

section Fields
variable {n : ℕ} {α : Type} {write : α → Json} {read : Json → Except DecodeError α} {a : α}
  {o : Option α}

theorem Keeps.storableField (h : ∀ a ∈ o, Keeps n write read a) :
    StorableField n (o.map write) := by
  intro j hj
  obtain ⟨a, ha, rfl⟩ := Option.map_eq_some_iff.mp hj
  exact (h a ha).storable

/-- A field left out when there is nothing to write. -/
theorem Keeps.optional (h : ∀ a ∈ o, Keeps n write read a) :
    (o.elim Slot.absent (Slot.present ∘ write)).optional read = .ok o := by
  cases o with
  | none => rfl
  | some a =>
    have ha := h a rfl
    simp [Slot.optional_present read ha.ne_null, ha.read_write]

/-- The same with a default for what was left out. -/
theorem Keeps.defaulted (h : ∀ a ∈ o, Keeps n write read a) :
    (o.elim Slot.absent (Slot.present ∘ write)).defaulted none (asOption read) = .ok o := by
  cases o with
  | none => rfl
  | some a =>
    have ha := h a rfl
    have hsome : asOption read (write a) = some <$> read (write a) := by
      cases hw : write a <;> first | rfl | exact absurd hw ha.ne_null
    simp [hsome, ha.read_write]

end Fields

/-- Reading a record: its slots first, then the value made from them. -/
def readRecord {α : Type} (names : List String) (build : List Slot → Except DecodeError α)
    (j : Json) : Except DecodeError α := do
  build (← slots names j)

/-- A record is kept when its slots, filled as they were written, make the value again. -/
theorem keeps_record {n : ℕ} {α : Type} {fields : α → List (String × Option Json)}
    {names : List String} {build : List Slot → Except DecodeError α} {a : α} (hnames : names = (fields a).map Prod.fst)
    (hn : names.Nodup)
    (hbuild : build ((fields a).map (fun f => f.2.elim .absent .present)) = .ok a)
    (hstorable : ∀ f ∈ fields a, StorableField n f.2) :
    Keeps (n + 1) (fun a => record (fields a)) (readRecord names build) a where
  read_write := by
    subst hnames
    simp only [readRecord, slots_record hn]
    exact hbuild
  storable := JsonText.storable_record hstorable
  ne_null := fun h => Json.noConfusion h

theorem keeps_list {n : ℕ} {α : Type} {write : α → Json} {read : Json → Except DecodeError α}
    {l : List α} (h : ∀ a ∈ l, Keeps n write read a) :
    Keeps (n + 1) (fun l : List α => .array (l.map write)) (asList read) l where
  read_write := by
    rw [asList]
    induction l with
    | nil => rfl
    | cons a l ih =>
      obtain ⟨ha, hl⟩ := List.forall_mem_cons.mp h
      simp [List.mapM_cons, ha.read_write, ih hl]
  storable := by
    rw [JsonText.storable_array]
    intro j hj
    obtain ⟨a, ha, rfl⟩ := List.mem_map.mp hj
    exact (h a ha).storable
  ne_null := fun h => Json.noConfusion h

/-! ## Scalars -/

section Scalars
variable {n : ℕ}

theorem keeps_string (s : String) : Keeps n .string asString s :=
  ⟨rfl, JsonText.storable_string s, fun h => Json.noConfusion h⟩

theorem keeps_uint64 (k : UInt64) : Keeps n ofUInt64 asUInt64 k :=
  ⟨asUInt64_ofUInt64 k, JsonText.storable_ofUInt64 k, fun h => Json.noConfusion h⟩

theorem keeps_hex {k : ℕ} (b : Bytes k) : Keeps n ofHex (asHex k) b :=
  ⟨asHex_ofHex b, JsonText.storable_ofHex b, fun h => Json.noConfusion h⟩

theorem keeps_bytes {k : ℕ} (b : Bytes k) : Keeps (n + 1) ofBytes (asBytes k) b :=
  ⟨asBytes_ofBytes b, JsonText.storable_ofBytes b, fun h => Json.noConfusion h⟩

end Scalars

/-! ## Enumerations -/

/-- A variant that holds no data, written as the name it is listed with. -/
def ofVariant {α : Type} [DecidableEq α] (variants : List (String × α)) (a : α) : Json :=
  .string (((variants.find? (fun v => v.2 = a)).map Prod.fst).getD "")

theorem lookup_of_mem {α : Type} {variants : List (String × α)}
    (hn : (variants.map Prod.fst).Nodup) {v : String × α} (hv : v ∈ variants) :
    variants.lookup v.1 = some v.2 := by
  obtain ⟨before, after, rfl⟩ := List.append_of_mem hv
  rw [List.map_append, List.nodup_append] at hn
  obtain ⟨-, -, hbefore⟩ := hn
  refine List.lookup_eq_some_iff.mpr ⟨before, after, rfl, fun p hp => bne_iff_ne.mpr ?_⟩
  exact (hbefore p.1 (List.mem_map_of_mem hp) v.1 (by simp)).symm

/-- Listed variants whose names differ are kept. -/
theorem keeps_variant {n : ℕ} {α : Type} [DecidableEq α] {variants : List (String × α)}
    (hn : (variants.map Prod.fst).Nodup) {a : α} (ha : a ∈ variants.map Prod.snd) :
    Keeps n (ofVariant variants) (asVariant variants) a where
  read_write := by
    obtain ⟨v, hv⟩ : ∃ v, variants.find? (fun v => v.2 = a) = some v := by
      obtain ⟨v, hv, rfl⟩ := List.mem_map.mp ha
      exact Option.isSome_iff_exists.mp (List.find?_isSome.mpr ⟨v, hv, by simp⟩)
    have hva : v.2 = a := by simpa using List.find?_some hv
    have hlookup := lookup_of_mem hn (List.mem_of_find?_eq_some hv)
    simp [ofVariant, asVariant, variantName, hv, hlookup, hva]
  storable := JsonText.storable_string _
  ne_null := fun h => Json.noConfusion h

end Json
