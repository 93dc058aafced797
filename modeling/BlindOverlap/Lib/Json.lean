import BlindOverlap.Lib.Bytes
import BlindOverlap.Lib.Fallible
import BlindOverlap.Lib.Hex

/-!
# JSON values and the derived coding of records

A record is written as an object with one member for each field that is
present. It is read back from an object, in any order and with unknown members
ignored, or from an array that lists its fields in declaration order. Reading a
record yields one slot for each declared field; whether an empty slot is an
error is decided by the field.
-/

/-- A JSON text at the level of its values. Members keep their order and may
repeat a key; a number is an integer or the bits of a double. -/
inductive Json where
  | null
  | bool (b : Bool)
  | int (i : ℤ)
  | float (bits : UInt64)
  | string (s : String)
  | array (items : List Json)
  | object (members : List (String × Json))

/-- Why a JSON value is not the coding of a record. -/
inductive DecodeError where
  | missingField (name : String)
  | duplicateField (name : String)
  | invalidType (expected : String)
  | invalidValue (expected : String)
  | invalidLength
  | unknownVariant (tag : String)
  | hex (e : FromHexError)
  | custom (message : String)
  deriving DecidableEq

/-- Errors of the JSON layer: not JSON, or not the coding of the type. -/
inductive JsonError where
  | malformed
  | data (e : DecodeError)
  deriving DecidableEq

namespace Json

/-- Induction over the values that a value is made of. -/
@[elab_as_elim]
theorem induction {motive : Json → Prop} (null : motive .null) (bool : ∀ b, motive (.bool b))
    (int : ∀ i, motive (.int i)) (float : ∀ bits, motive (.float bits))
    (string : ∀ s, motive (.string s))
    (array : ∀ items, (∀ j ∈ items, motive j) → motive (.array items))
    (object : ∀ members, (∀ m ∈ members, motive m.2) → motive (.object members)) (j : Json) :
    motive j :=
  @Json.rec motive (fun items => ∀ j ∈ items, motive j)
    (fun members => ∀ m ∈ members, motive m.2) (fun m => motive m.2) null bool int float string
    array object (fun _ h => absurd h List.not_mem_nil)
    (fun _ _ hj hitems => List.forall_mem_cons.mpr ⟨hj, hitems⟩)
    (fun _ h => absurd h List.not_mem_nil)
    (fun _ _ hm hmembers => List.forall_mem_cons.mpr ⟨hm, hmembers⟩) (fun _ _ hj => hj) j

/-! ## Records -/

/-- What a record's JSON form holds for one declared field. Only the array form
can be truncated, and only the object form can leave a field out. -/
inductive Slot where
  | present (j : Json)
  | absent
  | truncated

/-- An object with the members that are present. -/
def record (fields : List (String × Option Json)) : Json :=
  .object (fields.filterMap (fun f => f.2.map (fun j => (f.1, j))))

/-- The slot an object holds for a key, which may occur once at most. -/
def slotOf (members : List (String × Json)) (name : String) : Except DecodeError Slot :=
  match members.filter (fun m => m.1 == name) with
  | [] => .ok .absent
  | [m] => .ok (.present m.2)
  | _ => .error (.duplicateField name)

def slots (names : List String) : Json → Except DecodeError (List Slot)
  | .object members => names.mapM (slotOf members)
  | .array items =>
    if items.length ≤ names.length then
      .ok (items.map .present ++ List.replicate (names.length - items.length) .truncated)
    else .error .invalidLength
  | _ => .error (.invalidType "struct")

/-- A record has no member for a name that is not among its fields. -/
theorem filter_record_of_not_mem {fields : List (String × Option Json)} {name : String}
    (hname : name ∉ fields.map Prod.fst) :
    (fields.filterMap (fun f => f.2.map (fun j => (f.1, j)))).filter (fun m => m.1 == name) =
      [] := by
  rw [List.filter_eq_nil_iff]
  intro m hm he
  obtain ⟨f, hf, hm⟩ := List.mem_filterMap.mp hm
  obtain ⟨j, hj, rfl⟩ := Option.map_eq_some_iff.mp hm
  exact hname (beq_iff_eq.mp he ▸ List.mem_map_of_mem hf)

theorem filter_record_key {fields : List (String × Option Json)}
    (hn : (fields.map Prod.fst).Nodup) {f : String × Option Json} (hf : f ∈ fields) :
    (fields.filterMap (fun f => f.2.map (fun j => (f.1, j)))).filter (fun m => m.1 == f.1) =
      (f.2.map (fun j => (f.1, j))).toList := by
  induction fields with
  | nil => simp at hf
  | cons g fields ih =>
    obtain ⟨hg, hn⟩ := List.nodup_cons.mp hn
    rcases List.mem_cons.mp hf with rfl | hf
    · cases hv : f.2 <;> simp [hv, filter_record_of_not_mem hg]
    · have hne : g.1 ≠ f.1 := fun he => hg (he ▸ List.mem_map_of_mem hf)
      cases hv : g.2 <;> simp [hv, hne, ih hn hf]

/-- A record of other fields fills none of the slots. -/
theorem slots_record_of_disjoint {names : List String} {fields : List (String × Option Json)}
    (h : ∀ name ∈ names, name ∉ fields.map Prod.fst) :
    slots names (record fields) = .ok (names.map (fun _ => .absent)) := by
  rw [record, slots]
  induction names with
  | nil => rfl
  | cons name names ih =>
    obtain ⟨hname, hnames⟩ := List.forall_mem_cons.mp h
    have hslot : slotOf (fields.filterMap (fun f => f.2.map (fun j => (f.1, j)))) name =
        .ok .absent := by
      rw [slotOf, filter_record_of_not_mem hname]
    simp [List.mapM_cons, hslot, ih hnames]

/-- The value of a key, of whatever was read without a type; of a key that is repeated
the last one. -/
def get (key : String) : Json → Option Json
  | .object members => (members.filter (fun m => m.1 == key)).getLast?.map Prod.snd
  | _ => none

def asStr : Json → Option String
  | .string s => some s
  | _ => none

theorem get_record {fields : List (String × Option Json)} (hn : (fields.map Prod.fst).Nodup)
    {f : String × Option Json} (hf : f ∈ fields) : get f.1 (record fields) = f.2 := by
  rw [record, get, filter_record_key hn hf]
  cases f.2 with
  | none => rfl
  | some j => rfl

theorem get_record_of_not_mem {fields : List (String × Option Json)} {name : String}
    (hname : name ∉ fields.map Prod.fst) : get name (record fields) = none := by
  rw [record, get, filter_record_of_not_mem hname]
  rfl

/-- Reading back a record whose field names differ fills each slot with what was
written for its field. -/
theorem slots_record {fields : List (String × Option Json)} (hn : (fields.map Prod.fst).Nodup) :
    slots (fields.map Prod.fst) (record fields) =
      .ok (fields.map (fun f => f.2.elim .absent .present)) := by
  have hslot : ∀ f ∈ fields,
      slotOf (fields.filterMap (fun f => f.2.map (fun j => (f.1, j)))) f.1 =
        .ok (f.2.elim .absent .present) := by
    intro f hf
    rw [slotOf, filter_record_key hn hf]
    cases f.2 <;> rfl
  have hsub : ∀ gs : List (String × Option Json), (∀ g ∈ gs, g ∈ fields) →
      (gs.map Prod.fst).mapM
        (slotOf (fields.filterMap (fun f => f.2.map (fun j => (f.1, j))))) =
        .ok (gs.map (fun f => f.2.elim .absent .present)) := by
    intro gs hgs
    induction gs with
    | nil => rfl
    | cons g gs ih =>
      simp [List.mapM_cons, hslot g (hgs g List.mem_cons_self),
        ih (fun g' hg' => hgs g' (List.mem_cons_of_mem g hg'))]
  exact hsub fields (fun _ h => h)

/-- Reading a record under the names of another one fills the slots of the names that the two
have in common. -/
theorem slots_record_lookup {fields : List (String × Option Json)}
    (hn : (fields.map Prod.fst).Nodup) (names : List String) :
    slots names (record fields) =
      .ok (names.map (fun name => (fields.lookup name).join.elim .absent .present)) := by
  have hslot : ∀ name,
      slotOf (fields.filterMap (fun f => f.2.map (fun j => (f.1, j)))) name =
        .ok ((fields.lookup name).join.elim .absent .present) := by
    intro name
    cases hlookup : fields.lookup name with
    | none =>
      have hname : name ∉ fields.map Prod.fst := by
        intro hmem
        obtain ⟨f, hf, rfl⟩ := List.mem_map.mp hmem
        simpa using List.lookup_eq_none_iff.mp hlookup f hf
      rw [slotOf, filter_record_of_not_mem hname]
      rfl
    | some value =>
      obtain ⟨l₁, l₂, he, -⟩ := List.lookup_eq_some_iff.mp hlookup
      have hmem : (name, value) ∈ fields := by simp [he]
      rw [slotOf, filter_record_key hn hmem]
      cases value <;> rfl
  rw [record, slots]
  induction names with
  | nil => rfl
  | cons name names ih => simp [List.mapM_cons, hslot name, ih]

/-- The slot of a name that is not among the fields of a record is empty. -/
theorem lookup_join_of_not_mem {fields : List (String × Option Json)} {name : String}
    (h : name ∉ fields.map Prod.fst) : (fields.lookup name).join = none := by
  have hlookup : fields.lookup name = none := by
    refine List.lookup_eq_none_iff.mpr ?_
    intro f hf
    exact bne_iff_ne.mpr fun he => h (he ▸ List.mem_map_of_mem hf)
  rw [hlookup]
  rfl

/-- Reading a record from which members were dropped, and to which others were added, fills
the slots of the fields that it still has. -/
theorem slots_record_edited {fields edited : List (String × Option Json)}
    (hn : (fields.map Prod.fst).Nodup) (hn' : (edited.map Prod.fst).Nodup)
    (h : ∀ f ∈ edited, f ∈ fields ∨ f.1 ∉ fields.map Prod.fst) :
    slots (fields.map Prod.fst) (record edited) =
      .ok (fields.map (fun f =>
        if f.1 ∈ edited.map Prod.fst then f.2.elim .absent .present else .absent)) := by
  rw [slots_record_lookup hn', List.map_map]
  refine congrArg Except.ok (List.map_congr_left fun f hf => ?_)
  rw [Function.comp_apply]
  split_ifs with hname
  · obtain ⟨g, hg, hfg⟩ := List.mem_map.mp hname
    have hgf : g = f := by
      rcases h g hg with hmem | hout
      · exact List.inj_on_of_nodup_map hn hmem hf hfg
      · exact absurd (hfg ▸ List.mem_map_of_mem hf) hout
    obtain ⟨value, hlookup⟩ : ∃ value, edited.lookup f.1 = some value := by
      refine Option.ne_none_iff_exists'.mp fun hnone => ?_
      simpa [hfg] using List.lookup_eq_none_iff.mp hnone g hg
    obtain ⟨l₁, l₂, he, -⟩ := List.lookup_eq_some_iff.mp hlookup
    have hvalue : (f.1, value) = g :=
      List.inj_on_of_nodup_map hn' (by simp [he]) hg hfg.symm
    rw [hlookup, Option.join_some, ← hgf, ← hvalue]
  · rw [lookup_join_of_not_mem hname]
    rfl

namespace Slot
variable {α : Type}

/-- A field without which the record cannot be read. -/
def required (name : String) (decode : Json → Except DecodeError α) :
    Slot → Except DecodeError α
  | .present j => decode j
  | .absent => .error (.missingField name)
  | .truncated => .error .invalidLength

/-- A field that may be left out of an object, or be null. -/
def optional (decode : Json → Except DecodeError α) : Slot → Except DecodeError (Option α)
  | .present .null => .ok none
  | .present j => some <$> decode j
  | .absent => .ok none
  | .truncated => .error .invalidLength

/-- A field with a default, used wherever the field is missing. -/
def defaulted (value : α) (decode : Json → Except DecodeError α) : Slot → Except DecodeError α
  | .present j => decode j
  | .absent => .ok value
  | .truncated => .ok value

@[simp] theorem required_present (name : String) (decode : Json → Except DecodeError α) (j : Json) :
    (present j).required name decode = decode j := rfl

@[simp] theorem required_absent (name : String) (decode : Json → Except DecodeError α) :
    absent.required name decode = .error (.missingField name) := rfl

@[simp] theorem optional_absent (decode : Json → Except DecodeError α) :
    absent.optional decode = .ok none := rfl

theorem optional_present (decode : Json → Except DecodeError α) {j : Json} (hj : j ≠ .null) :
    (present j).optional decode = some <$> decode j := by
  cases j <;> first | rfl | contradiction

@[simp] theorem defaulted_absent (value : α) (decode : Json → Except DecodeError α) :
    absent.defaulted value decode = .ok value := rfl

@[simp] theorem defaulted_present (value : α) (decode : Json → Except DecodeError α) (j : Json) :
    (present j).defaulted value decode = decode j := rfl

/-- A field with a default, which may have been dropped. -/
theorem defaulted_ite {p : Prop} [Decidable p] (value : α) {decode : Json → Except DecodeError α}
    {j : Json} {a : α} (h : decode j = .ok a) :
    (if p then present j else absent).defaulted value decode = .ok (if p then a else value) := by
  split_ifs
  · exact h
  · rfl

end Slot

/-! ## Tagged variants -/

/-- Splits the tag off the coding of a variant: the member of that key in an
object, the first item of an array. -/
def untag (tag : String) : Json → Except DecodeError (String × Json)
  | .object members =>
    match members.filter (fun m => m.1 == tag) with
    | [] => .error (.missingField tag)
    | [(_, .string variant)] => .ok (variant, .object (members.filter (fun m => m.1 != tag)))
    | [_] => .error (.invalidType "variant identifier")
    | _ => .error (.duplicateField tag)
  | .array (.string variant :: items) => .ok (variant, .array items)
  | .array [] => .error (.missingField tag)
  | _ => .error (.invalidType "internally tagged enum")

/-- A record with the tag of its variant in front. -/
def tagged (tag variant : String) (fields : List (String × Option Json)) : Json :=
  record ((tag, some (.string variant)) :: fields)

theorem untag_tagged {tag : String} (variant : String) {fields : List (String × Option Json)}
    (ht : tag ∉ fields.map Prod.fst) :
    untag tag (tagged tag variant fields) = .ok (variant, record fields) := by
  have hne : ∀ m ∈ fields.filterMap (fun f => f.2.map (fun j => (f.1, j))), m.1 ≠ tag := by
    intro m hm he
    obtain ⟨f, hf, hm⟩ := List.mem_filterMap.mp hm
    obtain ⟨j, hj, rfl⟩ := Option.map_eq_some_iff.mp hm
    exact ht (he ▸ List.mem_map_of_mem hf)
  have hall : (fields.filterMap (fun f => f.2.map (fun j => (f.1, j)))).filter
      (fun m => m.1 != tag) = fields.filterMap (fun f => f.2.map (fun j => (f.1, j))) := by
    rw [List.filter_eq_self]
    exact fun m hm => bne_iff_ne.mpr (hne m hm)
  simp [tagged, record, untag, filter_record_of_not_mem ht, hall]

/-! ## Scalars -/

/-- An unsigned integer of the given number of bits. -/
def asUnsigned (bits : ℕ) : Json → Except DecodeError ℕ
  | .int (.ofNat n) => if n < 2 ^ bits then .ok n else .error (.invalidValue "unsigned integer")
  | .int (.negSucc _) => .error (.invalidValue "unsigned integer")
  | _ => .error (.invalidType "unsigned integer")

def asUInt8 (j : Json) : Except DecodeError UInt8 := UInt8.ofNat <$> asUnsigned 8 j

def asUInt32 (j : Json) : Except DecodeError UInt32 := UInt32.ofNat <$> asUnsigned 32 j

def asUInt64 (j : Json) : Except DecodeError UInt64 := UInt64.ofNat <$> asUnsigned 64 j

def asBool : Json → Except DecodeError Bool
  | .bool b => .ok b
  | _ => .error (.invalidType "a boolean")

def asString : Json → Except DecodeError String
  | .string s => .ok s
  | _ => .error (.invalidType "a string")

/-- A list with every item read by the same decoder. -/
def asList {α : Type} (decode : Json → Except DecodeError α) : Json → Except DecodeError (List α)
  | .array items => items.mapM decode
  | _ => .error (.invalidType "a sequence")

/-- A pair, read from an array of two. -/
def asPair {α β : Type} (first : Json → Except DecodeError α)
    (second : Json → Except DecodeError β) : Json → Except DecodeError (α × β)
  | .array [a, b] => do return (← first a, ← second b)
  | .array _ => .error .invalidLength
  | _ => .error (.invalidType "a tuple of size 2")

/-- A value or null, read as an option. -/
def asOption {α : Type} (decode : Json → Except DecodeError α) :
    Json → Except DecodeError (Option α)
  | .null => .ok none
  | j => some <$> decode j

/-- A value that may be missing, with null for none. -/
def ofOption {α : Type} (encode : α → Json) : Option α → Json
  | none => .null
  | some a => encode a

/-- A byte array spelled in hexadecimal. -/
def asHex (n : ℕ) (j : Json) : Except DecodeError (Bytes n) := do
  match Hex.decode (← asString j) with
  | .error e => throw (.hex e)
  | .ok bytes =>
    match Bytes.ofList? n bytes with
    | some b => return b
    | none => throw (.custom s!"expected {n} bytes")

/-- A byte array listed as numbers. -/
def asBytes (n : ℕ) (j : Json) : Except DecodeError (Bytes n) := do
  match Bytes.ofList? n (← asList asUInt8 j) with
  | some b => return b
  | none => throw .invalidLength

/-- The name of a variant that holds no data: a string, or the key of a single null. -/
def variantName : Json → Except DecodeError String
  | .string s => .ok s
  | .object [(name, .null)] => .ok name
  | _ => .error (.invalidType "enum")

/-- One of the listed variants, by its name. -/
def asVariant {α : Type} (variants : List (String × α)) (j : Json) : Except DecodeError α := do
  let name ← variantName j
  match variants.lookup name with
  | some a => return a
  | none => throw (.unknownVariant name)

def ofUInt8 (n : UInt8) : Json := .int n.toNat

def ofUInt32 (n : UInt32) : Json := .int n.toNat

def ofUInt64 (n : UInt64) : Json := .int n.toNat

def ofHex {n : ℕ} (b : Bytes n) : Json := .string (Hex.encode b.toList)

def ofBytes {n : ℕ} (b : Bytes n) : Json := .array (b.toList.map ofUInt8)

@[simp] theorem asUInt8_ofUInt8 (n : UInt8) : asUInt8 (ofUInt8 n) = .ok n := by
  have hn : n.toNat < 256 := n.toNat_lt
  simp [asUInt8, ofUInt8, asUnsigned, hn]

@[simp] theorem asUInt32_ofUInt32 (n : UInt32) : asUInt32 (ofUInt32 n) = .ok n := by
  have hn : n.toNat < 4294967296 := n.toNat_lt
  simp [asUInt32, ofUInt32, asUnsigned, hn]

@[simp] theorem asUInt64_ofUInt64 (n : UInt64) : asUInt64 (ofUInt64 n) = .ok n := by
  have hn : n.toNat < 18446744073709551616 := n.toNat_lt
  simp [asUInt64, ofUInt64, asUnsigned, hn]

@[simp] theorem asBool_bool (b : Bool) : asBool (.bool b) = .ok b := rfl

@[simp] theorem asString_string (s : String) : asString (.string s) = .ok s := rfl

@[simp] theorem asHex_ofHex {n : ℕ} (b : Bytes n) : asHex n (ofHex b) = .ok b := by
  simp [asHex, ofHex]

theorem mapM_ok {α : Type} {decode : Json → Except DecodeError α} {encode : α → Json}
    (h : ∀ a, decode (encode a) = .ok a) (l : List α) : (l.map encode).mapM decode = .ok l := by
  induction l with
  | nil => rfl
  | cons a l ih => simp [List.mapM_cons, h, ih]

theorem asList_array_map {α : Type} {decode : Json → Except DecodeError α} {encode : α → Json}
    (h : ∀ a, decode (encode a) = .ok a) (l : List α) :
    asList decode (.array (l.map encode)) = .ok l := mapM_ok h l

@[simp] theorem asBytes_ofBytes {n : ℕ} (b : Bytes n) : asBytes n (ofBytes b) = .ok b := by
  simp [asBytes, ofBytes, asList_array_map asUInt8_ofUInt8]

theorem asPair_array {α β : Type} {first : Json → Except DecodeError α}
    {second : Json → Except DecodeError β} {j k : Json} {a : α} {b : β} (hj : first j = .ok a)
    (hk : second k = .ok b) : asPair first second (.array [j, k]) = .ok (a, b) := by
  simp [asPair, hj, hk]

theorem asOption_ofOption {α : Type} {decode : Json → Except DecodeError α} {encode : α → Json}
    (h : ∀ a, decode (encode a) = .ok a) (hnull : ∀ a, encode a ≠ .null) (o : Option α) :
    asOption decode (ofOption encode o) = .ok o := by
  cases o with
  | none => rfl
  | some a =>
    have hsome : asOption decode (encode a) = some <$> decode (encode a) := by
      cases he : encode a <;> first | rfl | exact absurd he (hnull a)
    simp [ofOption, hsome, h]

theorem optional_ofOption {α : Type} {decode : Json → Except DecodeError α} {encode : α → Json}
    (h : ∀ a, decode (encode a) = .ok a) (hnull : ∀ a, encode a ≠ .null) (o : Option α) :
    (Slot.present (ofOption encode o)).optional decode = .ok o := by
  cases o with
  | none => rfl
  | some a => simp [ofOption, Slot.optional_present decode (hnull a), h]

/-- An optional field reads back, provided no value is coded as null. -/
theorem optional_elim {α : Type} {decode : Json → Except DecodeError α} {encode : α → Json}
    (h : ∀ a, decode (encode a) = .ok a) (hnull : ∀ a, encode a ≠ .null) (o : Option α) :
    (o.elim Slot.absent (Slot.present ∘ encode)).optional decode = .ok o := by
  cases o with
  | none => rfl
  | some a => simp [Slot.optional_present decode (hnull a), h]

end Json
