import BlindOverlap.Lib.JsonOrder
import BlindOverlap.Lib.JsonText

/-!
# The JSON canonicalization scheme

The serialization of RFC 8785 for values whose numbers are integers that a double holds
exactly: the members of every object are sorted by the UTF-16 code units of their keys,
and the sorted value is written without spaces. The text of other numbers is a parameter.
-/
namespace Rfc8785

/-! ## Keys as UTF-16 -/

/-- The code units of a character, a surrogate pair outside of the basic plane. -/
def charUnits (c : Char) : List ℕ :=
  if c.toNat < 0x10000 then [c.toNat]
  else [0xd800 + (c.toNat - 0x10000) / 0x400, 0xdc00 + (c.toNat - 0x10000) % 0x400]

def units (s : String) : List ℕ := s.toList.flatMap charUnits

/-- Members by ascending keys, these compared as code units. -/
def sortByUnits {α : Type} (members : List (String × α)) : List (String × α) :=
  members.insertionSort (fun a b => units a.1 ≤ units b.1)

mutual

/-- The members of every object in the order of the scheme. -/
def sorted : Json → Json
  | .array items => .array (sortedItems items)
  | .object members => .object (sortByUnits (sortedMembers members))
  | .null => .null
  | .bool b => .bool b
  | .int i => .int i
  | .float bits => .float bits
  | .string s => .string s

def sortedItems : List Json → List Json
  | [] => []
  | j :: items => sorted j :: sortedItems items

def sortedMembers : List (String × Json) → List (String × Json)
  | [] => []
  | (key, j) :: members => (key, sorted j) :: sortedMembers members

end

theorem sortedItems_eq_map (items : List Json) : sortedItems items = items.map sorted := by
  induction items with
  | nil => rfl
  | cons j items ih => rw [sortedItems, ih, List.map_cons]

theorem sortedMembers_eq_map (members : List (String × Json)) :
    sortedMembers members = members.map (fun m => (m.1, sorted m.2)) := by
  induction members with
  | nil => rfl
  | cons m members ih => rw [sortedMembers, ih, List.map_cons]

/-! ## Integers among doubles -/

/-- The magnitude of a double that is an integer: a zero, or a significand without a
fractional part. -/
def doubleMagnitude (bits : UInt64) : Option ℕ :=
  let exponent := (bits >>> 52 &&& 0x7ff).toNat
  let significand := 2 ^ 52 + (bits &&& 0xfffffffffffff).toNat
  if bits >>> 52 &&& 0x7ff = 0x7ff then none
  else if bits &&& 0x7fffffffffffffff = 0 then some 0
  else if exponent = 0 then none
  else if 1075 ≤ exponent then some (significand * 2 ^ (exponent - 1075))
  else if significand % 2 ^ (1075 - exponent) = 0 then
    some (significand / 2 ^ (1075 - exponent))
  else none

def doubleInteger (bits : UInt64) : Option ℤ :=
  (doubleMagnitude bits).map (fun n : ℕ => if bits >>> 63 = 1 then -(n : ℤ) else n)

example : [0x3ff0000000000000, 0xc340000000000000, 0x3ff8000000000000, 0x8000000000000000].map
    doubleInteger = [some 1, some (-2 ^ 53), none, some 0] := by decide

/-- Such a double is finite, and its integer is zero only for a zero of either sign. -/
theorem doubleMagnitude_some {bits : UInt64} {n : ℕ} (h : doubleMagnitude bits = some n) :
    bits >>> 52 &&& 0x7ff ≠ 0x7ff ∧ (bits &&& 0x7fffffffffffffff = 0 ↔ n = 0) := by
  unfold doubleMagnitude at h
  simp only at h
  split_ifs at h with hspecial hzero hsub hlarge hwhole
  · exact ⟨hspecial, by simp [hzero, ← Option.some.inj h]⟩
  · have hpos := Nat.two_pow_pos ((bits >>> 52 &&& 0x7ff).toNat - 1075)
    have hn : n ≠ 0 := by
      rw [← Option.some.inj h]
      exact Nat.mul_ne_zero (by omega) hpos.ne'
    exact ⟨hspecial, by simp [hzero, hn]⟩
  · have hle := Nat.le_of_dvd (by omega) (Nat.dvd_of_mod_eq_zero hwhole)
    have hpos := Nat.two_pow_pos (1075 - (bits >>> 52 &&& 0x7ff).toNat)
    have hn : n ≠ 0 := by
      rw [← Option.some.inj h]
      exact (Nat.div_pos hle hpos).ne'
    exact ⟨hspecial, by simp [hzero, hn]⟩

theorem doubleInteger_some {bits : UInt64} {i : ℤ} (h : doubleInteger bits = some i) :
    bits >>> 52 &&& 0x7ff ≠ 0x7ff ∧ (bits &&& 0x7fffffffffffffff = 0 ↔ i = 0) := by
  obtain ⟨n, hn, rfl⟩ := Option.map_eq_some_iff.mp h
  obtain ⟨hfinite, hzero⟩ := doubleMagnitude_some hn
  refine ⟨hfinite, hzero.trans ?_⟩
  split_ifs <;> simp

mutual

/-- Every double that is an integer written as one. -/
def integral : Json → Json
  | .float bits => (doubleInteger bits).elim (.float bits) .int
  | .array items => .array (integralItems items)
  | .object members => .object (integralMembers members)
  | .null => .null
  | .bool b => .bool b
  | .int i => .int i
  | .string s => .string s

def integralItems : List Json → List Json
  | [] => []
  | j :: items => integral j :: integralItems items

def integralMembers : List (String × Json) → List (String × Json)
  | [] => []
  | (key, j) :: members => (key, integral j) :: integralMembers members

end

theorem integralItems_eq_map (items : List Json) : integralItems items = items.map integral := by
  induction items with
  | nil => rfl
  | cons j items ih => rw [integralItems, ih, List.map_cons]

theorem integralMembers_eq_map (members : List (String × Json)) :
    integralMembers members = members.map (fun m => (m.1, integral m.2)) := by
  induction members with
  | nil => rfl
  | cons m members ih => rw [integralMembers, ih, List.map_cons]

mutual

/-- Whether all numbers are integers that a double holds exactly. -/
def integers : Json → Bool
  | .float bits => (doubleInteger bits).any (fun i => decide (i.natAbs ≤ 2 ^ 53))
  | .int i => decide (i.natAbs ≤ 2 ^ 53)
  | .array items => integersItems items
  | .object members => integersMembers members
  | _ => true

def integersItems : List Json → Bool
  | [] => true
  | j :: items => integers j && integersItems items

def integersMembers : List (String × Json) → Bool
  | [] => true
  | (_, j) :: members => integers j && integersMembers members

end

theorem integersItems_iff {items : List Json} :
    integersItems items = true ↔ ∀ j ∈ items, integers j = true := by
  induction items with
  | nil => simp [integersItems]
  | cons j items ih => simp [integersItems, ih]

theorem integersMembers_iff {members : List (String × Json)} :
    integersMembers members = true ↔ ∀ m ∈ members, integers m.2 = true := by
  induction members with
  | nil => simp [integersMembers]
  | cons m members ih => simp [integersMembers, ih]

theorem plain_integral {j : Json} (h : integers j = true) : JsonText.plain (integral j) = true := by
  have hint : ∀ i : ℤ, i.natAbs ≤ 2 ^ 53 → JsonText.plain (.int i) = true := by
    intro i hi
    exact decide_eq_true (by omega)
  induction j using Json.induction with
  | null => rfl
  | bool b => rfl
  | int i => exact hint i (of_decide_eq_true h)
  | float bits =>
    obtain ⟨i, hi, hsmall⟩ := (Option.any_eq_true _ _).mp h
    rw [integral, hi]
    exact hint i (of_decide_eq_true hsmall)
  | string s => rfl
  | array items ih =>
    rw [integral, JsonText.plain, integralItems_eq_map, JsonText.plainItems_iff,
      List.forall_mem_map]
    exact fun j hj => ih j hj (integersItems_iff.mp h j hj)
  | object members ih =>
    rw [integral, JsonText.plain, integralMembers_eq_map, JsonText.plainMembers_iff,
      List.forall_mem_map]
    exact fun m hm => ih m hm (integersMembers_iff.mp h m hm)

/-! ## Writing -/

/-- The escapes that are mandated, all other characters being written as they are. -/
def escape (c : Char) : List Char :=
  match c.toNat with
  | 0x08 => ['\\', 'b']
  | 0x09 => ['\\', 't']
  | 0x0a => ['\\', 'n']
  | 0x0c => ['\\', 'f']
  | 0x0d => ['\\', 'r']
  | 0x22 => ['\\', '\"']
  | 0x5c => ['\\', '\\']
  | n =>
    if n < 0x20 then ['\\', 'u', '0', '0', Nat.digitChar (n / 16), Nat.digitChar (n % 16)]
    else [c]

def quote (s : String) : String :=
  String.ofList ('\"' :: (s.toList.flatMap escape ++ ['\"']))

def decimal (i : ℤ) : String :=
  if i < 0 then String.ofList ('-' :: Nat.toDigits 10 i.natAbs)
  else String.ofList (Nat.toDigits 10 i.natAbs)

section Writing
variable (doubleText : UInt64 → String)

mutual

def write : Json → String
  | .null => "null"
  | .bool true => "true"
  | .bool false => "false"
  | .int i => decimal i
  | .float bits => (doubleInteger bits).elim (doubleText bits) decimal
  | .string s => quote s
  | .array items => "[" ++ String.intercalate "," (writeItems items) ++ "]"
  | .object members => "\x7b" ++ String.intercalate "," (writeMembers members) ++ "\x7d"

def writeItems : List Json → List String
  | [] => []
  | j :: items => write j :: writeItems items

def writeMembers : List (String × Json) → List String
  | [] => []
  | (key, j) :: members => (quote key ++ ":" ++ write j) :: writeMembers members

end

def serialize (j : Json) : String := write doubleText (sorted j)

end Writing

/-! ## The text of a value -/

theorem escape_eq : escape = JsonText.printChar := by
  refine JsonText.printChar_unique (by decide) rfl rfl ?_
  intro c hc hquote hslash
  have hnumber : ∀ d : Char, c ≠ d → c.toNat ≠ d.toNat := fun d hd h => hd (Char.toNat_inj.mp h)
  have h22 : c.toNat ≠ 0x22 := hnumber _ hquote
  have h5c : c.toNat ≠ 0x5c := hnumber _ hslash
  unfold escape
  split <;> first | omega | rw [if_neg hc]

theorem toList_quote (s : String) : (quote s).toList = JsonText.printString s := by
  rw [quote, String.toList_ofList, JsonText.printString, escape_eq]

theorem toList_decimal (i : ℤ) : (decimal i).toList = JsonText.printInt i := by
  unfold decimal JsonText.printInt
  split_ifs <;> rw [String.toList_ofList]

section Text
variable {doubleText : UInt64 → String}

theorem writeItems_eq_map (items : List Json) :
    writeItems doubleText items = items.map (write doubleText) := by
  induction items with
  | nil => rfl
  | cons j items ih => rw [writeItems, ih, List.map_cons]

theorem writeMembers_eq_map (members : List (String × Json)) :
    writeMembers doubleText members =
      members.map (fun m => quote m.1 ++ ":" ++ write doubleText m.2) := by
  induction members with
  | nil => rfl
  | cons m members ih => rw [writeMembers, ih, List.map_cons]

/-- What is written is the text on one line. -/
theorem toList_write {j : Json} (h : JsonText.plain j = true) (depth : ℕ) :
    (write doubleText j).toList = JsonText.print JsonText.compact depth j := by
  induction j using Json.induction generalizing depth with
  | null => rw [write, JsonText.print]; rfl
  | bool b => cases b <;> rw [write, JsonText.print] <;> rfl
  | int i => exact toList_decimal i
  | float bits => cases h
  | string s => exact toList_quote s
  | array items ih =>
    have htexts : (items.map (write doubleText)).map String.toList =
        items.map (JsonText.print JsonText.compact (depth + 1)) := by
      rw [List.map_map]
      exact List.map_congr_left (fun j hj => ih j hj (JsonText.plainItems_iff.mp h j hj) _)
    rw [write, JsonText.print_array, writeItems_eq_map, ← htexts]
    simp
  | object members ih =>
    have htexts : (members.map (fun m => quote m.1 ++ ":" ++ write doubleText m.2)).map
        String.toList = members.map (JsonText.printMember JsonText.compact (depth + 1)) := by
      rw [List.map_map]
      refine List.map_congr_left (fun m hm => ?_)
      have hvalue := ih m hm (JsonText.plainMembers_iff.mp h m hm) (depth + 1)
      rw [JsonText.printMember, ← hvalue]
      simp [JsonText.compact, toList_quote]
    rw [write, JsonText.print_object, writeMembers_eq_map, ← htexts]
    simp

/-- A double that is an integer is written like the integer. -/
theorem write_integral (j : Json) : write doubleText (integral j) = write doubleText j := by
  induction j using Json.induction with
  | null => rfl
  | bool b => rfl
  | int i => rfl
  | float bits =>
    rw [integral, write]
    cases hi : doubleInteger bits with
    | none => rw [Option.elim_none, write, hi]
    | some i => rfl
  | string s => rfl
  | array items ih =>
    rw [integral, write, write, integralItems_eq_map, writeItems_eq_map, writeItems_eq_map,
      List.map_map]
    exact congrArg (fun texts => "[" ++ String.intercalate "," texts ++ "]")
      (List.map_congr_left ih)
  | object members ih =>
    rw [integral, write, write, integralMembers_eq_map, writeMembers_eq_map, writeMembers_eq_map,
      List.map_map]
    refine congrArg (fun texts => "\x7b" ++ String.intercalate "," texts ++ "\x7d")
      (List.map_congr_left (fun m hm => ?_))
    simp [ih m hm]

end Text

/-! ## Sorting -/

theorem perm_sortByUnits {α : Type} (members : List (String × α)) :
    (sortByUnits members).Perm members :=
  List.perm_insertionSort _ members

/-- Sorting looks at the keys only. -/
theorem sortByUnits_map {α β : Type} (f : α → β) (members : List (String × α)) :
    sortByUnits (members.map (fun m => (m.1, f m.2))) =
      (sortByUnits members).map (fun m => (m.1, f m.2)) := by
  have hmap := List.map_insertionSort (fun a b : String × α => units a.1 ≤ units b.1)
    (fun a b : String × β => units a.1 ≤ units b.1) (fun m => (m.1, f m.2)) members
    (fun _ _ _ _ => Iff.rfl)
  exact hmap.symm

theorem plain_sorted {j : Json} (h : JsonText.plain j = true) :
    JsonText.plain (sorted j) = true := by
  induction j using Json.induction with
  | null => rfl
  | bool b => rfl
  | int i => exact h
  | float bits => exact h
  | string s => rfl
  | array items ih =>
    rw [sorted, JsonText.plain, sortedItems_eq_map, JsonText.plainItems_iff, List.forall_mem_map]
    exact fun j hj => ih j hj (JsonText.plainItems_iff.mp h j hj)
  | object members ih =>
    rw [sorted, JsonText.plain, JsonText.plainMembers_iff, sortedMembers_eq_map, sortByUnits_map,
      List.forall_mem_map]
    intro m hm
    have hm := (perm_sortByUnits members).mem_iff.mp hm
    exact ih m hm (JsonText.plainMembers_iff.mp h m hm)

theorem sorted_integral (j : Json) : sorted (integral j) = integral (sorted j) := by
  induction j using Json.induction with
  | null => rfl
  | bool b => rfl
  | int i => rfl
  | float bits =>
    rw [integral, sorted, integral]
    cases doubleInteger bits <;> rfl
  | string s => rfl
  | array items ih =>
    rw [integral, sorted, sorted, integral, integralItems_eq_map, sortedItems_eq_map,
      sortedItems_eq_map, integralItems_eq_map, List.map_map, List.map_map]
    exact congrArg Json.array (List.map_congr_left ih)
  | object members ih =>
    rw [integral, sorted, sorted, integral, integralMembers_eq_map, sortedMembers_eq_map,
      sortedMembers_eq_map, integralMembers_eq_map, sortByUnits_map, sortByUnits_map,
      sortByUnits_map, List.map_map, List.map_map]
    refine congrArg Json.object (List.map_congr_left (fun m hm => ?_))
    have hm := (perm_sortByUnits members).mem_iff.mp hm
    simp [ih m hm]

theorem serialize_integral (doubleText : UInt64 → String) (j : Json) :
    serialize doubleText (integral j) = serialize doubleText j := by
  rw [serialize, serialize, sorted_integral, write_integral]

theorem serialize_eq_toText (doubleText : UInt64 → String) {j : Json}
    (h : JsonText.plain j = true) :
    serialize doubleText j = JsonText.toText JsonText.compact (sorted j) := by
  rw [serialize, JsonText.toText, ← toList_write (plain_sorted h) 0,
    String.ofList_toList]

/-- A serialization is parsed into the sorted value. -/
theorem ofText_serialize (doubleText : UInt64 → String) {j : Json} (h : JsonText.plain j = true) :
    JsonText.ofText (serialize doubleText j) = some (sorted j) := by
  rw [serialize_eq_toText doubleText h, JsonText.ofText_toText JsonText.compact (plain_sorted h)]

/-! ## Code units against code points -/

/-- Two keys that first differ in a character at the end of the basic plane and one outside
of it: as code points they are in this order, as code units in the other. -/
def Conflict (a b : String) : Prop :=
  ∃ common x y s t, a.toList = common ++ x :: s ∧ b.toList = common ++ y :: t ∧
    0xe000 ≤ x.toNat ∧ x.toNat < 0x10000 ∧ 0x10000 ≤ y.toNat

theorem char_cases (c : Char) : c.toNat < 0xd800 ∨ 0xe000 ≤ c.toNat ∧ c.toNat < 0x110000 := by
  have hvalid : c.toNat < 0xd800 ∨ 0xdfff < c.toNat ∧ c.toNat < 0x110000 := c.valid
  omega

theorem charUnits_lt {x y : Char} (h : x < y)
    (hno : ¬ (0xe000 ≤ x.toNat ∧ x.toNat < 0x10000 ∧ 0x10000 ≤ y.toNat)) (s t : List ℕ) :
    charUnits x ++ s < charUnits y ++ t := by
  have hxy : x.toNat < y.toNat := h
  have hx := char_cases x
  unfold charUnits
  split_ifs with hbasic hbasic'
  · exact List.cons_lt_cons_iff.mpr (.inl hxy)
  · exact List.cons_lt_cons_iff.mpr (.inl (by omega))
  · omega
  · rcases Nat.lt_or_ge ((x.toNat - 0x10000) / 0x400) ((y.toNat - 0x10000) / 0x400)
      with hhigh | hhigh
    · exact List.cons_lt_cons_iff.mpr (.inl (by omega))
    · refine List.cons_lt_cons_iff.mpr (.inr ⟨by omega, ?_⟩)
      exact List.cons_lt_cons_iff.mpr (.inl (by omega))

theorem append_lt_append {l s t : List ℕ} (h : s < t) : l ++ s < l ++ t := by
  induction l with
  | nil => exact h
  | cons a l ih => exact List.cons_lt_cons_iff.mpr (.inr ⟨rfl, ih⟩)

/-- The two orders agree up to the first difference, and there unless the keys conflict. -/
theorem units_lt_of_lt {a b : List Char} (h : a < b)
    (hno : ¬ ∃ common x y s t, a = common ++ x :: s ∧ b = common ++ y :: t ∧
      0xe000 ≤ x.toNat ∧ x.toNat < 0x10000 ∧ 0x10000 ≤ y.toNat) :
    a.flatMap charUnits < b.flatMap charUnits := by
  induction a generalizing b with
  | nil =>
    cases b with
    | nil => exact absurd h (lt_irrefl _)
    | cons y t =>
      rw [List.flatMap_cons, charUnits]
      split_ifs <;> exact List.nil_lt_cons _ _
  | cons x s ih =>
    cases b with
    | nil => exact absurd h (List.not_lt_nil _)
    | cons y t =>
      rw [List.flatMap_cons, List.flatMap_cons]
      rcases List.cons_lt_cons_iff.mp h with hxy | ⟨rfl, hst⟩
      · refine charUnits_lt hxy (fun hplanes => hno ?_) _ _
        exact ⟨[], x, y, s, t, rfl, rfl, hplanes⟩
      · refine append_lt_append (ih hst ?_)
        rintro ⟨common, x', y', s', t', rfl, rfl, hplanes⟩
        exact hno ⟨x :: common, x', y', s', t', rfl, rfl, hplanes⟩

theorem Conflict.lt {a b : String} (h : Conflict a b) : a < b := by
  obtain ⟨common, x, y, s, t, ha, hb, -, hx, hy⟩ := h
  rw [String.lt_iff_toList_lt, ha, hb]
  clear ha hb
  induction common with
  | nil =>
    have hxy : x.toNat < y.toNat := by omega
    exact List.cons_lt_cons_iff.mpr (.inl hxy)
  | cons c common ih => exact List.cons_lt_cons_iff.mpr (.inr ⟨rfl, ih⟩)

theorem Conflict.units_lt {a b : String} (h : Conflict a b) : units b < units a := by
  obtain ⟨common, x, y, s, t, ha, hb, hlow, hx, hy⟩ := h
  have hbound := char_cases y
  rw [units, units, ha, hb, List.flatMap_append, List.flatMap_append, List.flatMap_cons,
    List.flatMap_cons]
  refine append_lt_append ?_
  rw [charUnits, charUnits, if_pos hx, if_neg (by omega)]
  exact List.cons_lt_cons_iff.mpr (.inl (by omega))

theorem le_of_units_le {a b : String} (h : units a ≤ units b) (hno : ¬ Conflict b a) : a ≤ b := by
  by_contra hlt
  rw [not_le, String.lt_iff_toList_lt] at hlt
  exact absurd (units_lt_of_lt hlt hno) (not_lt.mpr h)

section Members
variable {α : Type} {members : List (String × α)}

/-- No two keys of an object conflict. -/
def KeysAgree (keys : List String) : Prop := ∀ a ∈ keys, ∀ b ∈ keys, ¬ Conflict a b

/-- Keys agree that have only one of the two kinds of characters. -/
theorem keysAgree_of_chars {keys : List String}
    (h : (∀ key ∈ keys, ∀ c ∈ key.toList, c.toNat < 0xe000 ∨ 0x10000 ≤ c.toNat) ∨
      ∀ key ∈ keys, ∀ c ∈ key.toList, c.toNat < 0x10000) : KeysAgree keys := by
  rintro a ha b hb ⟨common, x, y, s, t, hxa, hyb, hlow, hx, hy⟩
  have hxmem : x ∈ a.toList := by simp [hxa]
  have hymem : y ∈ b.toList := by simp [hyb]
  rcases h with h | h
  · have := h a ha x hxmem
    omega
  · have := h b hb y hymem
    omega

theorem sortByUnits_eq_sortByKey (hkeys : (members.map Prod.fst).Nodup)
    (h : KeysAgree (members.map Prod.fst)) : sortByUnits members = JsonOrder.sortByKey members := by
  have hperm : (sortByUnits members).Perm (JsonOrder.sortByKey members) :=
    (perm_sortByUnits members).trans (JsonOrder.perm_sortByKey members).symm
  have hunits : (sortByUnits members).Pairwise (fun m n => units m.1 ≤ units n.1) :=
    List.pairwise_insertionSort _ _
  have hmem : ∀ m ∈ sortByUnits members, m ∈ members :=
    fun m hm => (perm_sortByUnits members).mem_iff.mp hm
  have hpoints : (sortByUnits members).Pairwise (fun m n => m.1 ≤ n.1) := by
    refine hunits.imp_of_mem ?_
    intro m n hm hn hle
    exact le_of_units_le hle (h _ (List.mem_map_of_mem (hmem n hn)) _
      (List.mem_map_of_mem (hmem m hm)))
  refine List.Perm.eq_of_pairwise ?_ hpoints (List.pairwise_insertionSort _ _) hperm
  intro m n hm hn hmn hnm
  exact List.inj_on_of_nodup_map hkeys (hmem m hm)
    ((JsonOrder.perm_sortByKey members).mem_iff.mp hn) (le_antisymm hmn hnm)

theorem keysAgree_of_sort_eq (h : sortByUnits members = JsonOrder.sortByKey members) :
    KeysAgree (members.map Prod.fst) := by
  intro a ha b hb hconflict
  obtain ⟨m, hm, rfl⟩ := List.mem_map.mp ha
  obtain ⟨n, hn, rfl⟩ := List.mem_map.mp hb
  have hunits : (sortByUnits members).Pairwise (fun m n => units m.1 ≤ units n.1) :=
    List.pairwise_insertionSort _ _
  have hpoints : (JsonOrder.sortByKey members).Pairwise (fun m n => m.1 ≤ n.1) :=
    List.pairwise_insertionSort _ _
  rw [← h] at hpoints
  obtain ⟨i, hi, rfl⟩ := List.getElem_of_mem ((perm_sortByUnits members).mem_iff.mpr hm)
  obtain ⟨k, hk, rfl⟩ := List.getElem_of_mem ((perm_sortByUnits members).mem_iff.mpr hn)
  -- whichever of the two stands first, one of the orders is broken
  rcases lt_trichotomy i k with hik | rfl | hki
  · have hle := List.pairwise_iff_getElem.mp hunits i k hi hk hik
    exact absurd hconflict.units_lt (not_lt.mpr hle)
  · exact absurd hconflict.lt (lt_irrefl _)
  · have hle := List.pairwise_iff_getElem.mp hpoints k i hk hi hki
    exact absurd hconflict.lt (not_lt.mpr hle)

end Members

mutual

/-- The keys of every object, at any depth. -/
def keyLists : Json → List (List String)
  | .array items => keyListsItems items
  | .object members => members.map Prod.fst :: keyListsMembers members
  | _ => []

def keyListsItems : List Json → List (List String)
  | [] => []
  | j :: items => keyLists j ++ keyListsItems items

def keyListsMembers : List (String × Json) → List (List String)
  | [] => []
  | (_, j) :: members => keyLists j ++ keyListsMembers members

end

theorem keyListsItems_eq_flatMap (items : List Json) :
    keyListsItems items = items.flatMap keyLists := by
  induction items with
  | nil => rfl
  | cons j items ih => rw [keyListsItems, ih, List.flatMap_cons]

theorem keyListsMembers_eq_flatMap (members : List (String × Json)) :
    keyListsMembers members = members.flatMap (fun m => keyLists m.2) := by
  induction members with
  | nil => rfl
  | cons m members ih => rw [keyListsMembers, ih, List.flatMap_cons]

/-- Members with keys of their own that stand in one order of keys are in one order. -/
theorem eq_of_keys_eq {α : Type} {members l l' : List (String × α)}
    (hkeys : (members.map Prod.fst).Nodup) (hl : l.Perm members) (hl' : l'.Perm members)
    (h : l.map Prod.fst = l'.map Prod.fst) : l = l' := by
  refine List.ext_getElem (by simpa using congrArg List.length h) ?_
  intro i hi hi'
  refine List.inj_on_of_nodup_map hkeys (hl.mem_iff.mp (List.getElem_mem hi))
    (hl'.mem_iff.mp (List.getElem_mem hi')) ?_
  have hget := List.getElem_of_eq h (by simpa using hi)
  simpa using hget

/-- An object is sorted alike in both ways exactly if its keys agree and its values are. -/
theorem sorted_members_iff {members : List (String × Json)}
    (hkeys : (members.map Prod.fst).Nodup) :
    JsonOrder.sortByKey (JsonOrder.orderedMembers members) = sortByUnits (sortedMembers members) ↔
      KeysAgree (members.map Prod.fst) ∧
        JsonOrder.orderedMembers members = sortedMembers members := by
  constructor
  · intro h
    rw [JsonOrder.orderedMembers_eq_map, sortedMembers_eq_map, JsonOrder.sortByKey_map,
      sortByUnits_map] at h
    have hsame : JsonOrder.sortByKey members = sortByUnits members := by
      refine eq_of_keys_eq hkeys (JsonOrder.perm_sortByKey members) (perm_sortByUnits members) ?_
      simpa [Function.comp_def] using congrArg (List.map Prod.fst) h
    refine ⟨keysAgree_of_sort_eq hsame.symm, ?_⟩
    rw [← hsame, List.map_inj_left] at h
    rw [JsonOrder.orderedMembers_eq_map, sortedMembers_eq_map, List.map_inj_left]
    exact fun m hm => h m ((JsonOrder.perm_sortByKey members).mem_iff.mpr hm)
  · rintro ⟨hagree, hvalues⟩
    have hfst : (sortedMembers members).map Prod.fst = members.map Prod.fst := by
      rw [sortedMembers_eq_map, List.map_map]
      rfl
    rw [hvalues]
    exact (sortByUnits_eq_sortByKey (hfst ▸ hkeys) (hfst ▸ hagree)).symm

/-- The two orders of members make one value exactly if no object has conflicting keys. -/
theorem ordered_eq_sorted_iff {j : Json} (h : JsonOrder.uniqueKeys j = true) :
    JsonOrder.ordered j = sorted j ↔ ∀ keys ∈ keyLists j, KeysAgree keys := by
  induction j using Json.induction with
  | null => simp [JsonOrder.ordered, sorted, keyLists]
  | bool b => simp [JsonOrder.ordered, sorted, keyLists]
  | int i => simp [JsonOrder.ordered, sorted, keyLists]
  | float bits => simp [JsonOrder.ordered, sorted, keyLists]
  | string s => simp [JsonOrder.ordered, sorted, keyLists]
  | array items ih =>
    rw [JsonOrder.ordered, sorted, Json.array.injEq, JsonOrder.orderedItems_eq_map,
      sortedItems_eq_map, List.map_inj_left, keyLists, keyListsItems_eq_flatMap,
      List.forall_mem_flatMap]
    exact forall₂_congr (fun j hj => ih j hj (JsonOrder.uniqueKeysItems_iff.mp h j hj))
  | object members ih =>
    obtain ⟨hkeys, hvalues⟩ := Bool.and_eq_true_iff.mp h
    have hmembers : JsonOrder.orderedMembers members = sortedMembers members ↔
        ∀ m ∈ members, ∀ keys ∈ keyLists m.2, KeysAgree keys := by
      rw [JsonOrder.orderedMembers_eq_map, sortedMembers_eq_map, List.map_inj_left]
      refine forall₂_congr (fun m hm => ?_)
      rw [← ih m hm (JsonOrder.uniqueKeysMembers_iff.mp hvalues m hm), Prod.mk.injEq]
      exact and_iff_right rfl
    rw [JsonOrder.ordered, sorted, Json.object.injEq,
      sorted_members_iff (of_decide_eq_true hkeys), hmembers, keyLists, List.forall_mem_cons,
      keyListsMembers_eq_flatMap, List.forall_mem_flatMap]

/-! ## Keys and integers -/

theorem uniqueKeys_integral (j : Json) :
    JsonOrder.uniqueKeys (integral j) = JsonOrder.uniqueKeys j := by
  rw [Bool.eq_iff_iff]
  induction j using Json.induction with
  | null => rfl
  | bool b => rfl
  | int i => rfl
  | float bits =>
    rw [integral]
    cases doubleInteger bits <;> rfl
  | string s => rfl
  | array items ih =>
    rw [integral, JsonOrder.uniqueKeys, JsonOrder.uniqueKeys, integralItems_eq_map,
      JsonOrder.uniqueKeysItems_iff, JsonOrder.uniqueKeysItems_iff, List.forall_mem_map]
    exact forall₂_congr ih
  | object members ih =>
    have hkeys : (members.map (fun m => (m.1, integral m.2))).map Prod.fst =
        members.map Prod.fst := by
      rw [List.map_map]
      rfl
    rw [integral, JsonOrder.uniqueKeys, JsonOrder.uniqueKeys, integralMembers_eq_map, hkeys,
      Bool.and_eq_true, Bool.and_eq_true, JsonOrder.uniqueKeysMembers_iff,
      JsonOrder.uniqueKeysMembers_iff, List.forall_mem_map]
    exact and_congr_right (fun _ => forall₂_congr ih)

theorem keyLists_integral (j : Json) : keyLists (integral j) = keyLists j := by
  induction j using Json.induction with
  | null => rfl
  | bool b => rfl
  | int i => rfl
  | float bits =>
    rw [integral]
    cases doubleInteger bits <;> rfl
  | string s => rfl
  | array items ih =>
    rw [integral, keyLists, keyLists, integralItems_eq_map, keyListsItems_eq_flatMap,
      keyListsItems_eq_flatMap, List.flatMap_map]
    exact List.flatMap_congr ih
  | object members ih =>
    rw [integral, keyLists, keyLists, integralMembers_eq_map, keyListsMembers_eq_flatMap,
      keyListsMembers_eq_flatMap, List.flatMap_map, List.map_map]
    exact congrArg (members.map Prod.fst :: ·) (List.flatMap_congr ih)

end Rfc8785
