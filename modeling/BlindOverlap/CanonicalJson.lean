import BlindOverlap.FactId
import BlindOverlap.Lib.Rfc8785
import BlindOverlap.Reference

/-!
# Canonical JSON and identifiers of facts

The text of a value with sorted members, short escapes and no spaces, whose hash is the
identifier of a fact. Without doubles the text is the compact text of the value with its
members sorted, so that it determines the value up to their order.
-/
namespace BlindOverlap

open JsonOrder

def hexDigits4 (n : ℕ) : List Char :=
  [Nat.digitChar (n / 4096 % 16), Nat.digitChar (n / 256 % 16), Nat.digitChar (n / 16 % 16),
    Nat.digitChar (n % 16)]

def canonicalChar (c : Char) : List Char :=
  match c with
  | '\"' => ['\\', '\"']
  | '\\' => ['\\', '\\']
  | '\x08' => ['\\', 'b']
  | '\x0c' => ['\\', 'f']
  | '\n' => ['\\', 'n']
  | '\r' => ['\\', 'r']
  | '\t' => ['\\', 't']
  | c => if c < '\x20' then '\\' :: 'u' :: hexDigits4 c.toNat else [c]

def canonicalString (s : String) : String :=
  String.ofList ('\"' :: s.toList.flatMap canonicalChar ++ ['\"'])

section Values
variable (displayDouble : UInt64 → String)

/-- Doubles print as the standard library displays them, zeros of either sign as one. -/
def canonicalDouble (bits : UInt64) : String :=
  if bits >>> 52 &&& 0x7ff = 0x7ff then "null"
  else if bits &&& 0x7fffffffffffffff = 0 then "0"
  else
    let formatted := displayDouble bits
    if 'e' ∈ formatted.toList ∨ 'E' ∈ formatted.toList then formatted.toLower else formatted

mutual

/-- Keys are sorted by code points and looked up again, which is to sort the members as
long as no key is repeated. -/
def canonicalJson : Json → String
  | .null => "null"
  | .bool b => if b then "true" else "false"
  | .int i => toString i
  | .float bits => canonicalDouble displayDouble bits
  | .string s => canonicalString s
  | .array items => "[" ++ String.intercalate "," (canonicalItems items) ++ "]"
  | .object members =>
    "\x7b" ++ String.intercalate ","
      ((sortByKey (canonicalMembers members)).map (fun m => canonicalString m.1 ++ ":" ++ m.2)) ++
      "\x7d"

def canonicalItems : List Json → List String
  | [] => []
  | j :: items => canonicalJson j :: canonicalItems items

/-- Each key with the text of its value. -/
def canonicalMembers : List (String × Json) → List (String × String)
  | [] => []
  | (key, j) :: members => (key, canonicalJson j) :: canonicalMembers members

end

def factIdFromJson (K : Crates) (j : Json) : FactId :=
  K.sha256 (utf8 (canonicalJson displayDouble j))

/-- The set of the identifiers of some values. -/
def FactSet.fromJsonValues (K : Crates) (values : List Json) : FactSet :=
  let ids := OrderedSet.ofList (values.map (factIdFromJson displayDouble K))
  ⟨ids, computeSetRoot K ids⟩

end Values

/-! ## The text of a sorted value -/

theorem canonicalChar_eq : canonicalChar = JsonText.printChar := by
  refine JsonText.printChar_unique (by decide) rfl rfl ?_
  intro c hc hquote hslash
  have hlt : ¬ c < '\x20' := hc
  unfold canonicalChar
  split <;> first | contradiction | simp_all

theorem toList_canonicalString (s : String) :
    (canonicalString s).toList = JsonText.printString s := by
  rw [canonicalString, String.toList_ofList, JsonText.printString, List.cons_append,
    canonicalChar_eq]

theorem toList_toString_int (i : ℤ) : (toString i).toList = JsonText.printInt i := by
  cases i with
  | ofNat n =>
    have hneg : ¬ (Int.ofNat n < 0) := Int.not_lt.mpr (Int.natCast_nonneg n)
    rw [JsonText.printInt, if_neg hneg]
    exact Nat.toList_repr
  | negSucc n =>
    have hneg : Int.negSucc n < 0 := Int.negSucc_lt_zero n
    have htext : toString (Int.negSucc n) = "-" ++ (n + 1).repr := rfl
    rw [JsonText.printInt, if_pos hneg, htext, String.toList_append, Nat.toList_repr]
    rfl

section Values
variable {displayDouble : UInt64 → String}

theorem canonicalItems_eq_map (items : List Json) :
    canonicalItems displayDouble items = items.map (canonicalJson displayDouble) := by
  induction items with
  | nil => rfl
  | cons j items ih => rw [canonicalItems, ih, List.map_cons]

theorem canonicalMembers_eq_map (members : List (String × Json)) :
    canonicalMembers displayDouble members =
      members.map (fun m => (m.1, canonicalJson displayDouble m.2)) := by
  induction members with
  | nil => rfl
  | cons m members ih => rw [canonicalMembers, ih, List.map_cons]

/-- The canonical text is the compact text of the ordered value. -/
theorem toList_canonicalJson {j : Json} (h : JsonText.plain j = true) (depth : ℕ) :
    (canonicalJson displayDouble j).toList =
      JsonText.print JsonText.compact depth (ordered j) := by
  induction j using Json.induction generalizing depth with
  | null => rw [canonicalJson, ordered, JsonText.print]; rfl
  | bool b => cases b <;> rw [canonicalJson, ordered, JsonText.print] <;> rfl
  | int i => exact toList_toString_int i
  | float bits => cases h
  | string s => exact toList_canonicalString s
  | array items ih =>
    have htexts : (items.map (canonicalJson displayDouble)).map String.toList =
        (items.map ordered).map (JsonText.print JsonText.compact (depth + 1)) := by
      rw [List.map_map, List.map_map]
      exact List.map_congr_left (fun j hj => ih j hj (JsonText.plainItems_iff.mp h j hj) _)
    rw [canonicalJson, ordered, JsonText.print_array, orderedItems_eq_map, canonicalItems_eq_map,
      ← htexts]
    simp
  | object members ih =>
    have hvalues : ∀ m ∈ sortByKey members, (canonicalString m.1 ++ ":" ++
        canonicalJson displayDouble m.2).toList =
          JsonText.printMember JsonText.compact (depth + 1) (m.1, ordered m.2) := by
      intro m hm
      have hm := (perm_sortByKey members).mem_iff.mp hm
      rw [JsonText.printMember, String.toList_append, String.toList_append,
        toList_canonicalString, ih m hm (JsonText.plainMembers_iff.mp h m hm) (depth + 1)]
      simp [JsonText.compact]
    rw [canonicalJson, ordered, JsonText.print_object, orderedMembers_eq_map,
      canonicalMembers_eq_map, sortByKey_map, sortByKey_map, List.map_map, List.map_map]
    rw [String.toList_append, String.toList_append, String.toList_intercalate, List.map_map]
    have htexts := List.map_congr_left hvalues
    exact congrArg (fun texts => '\x7b' :: (List.intercalate [','] texts ++ ['\x7d'])) htexts

/-- Sorting the members leaves the nesting as it is. -/
theorem storable_ordered {n : ℕ} {j : Json} (h : JsonText.Storable n j) :
    JsonText.Storable n (ordered j) := by
  induction j using Json.induction generalizing n with
  | null => exact h
  | bool b => exact h
  | int i => exact h
  | float bits => exact h
  | string s => exact h
  | array items ih =>
    obtain ⟨n, rfl⟩ := Nat.exists_eq_succ_of_ne_zero (Nat.ne_zero_of_lt h.nesting_le)
    rw [ordered, JsonText.storable_array, orderedItems_eq_map, List.forall_mem_map]
    exact fun j hj => ih j hj (JsonText.storable_array.mp h j hj)
  | object members ih =>
    obtain ⟨n, rfl⟩ := Nat.exists_eq_succ_of_ne_zero (Nat.ne_zero_of_lt h.nesting_le)
    rw [ordered, JsonText.storable_object, orderedMembers_eq_map, sortByKey_map,
      List.forall_mem_map]
    intro m hm
    have hm := (perm_sortByKey members).mem_iff.mp hm
    exact ih m hm (JsonText.storable_object.mp h m hm)

theorem plain_ordered {j : Json} (h : JsonText.plain j = true) :
    JsonText.plain (ordered j) = true :=
  (storable_ordered ⟨h, le_rfl⟩).plain

theorem canonicalJson_eq_toText {j : Json} (h : JsonText.plain j = true) :
    canonicalJson displayDouble j = JsonText.toText JsonText.compact (ordered j) := by
  rw [JsonText.toText, ← toList_canonicalJson h 0, String.ofList_toList]

/-- A canonical text is parsed into the ordered value. -/
theorem ofText_canonicalJson {j : Json} (h : JsonText.plain j = true) :
    JsonText.ofText (canonicalJson displayDouble j) = some (ordered j) := by
  rw [canonicalJson_eq_toText h, JsonText.ofText_toText JsonText.compact (plain_ordered h)]

end Values

/-- A value that facts are made of: integers of machine size, and no repeated keys. -/
structure FactValue where
  json : Json
  plain : JsonText.plain json = true
  uniqueKeys : uniqueKeys json = true

/-- Two values have one canonical text, and unless the hash collides there one fact
identifier, exactly when they differ in the order of members only. -/
theorem canonicalJson_eq_iff (displayDouble : UInt64 → String) (v w : FactValue) :
    (canonicalJson displayDouble v.json = canonicalJson displayDouble w.json ↔
      SameValue v.json w.json) ∧
    ∀ K : Crates,
      (K.sha256 (utf8 (canonicalJson displayDouble v.json)) =
          K.sha256 (utf8 (canonicalJson displayDouble w.json)) →
        utf8 (canonicalJson displayDouble v.json) = utf8 (canonicalJson displayDouble w.json)) →
      (factIdFromJson displayDouble K v.json = factIdFromJson displayDouble K w.json ↔
        SameValue v.json w.json) := by
  have htexts : canonicalJson displayDouble v.json = canonicalJson displayDouble w.json ↔
      SameValue v.json w.json := by
    rw [← ordered_eq_iff v.uniqueKeys]
    constructor
    · intro h
      have hparsed := congrArg JsonText.ofText h
      rw [ofText_canonicalJson v.plain, ofText_canonicalJson w.plain] at hparsed
      exact Option.some.inj hparsed
    · intro h
      rw [canonicalJson_eq_toText v.plain, canonicalJson_eq_toText w.plain, h]
  refine ⟨htexts, ?_⟩
  intro K hfree
  rw [← htexts]
  constructor
  · intro h
    exact utf8_injective (hfree h)
  · intro h
    rw [factIdFromJson, factIdFromJson, h]

def sampleFact : FactValue where
  json := .object [("b", .array [.bool true, .string "x\"y"]), ("a", .int (-1))]
  plain := by decide
  uniqueKeys := by decide

def sampleFactReordered : FactValue where
  json := .object [("a", .int (-1)), ("b", .array [.bool true, .string "x\"y"])]
  plain := by decide
  uniqueKeys := by decide

theorem sampleFact_factId : factIdFromJson (fun _ => "") .reference sampleFact.json =
    factIdFromJson (fun _ => "") .reference sampleFactReordered.json := by
  have hsame : SameValue sampleFact.json sampleFactReordered.json := by
    refine .object (.cons (.array (.cons (.bool true) (.cons (.string _) .nil)))
      (.cons (.int (-1)) .nil)) ?_
    exact List.Perm.swap _ _ _
  have hiff := canonicalJson_eq_iff (fun _ => "") sampleFact sampleFactReordered
  exact (hiff.2 .reference (fun _ => congrArg utf8 (hiff.1.mpr hsame))).mpr hsame

/-! ## The canonicalization scheme -/

/-- The standard library displays a small double that is an integer like the integer, zeros
apart, whose sign it shows. -/
def DisplaysIntegers (displayDouble : UInt64 → String) : Prop :=
  ∀ bits i, Rfc8785.doubleInteger bits = some i → i ≠ 0 → i.natAbs ≤ 2 ^ 53 →
    displayDouble bits = toString i

section Values
variable {displayDouble : UInt64 → String}

theorem canonicalDouble_of_integer (hdisplay : DisplaysIntegers displayDouble) {bits : UInt64}
    {i : ℤ} (h : Rfc8785.doubleInteger bits = some i) (hsmall : i.natAbs ≤ 2 ^ 53) :
    canonicalDouble displayDouble bits = toString i := by
  obtain ⟨hfinite, hzero⟩ := Rfc8785.doubleInteger_some h
  have hdigit : ∀ c ∈ (toString i).toList, c = '-' ∨ c.isDigit = true := by
    intro c hc
    rw [toList_toString_int, JsonText.printInt] at hc
    have hdigits : ∀ d ∈ Nat.toDigits 10 i.natAbs, d.isDigit = true :=
      fun d hd => Nat.isDigit_of_mem_toDigits (by decide) (by decide) hd
    split_ifs at hc
    · exact (List.mem_cons.mp hc).imp id (hdigits c)
    · exact .inr (hdigits c hc)
  rw [canonicalDouble, if_neg hfinite]
  by_cases hi : i = 0
  · rw [if_pos (hzero.mpr hi), hi]
    rfl
  · have hexponent : ¬ ('e' ∈ (toString i).toList ∨ 'E' ∈ (toString i).toList) := by
      rintro (he | he) <;> exact absurd (hdigit _ he) (by decide)
    rw [if_neg (fun hz => hi (hzero.mp hz)), hdisplay bits i h hi hsmall, if_neg hexponent]

theorem canonicalJson_integral (hdisplay : DisplaysIntegers displayDouble) {j : Json}
    (h : Rfc8785.integers j = true) :
    canonicalJson displayDouble (Rfc8785.integral j) = canonicalJson displayDouble j := by
  induction j using Json.induction with
  | null => rfl
  | bool b => rfl
  | int i => rfl
  | float bits =>
    obtain ⟨i, hi, hsmall⟩ := (Option.any_eq_true _ _).mp h
    rw [Rfc8785.integral, hi, Option.elim_some, canonicalJson, canonicalJson,
      canonicalDouble_of_integer hdisplay hi (of_decide_eq_true hsmall)]
  | string s => rfl
  | array items ih =>
    have hitems := Rfc8785.integersItems_iff.mp h
    rw [Rfc8785.integral, canonicalJson, canonicalJson, Rfc8785.integralItems_eq_map,
      canonicalItems_eq_map, canonicalItems_eq_map, List.map_map]
    exact congrArg (fun texts => "[" ++ String.intercalate "," texts ++ "]")
      (List.map_congr_left (fun j hj => ih j hj (hitems j hj)))
  | object members ih =>
    have hmembers := Rfc8785.integersMembers_iff.mp h
    have hvalues : canonicalMembers displayDouble (Rfc8785.integralMembers members) =
        canonicalMembers displayDouble members := by
      rw [Rfc8785.integralMembers_eq_map, canonicalMembers_eq_map, canonicalMembers_eq_map,
        List.map_map]
      refine List.map_congr_left (fun m hm => ?_)
      simp [ih m hm (hmembers m hm)]
    rw [Rfc8785.integral, canonicalJson, canonicalJson, hvalues]

end Values

/-- A value whose numbers every implementation of the scheme writes alike. -/
structure InteroperableValue where
  json : Json
  integers : Rfc8785.integers json = true
  uniqueKeys : uniqueKeys json = true

/-- The text is that of the scheme exactly if no object, at any depth, has two keys that
first differ in a character from U+E000 up and one outside of the basic plane. -/
theorem canonicalJson_eq_serialize_iff {displayDouble : UInt64 → String}
    (hdisplay : DisplaysIntegers displayDouble) (doubleText : UInt64 → String)
    (v : InteroperableValue) :
    canonicalJson displayDouble v.json = Rfc8785.serialize doubleText v.json ↔
      ∀ keys ∈ Rfc8785.keyLists v.json, Rfc8785.KeysAgree keys := by
  have hplain := Rfc8785.plain_integral v.integers
  have hkeys := (Rfc8785.uniqueKeys_integral v.json).trans v.uniqueKeys
  rw [← canonicalJson_integral hdisplay v.integers, ← Rfc8785.serialize_integral,
    ← Rfc8785.keyLists_integral, ← Rfc8785.ordered_eq_sorted_iff hkeys]
  constructor
  · intro h
    have hparsed := congrArg JsonText.ofText h
    rw [ofText_canonicalJson hplain, Rfc8785.ofText_serialize doubleText hplain] at hparsed
    exact Option.some.inj hparsed
  · intro h
    rw [canonicalJson_eq_toText hplain, Rfc8785.serialize_eq_toText doubleText hplain, h]

/-- Two keys that code points and code units put in different orders. -/
def conflictingKeys : InteroperableValue where
  json := .object [(String.singleton (Char.ofNat 0x1f600), .int 2), ("\ufb33", .int 1)]
  integers := by decide
  uniqueKeys := by decide

theorem conflictingKeys_canonicalJson :
    canonicalJson (fun _ => "") conflictingKeys.json ≠
      Rfc8785.serialize (fun _ => "") conflictingKeys.json := by
  decide +kernel

def displayIntegers (bits : UInt64) : String := (Rfc8785.doubleInteger bits).elim "" toString

/-- Doubles that are integers, under keys out of order in nested objects. The two keys that
would conflict stand in different objects. -/
def integralDoubles : InteroperableValue where
  json := .object [("z", .float 0x4000000000000000),
    ("\ufb33", .array [.object [(String.singleton (Char.ofNat 0x1f600), .int 2),
      ("b", .float 0xc008000000000000), ("a", .null)], .bool true]),
    ("a", .object [("y", .int 1), ("x", .float 0x8000000000000000)])]
  integers := by decide
  uniqueKeys := by decide

theorem integralDoubles_canonicalJson :
    canonicalJson displayIntegers integralDoubles.json =
      Rfc8785.serialize displayIntegers integralDoubles.json := by
  have hdisplay : DisplaysIntegers displayIntegers := by
    intro bits i hi _ _
    rw [displayIntegers, hi, Option.elim_some]
  have hchars : ∀ keys ∈ Rfc8785.keyLists integralDoubles.json,
      (∀ key ∈ keys, ∀ c ∈ key.toList, c.toNat < 0xe000 ∨ 0x10000 ≤ c.toNat) ∨
        ∀ key ∈ keys, ∀ c ∈ key.toList, c.toNat < 0x10000 := by
    simp [integralDoubles, Rfc8785.keyLists, Rfc8785.keyListsItems, Rfc8785.keyListsMembers]
  exact (canonicalJson_eq_serialize_iff hdisplay displayIntegers integralDoubles).mpr
    fun keys hkeys => Rfc8785.keysAgree_of_chars (hchars keys hkeys)

end BlindOverlap
