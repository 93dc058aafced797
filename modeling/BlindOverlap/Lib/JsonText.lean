import BlindOverlap.Lib.Json

/-!
# JSON texts

A printer for the two usual layouts, on one line or indented, and a parser that
takes either back to the value it came from. Doubles are left out: they do not
print, and a text that needs one is not parsed.
-/
namespace JsonText

/-! ## Values without doubles -/

mutual

/-- Whether a value has only integers of machine size for numbers. -/
def plain : Json → Bool
  | .float _ => false
  | .int i => decide (-2 ^ 63 ≤ i ∧ i < 2 ^ 64)
  | .array items => plainItems items
  | .object members => plainMembers members
  | _ => true

def plainItems : List Json → Bool
  | [] => true
  | j :: items => plain j && plainItems items

def plainMembers : List (String × Json) → Bool
  | [] => true
  | (_, j) :: members => plain j && plainMembers members

end

theorem plainItems_iff {items : List Json} :
    plainItems items = true ↔ ∀ j ∈ items, plain j = true := by
  induction items with
  | nil => simp [plainItems]
  | cons j items ih => simp [plainItems, ih]

theorem plainMembers_iff {members : List (String × Json)} :
    plainMembers members = true ↔ ∀ m ∈ members, plain m.2 = true := by
  induction members with
  | nil => simp [plainMembers]
  | cons m members ih => simp [plainMembers, ih]

/-! ## Values that a text can hold -/

mutual

/-- How deep arrays and objects stand in one another. -/
def nesting : Json → ℕ
  | .array items => nestingItems items + 1
  | .object members => nestingMembers members + 1
  | _ => 0

def nestingItems : List Json → ℕ
  | [] => 0
  | j :: items => max (nesting j) (nestingItems items)

def nestingMembers : List (String × Json) → ℕ
  | [] => 0
  | (_, j) :: members => max (nesting j) (nestingMembers members)

end

theorem nestingItems_le_iff {items : List Json} {n : ℕ} :
    nestingItems items ≤ n ↔ ∀ j ∈ items, nesting j ≤ n := by
  induction items with
  | nil => simp [nestingItems]
  | cons j items ih => simp [nestingItems, ih]

theorem nestingMembers_le_iff {members : List (String × Json)} {n : ℕ} :
    nestingMembers members ≤ n ↔ ∀ m ∈ members, nesting m.2 ≤ n := by
  induction members with
  | nil => simp [nestingMembers]
  | cons m members ih => simp [nestingMembers, ih]

/-- A value without doubles that is nested `n` deep at most. -/
structure Storable (n : ℕ) (j : Json) : Prop where
  plain : plain j = true
  nesting_le : nesting j ≤ n

section Storable
variable {n : ℕ}

theorem storable_array {items : List Json} :
    Storable (n + 1) (.array items) ↔ ∀ j ∈ items, Storable n j := by
  constructor
  · rintro ⟨hplain, hnesting⟩ j hj
    exact ⟨plainItems_iff.mp hplain j hj,
      nestingItems_le_iff.mp (Nat.le_of_succ_le_succ hnesting) j hj⟩
  · intro h
    exact ⟨plainItems_iff.mpr fun j hj => (h j hj).plain,
      Nat.succ_le_succ (nestingItems_le_iff.mpr fun j hj => (h j hj).nesting_le)⟩

theorem storable_object {members : List (String × Json)} :
    Storable (n + 1) (.object members) ↔ ∀ m ∈ members, Storable n m.2 := by
  constructor
  · rintro ⟨hplain, hnesting⟩ m hm
    exact ⟨plainMembers_iff.mp hplain m hm,
      nestingMembers_le_iff.mp (Nat.le_of_succ_le_succ hnesting) m hm⟩
  · intro h
    exact ⟨plainMembers_iff.mpr fun m hm => (h m hm).plain,
      Nat.succ_le_succ (nestingMembers_le_iff.mpr fun m hm => (h m hm).nesting_le)⟩

@[simp] theorem storable_null : Storable n .null := ⟨rfl, Nat.zero_le n⟩

@[simp] theorem storable_bool (b : Bool) : Storable n (.bool b) := ⟨rfl, Nat.zero_le n⟩

@[simp] theorem storable_string (s : String) : Storable n (.string s) := ⟨rfl, Nat.zero_le n⟩

theorem storable_int {i : ℤ} (h : -2 ^ 63 ≤ i ∧ i < 2 ^ 64) : Storable n (.int i) :=
  ⟨decide_eq_true h, Nat.zero_le n⟩

@[simp] theorem storable_ofUInt8 (k : UInt8) : Storable n (Json.ofUInt8 k) := by
  have hk : k.toNat < 2 ^ 8 := k.toNat_lt
  exact storable_int (by omega)

@[simp] theorem storable_ofUInt32 (k : UInt32) : Storable n (Json.ofUInt32 k) := by
  have hk : k.toNat < 2 ^ 32 := k.toNat_lt
  exact storable_int (by omega)

@[simp] theorem storable_ofUInt64 (k : UInt64) : Storable n (Json.ofUInt64 k) := by
  have hk : k.toNat < 2 ^ 64 := k.toNat_lt
  exact storable_int (by omega)

@[simp] theorem storable_ofHex {k : ℕ} (b : Bytes k) : Storable n (Json.ofHex b) :=
  storable_string _

theorem storable_array_map {α : Type} {encode : α → Json} (h : ∀ a, Storable n (encode a))
    (l : List α) : Storable (n + 1) (.array (l.map encode)) := by
  rw [storable_array]
  intro j hj
  obtain ⟨a, -, rfl⟩ := List.mem_map.mp hj
  exact h a

@[simp] theorem storable_ofBytes {k : ℕ} (b : Bytes k) : Storable (n + 1) (Json.ofBytes b) :=
  storable_array_map storable_ofUInt8 b.toList

theorem storable_ofOption {α : Type} {encode : α → Json} (h : ∀ a, Storable n (encode a))
    (o : Option α) : Storable n (Json.ofOption encode o) := by
  cases o with
  | none => exact storable_null
  | some a => exact h a

/-- A record is nested one deeper than its fields. -/
theorem storable_record {fields : List (String × Option Json)}
    (h : ∀ f ∈ fields, ∀ j ∈ f.2, Storable n j) : Storable (n + 1) (Json.record fields) := by
  rw [Json.record, storable_object]
  intro m hm
  obtain ⟨f, hf, hm⟩ := List.mem_filterMap.mp hm
  obtain ⟨j, hj, rfl⟩ := Option.map_eq_some_iff.mp hm
  exact h f hf j hj

end Storable

/-! ## Printing -/

def isBlank (c : Char) : Bool := c == ' ' || c == '\n' || c == '\r' || c == '\t'

/-- What a layout puts between tokens: blank characters only. -/
structure Layout where
  breakLine : ℕ → List Char
  gap : List Char
  breakLine_blank : ∀ depth, ∀ c ∈ breakLine depth, isBlank c = true
  gap_blank : ∀ c ∈ gap, isBlank c = true

def compact : Layout := ⟨fun _ => [], [], by simp, by simp⟩

/-- Every item on a line of its own, indented by two spaces a level. -/
def pretty : Layout where
  breakLine depth := '\n' :: List.replicate (2 * depth) ' '
  gap := [' ']
  breakLine_blank := by
    intro depth c hc
    rcases List.mem_cons.mp hc with rfl | hc
    · rfl
    · rw [List.eq_of_mem_replicate hc]
      rfl
  gap_blank := by simp [isBlank]

/-- The value of a hexadecimal digit of either case. -/
def hexValue (c : Char) : Option ℕ :=
  (List.range 16).find? (fun n => Nat.digitChar n == c.toLower)

theorem hexValue_digitChar : ∀ n < 16, hexValue (Nat.digitChar n) = some n := by decide

/-- A character of a string: short escapes, numbered ones for other controls. -/
def printChar (c : Char) : List Char :=
  if c = '\"' then ['\\', '\"']
  else if c = '\\' then ['\\', '\\']
  else if c = '\n' then ['\\', 'n']
  else if c = '\r' then ['\\', 'r']
  else if c = '\t' then ['\\', 't']
  else if c.toNat = 8 then ['\\', 'b']
  else if c.toNat = 12 then ['\\', 'f']
  else if c.toNat < 32 then
    ['\\', 'u', '0', '0', Nat.digitChar (c.toNat / 16), Nat.digitChar (c.toNat % 16)]
  else [c]

/-- Printing a character is determined by what it does to controls, quotes and backslashes. -/
theorem printChar_unique {f : Char → List Char}
    (hcontrol : ∀ n < 32, f (Char.ofNat n) = printChar (Char.ofNat n))
    (hquote : f '\"' = ['\\', '\"']) (hslash : f '\\' = ['\\', '\\'])
    (hself : ∀ c : Char, ¬ c.toNat < 32 → c ≠ '\"' → c ≠ '\\' → f c = [c]) : f = printChar := by
  funext c
  by_cases hc : c.toNat < 32
  · have h := hcontrol c.toNat hc
    rwa [Char.ofNat_toNat] at h
  · by_cases hcquote : c = '\"'
    · rw [hcquote, hquote]
      rfl
    · by_cases hcslash : c = '\\'
      · rw [hcslash, hslash]
        rfl
      · have hnamed : c ≠ '\n' ∧ c ≠ '\r' ∧ c ≠ '\t' ∧ c.toNat ≠ 8 ∧ c.toNat ≠ 12 := by
          refine ⟨?_, ?_, ?_, ?_, ?_⟩
          · rintro rfl
            exact hc (by decide)
          · rintro rfl
            exact hc (by decide)
          · rintro rfl
            exact hc (by decide)
          · omega
          · omega
        rw [hself c hc hcquote hcslash]
        simp [printChar, hcquote, hcslash, hnamed, hc]

def printString (s : String) : List Char :=
  '\"' :: (s.toList.flatMap printChar ++ ['\"'])

def printInt (i : ℤ) : List Char :=
  if i < 0 then '-' :: Nat.toDigits 10 i.natAbs else Nat.toDigits 10 i.natAbs

mutual

def print (l : Layout) (depth : ℕ) : Json → List Char
  | .null => ['n', 'u', 'l', 'l']
  | .bool true => ['t', 'r', 'u', 'e']
  | .bool false => ['f', 'a', 'l', 's', 'e']
  | .int i => printInt i
  | .float _ => []
  | .string s => printString s
  | .array [] => ['[', ']']
  | .array (j :: items) =>
    '[' :: (l.breakLine (depth + 1) ++ print l (depth + 1) j ++ printItems l depth items)
  | .object [] => ['{', '}']
  | .object (m :: members) =>
    '{' :: (l.breakLine (depth + 1) ++ printMember l (depth + 1) m ++ printMembers l depth members)

/-- The items after the first, and the closing bracket. -/
def printItems (l : Layout) (depth : ℕ) : List Json → List Char
  | [] => l.breakLine depth ++ [']']
  | j :: items =>
    ',' :: (l.breakLine (depth + 1) ++ print l (depth + 1) j ++ printItems l depth items)

def printMember (l : Layout) (depth : ℕ) : String × Json → List Char
  | (key, j) => printString key ++ ':' :: (l.gap ++ print l depth j)

def printMembers (l : Layout) (depth : ℕ) : List (String × Json) → List Char
  | [] => l.breakLine depth ++ ['}']
  | m :: members =>
    ',' :: (l.breakLine (depth + 1) ++ printMember l (depth + 1) m ++ printMembers l depth members)

end

def toText (l : Layout) (j : Json) : String := String.ofList (print l 0 j)

/-! ## Texts on one line -/

/-- On one line, items stand between brackets with commas. -/
theorem print_array (items : List Json) (depth : ℕ) :
    print compact depth (.array items) =
      '[' :: (List.intercalate [','] (items.map (print compact (depth + 1))) ++
        [']']) := by
  cases items with
  | nil => rfl
  | cons j items =>
    rw [print, List.map_cons]
    refine congrArg ('[' :: ·) ?_
    rw [show compact.breakLine (depth + 1) = [] from rfl, List.nil_append]
    induction items generalizing j with
    | nil => rw [printItems, List.map_nil, List.intercalate_singleton]; rfl
    | cons j' items ih =>
      rw [printItems, List.map_cons, List.intercalate_cons_cons,
        show compact.breakLine (depth + 1) = [] from rfl, List.nil_append, ih j']
      simp

theorem print_object (members : List (String × Json)) (depth : ℕ) :
    print compact depth (.object members) =
      '\x7b' :: (List.intercalate [',']
        (members.map (printMember compact (depth + 1))) ++ ['\x7d']) := by
  cases members with
  | nil => rfl
  | cons m members =>
    rw [print, List.map_cons]
    refine congrArg ('\x7b' :: ·) ?_
    rw [show compact.breakLine (depth + 1) = [] from rfl, List.nil_append]
    induction members generalizing m with
    | nil => rw [printMembers, List.map_nil, List.intercalate_singleton]; rfl
    | cons m' members ih =>
      rw [printMembers, List.map_cons, List.intercalate_cons_cons,
        show compact.breakLine (depth + 1) = [] from rfl, List.nil_append, ih m']
      simp

/-! ## Parsing -/

def skip (cs : List Char) : List Char := cs.dropWhile isBlank

/-- One character of a string, plain or escaped. -/
def readChar : List Char → Option (Char × List Char)
  | '\\' :: 'n' :: cs => some ('\n', cs)
  | '\\' :: 'r' :: cs => some ('\r', cs)
  | '\\' :: 't' :: cs => some ('\t', cs)
  | '\\' :: 'b' :: cs => some (Char.ofNat 8, cs)
  | '\\' :: 'f' :: cs => some (Char.ofNat 12, cs)
  | '\\' :: 'u' :: a :: b :: c :: d :: cs => do
    let n := 4096 * (← hexValue a) + 256 * (← hexValue b) + 16 * (← hexValue c) + (← hexValue d)
    if n.isValidChar then some (Char.ofNat n, cs) else none
  | '\\' :: c :: cs => if c = '\"' ∨ c = '\\' ∨ c = '/' then some (c, cs) else none
  | c :: cs => if c = '\\' ∨ c.toNat < 32 then none else some (c, cs)
  | [] => none

/-- The rest of a string, the fuel bounding its characters. -/
def readString : ℕ → List Char → Option (List Char × List Char)
  | 0, _ => none
  | fuel + 1, cs =>
    if cs.head? = some '\"' then some ([], cs.tail)
    else do
      let (c, cs) ← readChar cs
      let (s, cs) ← readString fuel cs
      return (c :: s, cs)

/-- A number, which must be spelled the way it prints. -/
def readNat (cs : List Char) : Option (ℕ × List Char) :=
  let digits := cs.takeWhile Char.isDigit
  let n := Nat.ofDigitChars 10 digits 0
  if Nat.toDigits 10 n = digits then some (n, cs.dropWhile Char.isDigit) else none

def readAtom : List Char → Option (Json × List Char)
  | 'n' :: 'u' :: 'l' :: 'l' :: cs => some (.null, cs)
  | 't' :: 'r' :: 'u' :: 'e' :: cs => some (.bool true, cs)
  | 'f' :: 'a' :: 'l' :: 's' :: 'e' :: cs => some (.bool false, cs)
  | '-' :: cs => do
    let (n, cs) ← readNat cs
    if 0 < n ∧ n ≤ 2 ^ 63 then some (.int (-n), cs) else none
  | cs => do
    let (n, cs) ← readNat cs
    if n < 2 ^ 64 then some (.int n, cs) else none

mutual

/-- A value, the fuel bounding the nesting and the items. -/
def readValue : ℕ → List Char → Option (Json × List Char)
  | 0, _ => none
  | fuel + 1, cs =>
    match skip cs with
    | '\"' :: cs => do
      let (s, cs) ← readString cs.length cs
      return (.string (String.ofList s), cs)
    | '[' :: cs =>
      match skip cs with
      | ']' :: cs => some (.array [], cs)
      | cs => do
        let (j, cs) ← readValue fuel cs
        let (items, cs) ← readItems fuel cs
        return (.array (j :: items), cs)
    | '{' :: cs =>
      match skip cs with
      | '}' :: cs => some (.object [], cs)
      | cs => do
        let (m, cs) ← readMember fuel cs
        let (members, cs) ← readMembers fuel cs
        return (.object (m :: members), cs)
    | cs => readAtom cs

/-- The items after the first, and the closing bracket. -/
def readItems : ℕ → List Char → Option (List Json × List Char)
  | 0, _ => none
  | fuel + 1, cs =>
    match skip cs with
    | ']' :: cs => some ([], cs)
    | ',' :: cs => do
      let (j, cs) ← readValue fuel cs
      let (items, cs) ← readItems fuel cs
      return (j :: items, cs)
    | _ => none

def readMember : ℕ → List Char → Option ((String × Json) × List Char)
  | 0, _ => none
  | fuel + 1, cs =>
    match skip cs with
    | '\"' :: cs => do
      let (key, cs) ← readString cs.length cs
      match skip cs with
      | ':' :: cs => do
        let (j, cs) ← readValue fuel cs
        return ((String.ofList key, j), cs)
      | _ => none
    | _ => none

def readMembers : ℕ → List Char → Option (List (String × Json) × List Char)
  | 0, _ => none
  | fuel + 1, cs =>
    match skip cs with
    | '}' :: cs => some ([], cs)
    | ',' :: cs => do
      let (m, cs) ← readMember fuel cs
      let (members, cs) ← readMembers fuel cs
      return (m :: members, cs)
    | _ => none

end

/-- A whole text is one value with blanks around it. -/
def ofText (text : String) : Option Json :=
  match readValue (text.toList.length + 1) text.toList with
  | some (j, cs) => if skip cs = [] then some j else none
  | none => none

/-! ## Parsing what was printed -/

theorem skip_append {ws : List Char} (h : ∀ c ∈ ws, isBlank c = true) (cs : List Char) :
    skip (ws ++ cs) = skip cs := by
  induction ws with
  | nil => rfl
  | cons c ws ih =>
    have hc : isBlank c = true := h c List.mem_cons_self
    simpa [skip, hc] using ih (fun d hd => h d (List.mem_cons_of_mem c hd))

theorem skip_cons {c : Char} (h : isBlank c = false) (cs : List Char) :
    skip (c :: cs) = c :: cs := by
  simp [skip, h]

theorem readChar_printChar (c : Char) (cs : List Char) :
    readChar (printChar c ++ cs) = some (c, cs) := by
  unfold printChar
  split_ifs with h1 h2 h3 h4 h5 h6 h7 h8
  · subst h1
    rfl
  · subst h2
    rfl
  · subst h3
    rfl
  · subst h4
    rfl
  · subst h5
    rfl
  · have hc : Char.ofNat 8 = c := h6 ▸ Char.ofNat_toNat c
    exact congrArg (fun c => some (c, cs)) hc
  · have hc : Char.ofNat 12 = c := h7 ▸ Char.ofNat_toNat c
    exact congrArg (fun c => some (c, cs)) hc
  · have hhigh := hexValue_digitChar (c.toNat / 16) (by omega)
    have hlow := hexValue_digitChar (c.toNat % 16) (by omega)
    have hzero : hexValue '0' = some 0 := by decide
    have hn : 16 * (c.toNat / 16) + c.toNat % 16 = c.toNat := by omega
    have hvalid : c.toNat.isValidChar := c.valid
    simp [readChar, hhigh, hlow, hzero, hn, hvalid]
  · have hplain : ¬ (c = '\\' ∨ c.toNat < 32) := by simp [h2, h8]
    rw [List.singleton_append, readChar.eq_def]
    split <;> simp_all

theorem head_printChar (c : Char) (cs : List Char) :
    (printChar c ++ cs).head? ≠ some '\"' := by
  unfold printChar
  split_ifs <;> simp_all

theorem printChar_ne_nil (c : Char) : printChar c ≠ [] := by
  unfold printChar
  split_ifs <;> simp

/-- A string reads back with fuel for each of its characters. -/
theorem readString_print (s cs : List Char) {fuel : ℕ} (h : s.length < fuel) :
    readString fuel (s.flatMap printChar ++ '\"' :: cs) = some (s, cs) := by
  induction s generalizing fuel with
  | nil =>
    obtain ⟨fuel, rfl⟩ := Nat.exists_eq_add_of_lt h
    simp [readString]
  | cons c s ih =>
    obtain ⟨fuel, rfl⟩ : ∃ n, fuel = n + 1 := ⟨fuel - 1, by omega⟩
    have hrest : readString fuel (s.flatMap printChar ++ '\"' :: cs) = some (s, cs) :=
      ih (by simpa using h)
    rw [List.flatMap_cons, List.append_assoc, readString, if_neg (head_printChar c _),
      readChar_printChar]
    simp [hrest]

theorem length_flatMap_printChar (s : List Char) : s.length ≤ (s.flatMap printChar).length := by
  induction s with
  | nil => simp
  | cons c s ih =>
    have hc := List.length_pos_of_ne_nil (printChar_ne_nil c)
    simp only [List.flatMap_cons, List.length_append, List.length_cons]
    omega

/-- The length of the text is fuel enough for the string it starts with. -/
theorem readString_length (s : String) (cs : List Char) :
    readString (s.toList.flatMap printChar ++ '\"' :: cs).length
      (s.toList.flatMap printChar ++ '\"' :: cs) = some (s.toList, cs) := by
  have hlen := length_flatMap_printChar s.toList
  refine readString_print s.toList cs ?_
  simp only [List.length_append, List.length_cons]
  omega

/-- What may follow a number. -/
def Stops (cs : List Char) : Prop := ∀ c ∈ cs.head?, c.isDigit = false

theorem readNat_toDigits (n : ℕ) {cs : List Char} (h : Stops cs) :
    readNat (Nat.toDigits 10 n ++ cs) = some (n, cs) := by
  have hdigits : ∀ c ∈ Nat.toDigits 10 n, c.isDigit = true := fun _ hc =>
    Nat.isDigit_of_mem_toDigits (by decide) (by decide) hc
  have hnone : cs.takeWhile Char.isDigit = [] := by
    cases cs with
    | nil => rfl
    | cons c cs => simp [h c rfl]
  have hall : cs.dropWhile Char.isDigit = cs := by
    cases cs with
    | nil => rfl
    | cons c cs => simp [h c rfl]
  rw [readNat, List.takeWhile_append_of_pos hdigits, List.dropWhile_append_of_pos hdigits, hnone,
    hall, List.append_nil, Nat.ofDigitChars_ten_toDigits, if_pos rfl]

theorem readAtom_printInt {i : ℤ} (hi : -2 ^ 63 ≤ i ∧ i < 2 ^ 64) {cs : List Char} (h : Stops cs) :
    readAtom (printInt i ++ cs) = some (.int i, cs) := by
  unfold printInt
  split_ifs with hneg
  · have hpos : 0 < i.natAbs ∧ i.natAbs ≤ 2 ^ 63 := by omega
    have habs : -(i.natAbs : ℤ) = i := by omega
    simp only [List.cons_append, readAtom, readNat_toDigits _ h, Option.bind_eq_bind,
      Option.bind_some, if_pos hpos, habs]
  · have hlt : i.natAbs < 2 ^ 64 := by omega
    have habs : (i.natAbs : ℤ) = i := by omega
    have hnat := readNat_toDigits i.natAbs h
    obtain ⟨d, ds, hd⟩ := List.exists_cons_of_ne_nil (Nat.toDigits_ne_nil (n := i.natAbs) (b := 10))
    have hdigit : d.isDigit = true :=
      Nat.isDigit_of_mem_toDigits (by decide) (by decide) (hd ▸ List.mem_cons_self)
    rw [hd, List.cons_append] at hnat ⊢
    have hne : ∀ c : Char, c.isDigit = false → d ≠ c := fun c hc he => by simp [he, hc] at hdigit
    rw [readAtom.eq_def]
    split
    · next heq => exact absurd (List.cons.inj heq).1 (hne _ rfl)
    · next heq => exact absurd (List.cons.inj heq).1 (hne _ rfl)
    · next heq => exact absurd (List.cons.inj heq).1 (hne _ rfl)
    · next heq => exact absurd (List.cons.inj heq).1 (hne _ rfl)
    · simp only [hnat, Option.bind_eq_bind, Option.bind_some, if_pos hlt, habs]

/-! ### Fuel -/

mutual

/-- The fuel that parsing a value takes. -/
def weight : Json → ℕ
  | .array (j :: items) => 1 + weight j + weightItems items
  | .object ((_, j) :: members) => 2 + weight j + weightMembers members
  | _ => 1

def weightItems : List Json → ℕ
  | [] => 1
  | j :: items => 1 + weight j + weightItems items

def weightMembers : List (String × Json) → ℕ
  | [] => 1
  | (_, j) :: members => 2 + weight j + weightMembers members

end

/-! ### Values -/

/-- A text that starts like a value, not with a blank or a closing bracket. -/
def Opens (cs : List Char) : Prop :=
  ∃ c rest, cs = c :: rest ∧ isBlank c = false ∧ c ≠ ']' ∧ c ≠ '}'

theorem Opens.skip_append {text : List Char} (h : Opens text) (cs : List Char) :
    skip (text ++ cs) = text ++ cs := by
  obtain ⟨c, rest, rfl, hc, -, -⟩ := h
  exact skip_cons hc (rest ++ cs)

/-- An integer starts with a digit or a minus sign, so with nothing else. -/
theorem printInt_head (i : ℤ) : ∃ c rest, printInt i = c :: rest ∧
    ∀ d : Char, d.isDigit = false → d ≠ '-' → c ≠ d := by
  unfold printInt
  split_ifs
  · exact ⟨'-', _, rfl, fun d _ hd => hd.symm⟩
  · obtain ⟨c, cs, hc⟩ := List.exists_cons_of_ne_nil (Nat.toDigits_ne_nil (n := i.natAbs) (b := 10))
    have hdigit : c.isDigit = true :=
      Nat.isDigit_of_mem_toDigits (by decide) (by decide) (hc ▸ List.mem_cons_self)
    exact ⟨c, cs, hc, fun d hd _ he => by simp [he, hd] at hdigit⟩

theorem printInt_opens (i : ℤ) : Opens (printInt i) := by
  obtain ⟨c, rest, hc, hne⟩ := printInt_head i
  have hblank : isBlank c = false := by
    simp [isBlank, hne ' ' rfl (by decide), hne '\n' rfl (by decide), hne '\r' rfl (by decide),
      hne '\t' rfl (by decide)]
  exact ⟨c, rest, hc, hblank, hne _ rfl (by decide), hne _ rfl (by decide)⟩

theorem print_opens (l : Layout) (depth : ℕ) {j : Json} (h : plain j = true) :
    Opens (print l depth j) := by
  cases j with
  | null => exact ⟨'n', _, by rw [print], rfl, by decide, by decide⟩
  | bool b =>
    cases b
    · exact ⟨'f', _, by rw [print], rfl, by decide, by decide⟩
    · exact ⟨'t', _, by rw [print], rfl, by decide, by decide⟩
  | int i =>
    rw [print]
    exact printInt_opens i
  | float bits => simp [plain] at h
  | string s =>
    rw [print]
    exact ⟨'\"', _, rfl, rfl, by decide, by decide⟩
  | array items =>
    cases items
    · exact ⟨'[', _, by rw [print], rfl, by decide, by decide⟩
    · exact ⟨'[', _, by rw [print], rfl, by decide, by decide⟩
  | object members =>
    cases members
    · exact ⟨'{', _, by rw [print], rfl, by decide, by decide⟩
    · exact ⟨'{', _, by rw [print], rfl, by decide, by decide⟩

theorem readValue_append {ws : List Char} (h : ∀ c ∈ ws, isBlank c = true) (fuel : ℕ)
    (cs : List Char) : readValue fuel (ws ++ cs) = readValue fuel cs := by
  cases fuel with
  | zero => rw [readValue, readValue]
  | succ fuel => rw [readValue, readValue, skip_append h]

theorem readMember_append {ws : List Char} (h : ∀ c ∈ ws, isBlank c = true) (fuel : ℕ)
    (cs : List Char) : readMember fuel (ws ++ cs) = readMember fuel cs := by
  cases fuel with
  | zero => rw [readMember, readMember]
  | succ fuel => rw [readMember, readMember, skip_append h]

theorem stops_cons {c : Char} (h : c.isDigit = false) (cs : List Char) : Stops (c :: cs) := by
  intro d hd
  rw [← Option.mem_some.mp hd]
  exact h

theorem stops_append {ws : List Char} (h : ∀ c ∈ ws, isBlank c = true) {c : Char}
    (hc : c.isDigit = false) (cs : List Char) : Stops (ws ++ c :: cs) := by
  cases ws with
  | nil => exact stops_cons hc cs
  | cons w ws =>
    have hw := h w List.mem_cons_self
    refine stops_cons ?_ (ws ++ c :: cs)
    simp only [isBlank, Bool.or_eq_true, beq_iff_eq] at hw
    rcases hw with ((rfl | rfl) | rfl) | rfl <;> rfl

theorem stops_printItems (l : Layout) (depth : ℕ) (items : List Json) (cs : List Char) :
    Stops (printItems l depth items ++ cs) := by
  cases items with
  | nil =>
    rw [printItems, List.append_assoc]
    exact stops_append (l.breakLine_blank depth) rfl cs
  | cons j items =>
    rw [printItems]
    exact stops_cons rfl _

theorem stops_printMembers (l : Layout) (depth : ℕ) (members : List (String × Json))
    (cs : List Char) : Stops (printMembers l depth members ++ cs) := by
  cases members with
  | nil =>
    rw [printMembers, List.append_assoc]
    exact stops_append (l.breakLine_blank depth) rfl cs
  | cons m members =>
    rw [printMembers]
    exact stops_cons rfl _

theorem weight_pos (j : Json) : 0 < weight j := by
  unfold weight
  split <;> omega

theorem exists_succ_of_weight {j : Json} {fuel : ℕ} (h : weight j ≤ fuel) :
    ∃ n, fuel = n + 1 := ⟨fuel - 1, by have := weight_pos j; omega⟩

/-- A member reads back once its value does. -/
theorem readMember_print (l : Layout) (key : String) (depth : ℕ) {j : Json} {fuel : ℕ}
    {cs : List Char} (h : readValue fuel (print l depth j ++ cs) = some (j, cs)) :
    readMember (fuel + 1) (printMember l depth (key, j) ++ cs) = some ((key, j), cs) := by
  have hcolon : skip (':' :: (l.gap ++ (print l depth j ++ cs))) = _ := skip_cons rfl _
  rw [readMember, printMember, printString, List.append_assoc, List.cons_append, List.cons_append,
    skip_cons rfl]
  simp only [List.append_assoc, List.singleton_append, readString_length,
    Option.bind_eq_bind, Option.bind_some, hcolon, readValue_append l.gap_blank, h,
    String.ofList_toList]
  rfl

mutual

/-- A printed value reads back, given fuel for it and a text that may follow it. -/
theorem readValue_print (l : Layout) : ∀ (j : Json) (depth fuel : ℕ) (cs : List Char),
    plain j = true → weight j ≤ fuel → Stops cs →
      readValue fuel (print l depth j ++ cs) = some (j, cs)
  | .null, depth, fuel, cs, _, hw, _ => by
    obtain ⟨fuel, rfl⟩ := exists_succ_of_weight hw
    rw [readValue, print, List.cons_append, skip_cons rfl]
    rfl
  | .bool true, depth, fuel, cs, _, hw, _ => by
    obtain ⟨fuel, rfl⟩ := exists_succ_of_weight hw
    rw [readValue, print, List.cons_append, skip_cons rfl]
    rfl
  | .bool false, depth, fuel, cs, _, hw, _ => by
    obtain ⟨fuel, rfl⟩ := exists_succ_of_weight hw
    rw [readValue, print, List.cons_append, skip_cons rfl]
    rfl
  | .int i, depth, fuel, cs, hp, hw, hs => by
    obtain ⟨fuel, rfl⟩ := exists_succ_of_weight hw
    have hi : -2 ^ 63 ≤ i ∧ i < 2 ^ 64 := by simpa [plain] using hp
    have hatom := readAtom_printInt hi hs
    obtain ⟨c, rest, hc, hne⟩ := printInt_head i
    rw [readValue, print, (printInt_opens i).skip_append]
    rw [hc, List.cons_append] at hatom ⊢
    split
    · next heq => exact absurd (List.cons.inj heq).1 (hne _ rfl (by decide))
    · next heq => exact absurd (List.cons.inj heq).1 (hne _ rfl (by decide))
    · next heq => exact absurd (List.cons.inj heq).1 (hne _ rfl (by decide))
    · exact hatom
  | .float bits, depth, fuel, cs, hp, _, _ => by simp [plain] at hp
  | .string s, depth, fuel, cs, _, hw, _ => by
    obtain ⟨fuel, rfl⟩ := exists_succ_of_weight hw
    rw [readValue, print, printString, List.cons_append, skip_cons rfl]
    simp only [List.append_assoc, List.singleton_append, readString_length, Option.bind_eq_bind,
      Option.bind_some, String.ofList_toList]
    rfl
  | .array [], depth, fuel, cs, _, hw, _ => by
    obtain ⟨fuel, rfl⟩ := exists_succ_of_weight hw
    rw [readValue, print, List.cons_append, skip_cons rfl]
    rfl
  | .array (j :: items), depth, fuel, cs, hp, hw, _ => by
    obtain ⟨fuel, rfl⟩ := exists_succ_of_weight hw
    obtain ⟨hj, hitems⟩ : plain j = true ∧ plainItems items = true := by
      simpa [plain, plainItems] using hp
    rw [weight] at hw
    have hfirst := readValue_print l j (depth + 1) fuel (printItems l depth items ++ cs) hj
      (by omega) (stops_printItems l depth items cs)
    have hrest := readItems_print l items depth fuel cs hitems (by omega)
    rw [readValue, print, List.cons_append, skip_cons rfl]
    simp only [List.append_assoc]
    rw [skip_append (l.breakLine_blank (depth + 1)), (print_opens l (depth + 1) hj).skip_append]
    obtain ⟨c, rest, hc, -, hclose, -⟩ := print_opens l (depth + 1) hj
    rw [hc, List.cons_append] at hfirst ⊢
    split
    · next heq => exact absurd (List.cons.inj heq).1 hclose
    · simp [hfirst, hrest]
  | .object [], depth, fuel, cs, _, hw, _ => by
    obtain ⟨fuel, rfl⟩ := exists_succ_of_weight hw
    rw [readValue, print, List.cons_append, skip_cons rfl]
    rfl
  | .object ((key, j) :: members), depth, fuel, cs, hp, hw, _ => by
    obtain ⟨fuel, rfl⟩ := exists_succ_of_weight hw
    obtain ⟨hj, hmembers⟩ : plain j = true ∧ plainMembers members = true := by
      simpa [plain, plainMembers] using hp
    rw [weight] at hw
    obtain ⟨fuel, rfl⟩ : ∃ n, fuel = n + 1 := ⟨fuel - 1, by omega⟩
    have hvalue := readValue_print l j (depth + 1) fuel (printMembers l depth members ++ cs) hj
      (by omega) (stops_printMembers l depth members cs)
    have hrest := readMembers_print l members depth (fuel + 1) cs hmembers (by omega)
    have hfirst := readMember_print l key (depth + 1) hvalue
    have hquote : printMember l (depth + 1) (key, j) =
        '\"' :: (printMember l (depth + 1) (key, j)).tail := by
      rw [printMember, printString]
      rfl
    rw [readValue, print, List.cons_append, skip_cons rfl]
    simp only [List.append_assoc]
    rw [skip_append (l.breakLine_blank (depth + 1)), hquote, List.cons_append, skip_cons rfl]
    rw [hquote, List.cons_append] at hfirst
    simp [hfirst, hrest]

theorem readItems_print (l : Layout) : ∀ (items : List Json) (depth fuel : ℕ) (cs : List Char),
    plainItems items = true → weightItems items ≤ fuel →
      readItems fuel (printItems l depth items ++ cs) = some (items, cs)
  | [], depth, fuel, cs, _, hw => by
    obtain ⟨fuel, rfl⟩ : ∃ n, fuel = n + 1 := ⟨fuel - 1, by rw [weightItems] at hw; omega⟩
    rw [readItems, printItems, List.append_assoc, skip_append (l.breakLine_blank depth)]
    rfl
  | j :: items, depth, fuel, cs, hp, hw => by
    rw [weightItems] at hw
    obtain ⟨fuel, rfl⟩ : ∃ n, fuel = n + 1 := ⟨fuel - 1, by omega⟩
    obtain ⟨hj, hitems⟩ : plain j = true ∧ plainItems items = true := by
      simpa [plainItems] using hp
    have hfirst := readValue_print l j (depth + 1) fuel (printItems l depth items ++ cs) hj
      (by omega) (stops_printItems l depth items cs)
    have hrest := readItems_print l items depth fuel cs hitems (by omega)
    rw [readItems, printItems, List.cons_append, skip_cons rfl]
    simp [readValue_append (l.breakLine_blank (depth + 1)), hfirst, hrest]

theorem readMembers_print (l : Layout) : ∀ (members : List (String × Json)) (depth fuel : ℕ)
    (cs : List Char), plainMembers members = true → weightMembers members ≤ fuel →
      readMembers fuel (printMembers l depth members ++ cs) = some (members, cs)
  | [], depth, fuel, cs, _, hw => by
    obtain ⟨fuel, rfl⟩ : ∃ n, fuel = n + 1 := ⟨fuel - 1, by rw [weightMembers] at hw; omega⟩
    rw [readMembers, printMembers, List.append_assoc, skip_append (l.breakLine_blank depth)]
    rfl
  | (key, j) :: members, depth, fuel, cs, hp, hw => by
    rw [weightMembers] at hw
    obtain ⟨fuel, rfl⟩ : ∃ n, fuel = n + 2 := ⟨fuel - 2, by omega⟩
    obtain ⟨hj, hmembers⟩ : plain j = true ∧ plainMembers members = true := by
      simpa [plainMembers] using hp
    have hvalue := readValue_print l j (depth + 1) fuel (printMembers l depth members ++ cs) hj
      (by omega) (stops_printMembers l depth members cs)
    have hrest := readMembers_print l members depth (fuel + 1) cs hmembers (by omega)
    have hfirst := readMember_print l key (depth + 1) hvalue
    rw [readMembers, printMembers, List.cons_append, skip_cons rfl]
    simp [readMember_append (l.breakLine_blank (depth + 1)), hfirst, hrest]

end

/-! ### Texts -/

theorem length_printInt_pos (i : ℤ) : 0 < (printInt i).length := by
  obtain ⟨c, rest, hc, -⟩ := printInt_head i
  simp [hc]

mutual

/-- A text is long enough to be fuel for its own value. -/
theorem weight_le_length (l : Layout) : ∀ (j : Json) (depth : ℕ), plain j = true →
    weight j ≤ (print l depth j).length
  | .null, depth, _ => by simp [weight, print]
  | .bool true, depth, _ => by simp [weight, print]
  | .bool false, depth, _ => by simp [weight, print]
  | .int i, depth, _ => by
    have hpos := length_printInt_pos i
    simp only [weight, print]
    omega
  | .float bits, depth, hp => by simp [plain] at hp
  | .string s, depth, _ => by simp [weight, print, printString]
  | .array [], depth, _ => by simp [weight, print]
  | .array (j :: items), depth, hp => by
    obtain ⟨hj, hitems⟩ : plain j = true ∧ plainItems items = true := by
      simpa [plain, plainItems] using hp
    have hfirst := weight_le_length l j (depth + 1) hj
    have hrest := weightItems_le_length l items depth hitems
    simp only [weight, print, List.length_cons, List.length_append]
    omega
  | .object [], depth, _ => by simp [weight, print]
  | .object ((key, j) :: members), depth, hp => by
    obtain ⟨hj, hmembers⟩ : plain j = true ∧ plainMembers members = true := by
      simpa [plain, plainMembers] using hp
    have hfirst := weight_le_length l j (depth + 1) hj
    have hrest := weightMembers_le_length l members depth hmembers
    simp only [weight, print, printMember, printString, List.length_cons, List.length_append]
    omega

theorem weightItems_le_length (l : Layout) : ∀ (items : List Json) (depth : ℕ),
    plainItems items = true → weightItems items ≤ (printItems l depth items).length
  | [], depth, _ => by simp [weightItems, printItems]
  | j :: items, depth, hp => by
    obtain ⟨hj, hitems⟩ : plain j = true ∧ plainItems items = true := by
      simpa [plainItems] using hp
    have hfirst := weight_le_length l j (depth + 1) hj
    have hrest := weightItems_le_length l items depth hitems
    simp only [weightItems, printItems, List.length_cons, List.length_append]
    omega

theorem weightMembers_le_length (l : Layout) : ∀ (members : List (String × Json)) (depth : ℕ),
    plainMembers members = true → weightMembers members ≤ (printMembers l depth members).length
  | [], depth, _ => by simp [weightMembers, printMembers]
  | (key, j) :: members, depth, hp => by
    obtain ⟨hj, hmembers⟩ : plain j = true ∧ plainMembers members = true := by
      simpa [plainMembers] using hp
    have hfirst := weight_le_length l j (depth + 1) hj
    have hrest := weightMembers_le_length l members depth hmembers
    simp only [weightMembers, printMembers, printMember, printString, List.length_cons,
      List.length_append]
    omega

end

/-- A text in either layout reads back as the value that was printed. -/
theorem ofText_toText (l : Layout) {j : Json} (h : plain j = true) :
    ofText (toText l j) = some j := by
  have hweight := weight_le_length l j 0 h
  have hread := readValue_print l j 0 ((print l 0 j).length + 1) [] h (by omega) (by simp [Stops])
  rw [List.append_nil] at hread
  simp [ofText, toText, hread, skip]

end JsonText
