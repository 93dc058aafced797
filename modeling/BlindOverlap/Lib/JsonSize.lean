import BlindOverlap.Lib.JsonText

/-!
# Sizes of JSON texts

What a printed value takes up depends on its strings only through what these take up
themselves, in every layout. Two values that agree once zeros stand for the hexadecimal
digits in them have texts of one size.
-/
namespace JsonText

/-! ## Exchanging the strings of a value -/

mutual

/-- The value with its strings exchanged for others, keys apart. -/
def mapStrings (f : String → String) : Json → Json
  | .null => .null
  | .bool b => .bool b
  | .int i => .int i
  | .float bits => .float bits
  | .string s => .string (f s)
  | .array items => .array (mapStringsItems f items)
  | .object members => .object (mapStringsMembers f members)

def mapStringsItems (f : String → String) : List Json → List Json
  | [] => []
  | j :: items => mapStrings f j :: mapStringsItems f items

def mapStringsMembers (f : String → String) : List (String × Json) → List (String × Json)
  | [] => []
  | (key, j) :: members => (key, mapStrings f j) :: mapStringsMembers f members

end

section Exchange
variable (f : String → String)

theorem mapStringsItems_eq_map (items : List Json) :
    mapStringsItems f items = items.map (mapStrings f) := by
  induction items with
  | nil => rfl
  | cons j items ih => rw [mapStringsItems, ih, List.map_cons]

theorem mapStringsMembers_eq_map (members : List (String × Json)) :
    mapStringsMembers f members = members.map (fun m => (m.1, mapStrings f m.2)) := by
  induction members with
  | nil => rfl
  | cons m members ih => rw [mapStringsMembers, ih, List.map_cons]

@[simp] theorem mapStrings_string (s : String) : mapStrings f (.string s) = .string (f s) := rfl

@[simp] theorem mapStrings_ofUInt8 (n : UInt8) :
    mapStrings f (Json.ofUInt8 n) = Json.ofUInt8 n := rfl

@[simp] theorem mapStrings_ofUInt64 (n : UInt64) :
    mapStrings f (Json.ofUInt64 n) = Json.ofUInt64 n := rfl

@[simp] theorem mapStrings_record (fields : List (String × Option Json)) :
    mapStrings f (Json.record fields) =
      Json.record (fields.map (fun g => (g.1, g.2.map (mapStrings f)))) := by
  rw [Json.record, mapStrings, mapStringsMembers_eq_map, Json.record, List.map_filterMap,
    List.filterMap_map]
  refine congrArg Json.object (List.filterMap_congr (fun g _ => ?_))
  cases hg : g.2 <;> simp [hg]

end Exchange

/-! ## What a text takes up -/

/-- What some characters take up together. -/
def extent (w : Char → ℕ) (cs : List Char) : ℕ := (cs.map w).sum

section Weight
variable {w : Char → ℕ}

@[simp] theorem extent_nil : extent w [] = 0 := rfl

@[simp] theorem extent_cons (c : Char) (cs : List Char) :
    extent w (c :: cs) = w c + extent w cs := by
  simp [extent]

@[simp] theorem extent_append (cs ds : List Char) :
    extent w (cs ++ ds) = extent w cs + extent w ds := by
  simp [extent]

theorem extent_flatMap_congr {print print' : Char → List Char} {cs : List Char}
    (h : ∀ c ∈ cs, extent w (print c) = extent w (print' c)) :
    extent w (cs.flatMap print) = extent w (cs.flatMap print') := by
  induction cs with
  | nil => rfl
  | cons c cs ih =>
    obtain ⟨hc, hcs⟩ := List.forall_mem_cons.mp h
    rw [List.flatMap_cons, List.flatMap_cons, extent_append, extent_append, hc, ih hcs]

end Weight

section Print
variable {w : Char → ℕ} {f : String → String} (l : Layout)

theorem extent_printItems {items : List Json}
    (ih : ∀ j ∈ items, ∀ depth,
      extent w (print l depth (mapStrings f j)) = extent w (print l depth j)) (depth : ℕ) :
    extent w (printItems l depth (items.map (mapStrings f))) =
      extent w (printItems l depth items) := by
  induction items with
  | nil => rfl
  | cons j items ihitems =>
    obtain ⟨hj, hitems⟩ := List.forall_mem_cons.mp ih
    simp only [List.map_cons, printItems, extent_cons, extent_append, hj, ihitems hitems]

theorem extent_printMember {m : String × Json}
    (ih : ∀ depth, extent w (print l depth (mapStrings f m.2)) = extent w (print l depth m.2))
    (depth : ℕ) :
    extent w (printMember l depth (m.1, mapStrings f m.2)) = extent w (printMember l depth m) := by
  rw [printMember, printMember.eq_def l depth m]
  simp only [extent_append, extent_cons, ih]

theorem extent_printMembers {members : List (String × Json)}
    (ih : ∀ m ∈ members, ∀ depth,
      extent w (print l depth (mapStrings f m.2)) = extent w (print l depth m.2)) (depth : ℕ) :
    extent w (printMembers l depth (members.map (fun m => (m.1, mapStrings f m.2)))) =
      extent w (printMembers l depth members) := by
  induction members with
  | nil => rfl
  | cons m members ihmembers =>
    obtain ⟨hm, hmembers⟩ := List.forall_mem_cons.mp ih
    simp only [List.map_cons, printMembers, extent_cons, extent_append, extent_printMember l hm,
      ihmembers hmembers]

/-- Exchanging strings for others of the same extent leaves the extent of the text. -/
theorem extent_print (hf : ∀ s, extent w (printString (f s)) = extent w (printString s))
    (j : Json) (depth : ℕ) :
    extent w (print l depth (mapStrings f j)) = extent w (print l depth j) := by
  induction j using Json.induction generalizing depth with
  | null => rfl
  | bool b => rfl
  | int i => rfl
  | float bits => rfl
  | string s => exact hf s
  | array items ih =>
    rw [mapStrings, mapStringsItems_eq_map]
    cases items with
    | nil => rfl
    | cons j items =>
      obtain ⟨hj, hitems⟩ := List.forall_mem_cons.mp ih
      simp only [List.map_cons, print, extent_cons, extent_append, hj,
        extent_printItems l hitems]
  | object members ih =>
    rw [mapStrings, mapStringsMembers_eq_map]
    cases members with
    | nil => rfl
    | cons m members =>
      obtain ⟨hm, hmembers⟩ := List.forall_mem_cons.mp ih
      simp only [List.map_cons, print, extent_cons, extent_append, extent_printMember l hm,
        extent_printMembers l hmembers]

end Print

/-! ## Zeros for hexadecimal digits -/

def IsHexDigit (c : Char) : Prop := ∃ n < 16, c = Nat.digitChar n

instance : DecidablePred IsHexDigit := fun c => inferInstanceAs (Decidable (∃ n < 16, c = _))

def zeroDigit (c : Char) : Char := if IsHexDigit c then '0' else c

def zeroDigits (s : String) : String := String.ofList (s.toList.map zeroDigit)

/-- The value with zeros for the digits in its strings. -/
def zeroed : Json → Json := mapStrings zeroDigits

theorem zeroDigits_encode (bytes : List UInt8) :
    zeroDigits (Hex.encode bytes) = String.ofList (List.replicate (2 * bytes.length) '0') := by
  have hlength : (Hex.encode bytes).toList.length = 2 * bytes.length := by
    simp [Hex.encode, Hex.encodeByte, List.length_flatMap, Nat.mul_comm]
  rw [zeroDigits, ← hlength]
  refine congrArg String.ofList (List.map_eq_replicate_iff.mpr ?_)
  intro c hc
  exact if_pos (Hex.exists_digitChar_of_mem_encode hc)

theorem zeroed_ofHex {n : ℕ} (b : Bytes n) :
    zeroed (Json.ofHex b) = .string (String.ofList (List.replicate (2 * n) '0')) := by
  rw [zeroed, Json.ofHex, mapStrings_string, zeroDigits_encode, b.length_toList]

theorem extent_zeroDigits {w : Char → ℕ} (hw : ∀ n < 16, w (Nat.digitChar n) = w '0')
    (s : String) : extent w (printString (zeroDigits s)) = extent w (printString s) := by
  have hself : ∀ n < 16, printChar (Nat.digitChar n) = [Nat.digitChar n] := by decide
  have hchar : ∀ c ∈ s.toList, extent w (printChar (zeroDigit c)) = extent w (printChar c) := by
    intro c _
    by_cases hc : IsHexDigit c
    · obtain ⟨n, hn, rfl⟩ := hc
      rw [zeroDigit, if_pos ⟨n, hn, rfl⟩, hself n hn, show printChar '0' = ['0'] from rfl,
        extent_cons, extent_cons, hw n hn]
    · rw [zeroDigit, if_neg hc]
  simp only [printString, zeroDigits, String.toList_ofList, List.flatMap_map, extent_cons,
    extent_append, extent_flatMap_congr hchar]

/-- Texts with as many characters, and as many bytes. -/
def SameSize (s t : String) : Prop := s.length = t.length ∧ (utf8 s).length = (utf8 t).length

/-- Values that agree but for digits have texts of one size. -/
theorem sameSize_toText {j j' : Json} (h : zeroed j = zeroed j') (l : Layout) :
    SameSize (toText l j) (toText l j') := by
  have hextent : ∀ w : Char → ℕ, (∀ n < 16, w (Nat.digitChar n) = w '0') →
      extent w (print l 0 j) = extent w (print l 0 j') := by
    intro w hw
    rw [← extent_print l (extent_zeroDigits hw) j, ← extent_print l (extent_zeroDigits hw) j']
    exact congrArg (fun j => extent w (print l 0 j)) h
  constructor
  · have hcount := hextent (fun _ => 1) (fun _ _ => rfl)
    simpa [extent, toText] using hcount
  · have hbytes := hextent Char.utf8Size (by decide)
    simpa [extent, toText, utf8_ofList, List.length_flatMap] using hbytes

end JsonText
