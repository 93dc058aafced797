import Mathlib

/-!
# Lines and white space

A text is read line by line, each line ending in a newline, with or without a
carriage return before it, except perhaps the last. Lines that contain neither are
read back as they were written.
-/

namespace Text

/-- The characters that `str::trim` takes off. -/
def isWhitespace (c : Char) : Bool :=
  let n := c.toNat
  decide (9 ≤ n ∧ n ≤ 13) || n == 0x20 || n == 0x85 || n == 0xA0 || n == 0x1680 ||
    decide (0x2000 ≤ n ∧ n ≤ 0x200A) || n == 0x2028 || n == 0x2029 || n == 0x202F || n == 0x205F ||
    n == 0x3000

def trim (s : String) : String :=
  String.ofList ((s.toList.dropWhile isWhitespace).reverse.dropWhile isWhitespace).reverse

/-- `contents.trim().is_empty()`. -/
def trimsToEmpty (contents : String) : Bool := contents.toList.all isWhitespace

/-- Trimming leaves alone what neither starts nor ends with white space. -/
theorem trim_of_ends {s : String} (hstart : ∀ c ∈ s.toList.head?, isWhitespace c = false)
    (hend : ∀ c ∈ s.toList.getLast?, isWhitespace c = false) : trim s = s := by
  have hkeep : ∀ l : List Char, (∀ c ∈ l.head?, isWhitespace c = false) →
      l.dropWhile isWhitespace = l := by
    intro l hl
    cases l with
    | nil => rfl
    | cons c l => rw [List.dropWhile_cons_of_neg (by simp [hl c rfl])]
  rw [trim, hkeep s.toList hstart, hkeep s.toList.reverse (by rwa [List.head?_reverse]),
    List.reverse_reverse, String.ofList_toList]

theorem trim_of_no_whitespace {s : String} (h : ∀ c ∈ s.toList, isWhitespace c = false) :
    trim s = s := by
  refine trim_of_ends ?_ ?_
  · intro c hc
    exact h c (List.mem_of_mem_head? hc)
  · intro c hc
    exact h c (List.mem_of_mem_getLast? hc)

/-- Trimming keeps a first character that is no white space. -/
theorem head?_trim {s : String} {c : Char} {cs : List Char} (hs : s.toList = c :: cs)
    (hc : isWhitespace c = false) : (trim s).toList.head? = some c := by
  have hstart : s.toList.dropWhile isWhitespace = c :: cs := by
    simp [hs, hc]
  rw [trim, hstart, String.toList_ofList, List.reverse_cons, List.dropWhile_append]
  split_ifs <;> simp [hc]

theorem mem_dropWhile {c : Char} (hc : isWhitespace c = false) {l : List Char} (h : c ∈ l) :
    c ∈ l.dropWhile isWhitespace := by
  induction l with
  | nil => exact h
  | cons d l ih =>
    rw [List.dropWhile_cons]
    split_ifs with hd
    · rcases List.mem_cons.mp h with rfl | hl
      · simp [hc] at hd
      · exact ih hl
    · exact h

/-- Trimming takes off nothing but white space. -/
theorem mem_trim {s : String} {c : Char} (hc : isWhitespace c = false) (h : c ∈ s.toList) :
    c ∈ (trim s).toList := by
  rw [trim, String.toList_ofList, List.mem_reverse]
  exact mem_dropWhile hc (List.mem_reverse.mpr (mem_dropWhile hc h))

/-- A line without the carriage return before its newline, both reversed. -/
def dropReturn : List Char → List Char
  | '\r' :: line => line
  | line => line

/-- Collects characters into lines, the one that is open being reversed. -/
def collectLines (line : List Char) : List Char → List String
  | [] => if line = [] then [] else [String.ofList line.reverse]
  | c :: rest =>
    if c = '\n' then String.ofList (dropReturn line).reverse :: collectLines [] rest
    else collectLines (c :: line) rest

def lines (s : String) : List String := collectLines [] s.toList

/-- Every line with a newline after it. -/
def unlines (ls : List String) : String := String.ofList (ls.flatMap (fun l => l.toList ++ ['\n']))

theorem collectLines_append {l : List Char} (hn : '\n' ∉ l) (line rest : List Char) :
    collectLines line (l ++ '\n' :: rest) =
      String.ofList (dropReturn (l.reverse ++ line)).reverse :: collectLines [] rest := by
  induction l generalizing line with
  | nil => simp [collectLines]
  | cons c l ih =>
    obtain ⟨hc, hl⟩ : c ≠ '\n' ∧ '\n' ∉ l := by
      simpa [eq_comm] using hn
    simp [collectLines, hc, ih hl]

theorem dropReturn_eq_self {l : List Char} (hr : '\r' ∉ l) : dropReturn l = l := by
  unfold dropReturn
  split
  · exact absurd List.mem_cons_self hr
  · rfl

/-- A text without line breaks. -/
def Unbroken (s : String) : Prop := '\n' ∉ s.toList ∧ '\r' ∉ s.toList

instance (s : String) : Decidable (Unbroken s) := inferInstanceAs (Decidable (_ ∧ _))

theorem Unbroken.append {s t : String} (hs : Unbroken s) (ht : Unbroken t) : Unbroken (s ++ t) := by
  simp [Unbroken, hs.1, hs.2, ht.1, ht.2]

theorem unbroken_of_no_whitespace {s : String} (h : ∀ c ∈ s.toList, isWhitespace c = false) :
    Unbroken s :=
  ⟨fun hc => absurd (h _ hc) (by decide), fun hc => absurd (h _ hc) (by decide)⟩

/-- Unbroken lines are read back. -/
theorem lines_unlines {ls : List String} (h : ∀ l ∈ ls, Unbroken l) :
    lines (unlines ls) = ls := by
  rw [lines, unlines, String.toList_ofList]
  induction ls with
  | nil => rfl
  | cons l ls ih =>
    obtain ⟨hn, hr⟩ := h l List.mem_cons_self
    have hrest := ih (fun l' hl' => h l' (List.mem_cons_of_mem l hl'))
    have hline : (dropReturn (l.toList.reverse ++ [])).reverse = l.toList := by
      rw [List.append_nil, dropReturn_eq_self (by simpa using hr), List.reverse_reverse]
    rw [List.flatMap_cons, List.append_assoc, List.singleton_append, collectLines_append hn, hrest,
      hline, String.ofList_toList]

end Text
