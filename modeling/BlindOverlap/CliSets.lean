import BlindOverlap.CanonicalJson
import BlindOverlap.Cli
import BlindOverlap.Correctness
import BlindOverlap.Lib.Base64
import BlindOverlap.Lib.Machine

/-!
# Files of fact identifiers

The offline commands turn facts into files of identifiers, intersect such files and count
them. Seen as sets, the files of a run are what the same commands make of sets.
-/
namespace BlindOverlap

namespace Cli

inductive SetError where
  /-- A file that is not there. -/
  | io
  | invalidJson
  | unknownFormat (format : String)
  | cli (e : CliError)
  | psi (e : PsiError)
  deriving DecidableEq

/-! ## Commands -/

section Commands
variable (displayDouble : UInt64 → String) (K : Crates)

def factIdFromStr (jsonStr : String) : Except SetError FactId :=
  match K.jsonFromStr jsonStr with
  | none => .error .invalidJson
  | some value => .ok (factIdFromJson displayDouble K (JsonOrder.untyped value))

def encodeId (format : String) (id : FactId) : Except SetError String :=
  match format with
  | "hex" => .ok (Hex.encode id.toList)
  | "base64" => .ok (Base64.encode id.toList)
  | _ => .error (.unknownFormat format)

/-- What a run prints, line by line until it ends or fails, and how it comes out. -/
structure EncodeRun where
  printed : List String
  result : Except SetError (List FactId)

def encodeLines (format : String) : List String → EncodeRun
  | [] => ⟨[], .ok []⟩
  | line :: lines =>
    let trimmed := Text.trim line
    if trimmed = "" ∨ trimmed.toList.head? = some '#' then encodeLines format lines
    else
      match factIdFromStr displayDouble K trimmed with
      | .error e => ⟨[], .error e⟩
      | .ok factId =>
        match encodeId format factId with
        | .error e => ⟨[], .error e⟩
        | .ok encoded =>
          let rest := encodeLines format lines
          ⟨encoded :: rest.printed, rest.result.map (factId :: ·)⟩

/-- The root goes to the terminal, the identifiers to the output. -/
def cmdEncode (input format : String) (withRoot : Bool) :
    Step String (Except SetError (Option (Bytes 32))) :=
  let run := encodeLines displayDouble K format (Text.lines input)
  ⟨run.result.map (fun factIds => if withRoot then some (FactSet.fromIds K factIds).root else none),
    Text.unlines run.printed⟩

def loadFactSetFile (file : Option String) : Except SetError FactSet :=
  match file with
  | none => .error .io
  | some contents => (loadFactSet K contents).mapError .cli

def intersectReportLines (setA setB : FactSet) : PsiResult → List String
  | .cardinality count => ["cardinality: " ++ toString count]
  | .intersection ids root =>
    ("# intersection_root: " ++ Hex.encode root.toList) ::
      ("# set_root_a: " ++ Hex.encode setA.root.toList) ::
      ("# set_root_b: " ++ Hex.encode setB.root.toList) ::
      ("# count: " ++ toString ids.length) :: hexList ids

def intersectReport (setA setB : FactSet) (result : PsiResult) : String :=
  Text.unlines (intersectReportLines setA setB result)

def cmdIntersect (drawnA drawnB : StaticSecret) (setA setB : Option String)
    (cardinalityOnly : Bool) : Except SetError String := do
  let setA ← loadFactSetFile K setA
  let setB ← loadFactSetFile K setB
  let mode : IntersectionMode := if cardinalityOnly then .cardinality else .intersection
  let result ← (PsiProtocol.intersect K drawnA drawnB setA setB mode).mapError .psi
  return intersectReport setA setB result

def cmdCard (input : Option String) : Except SetError (ℕ × Bytes 32) := do
  let set ← loadFactSetFile K input
  return (set.len, set.root)

end Commands

/-! ## Commands on files -/

inductive SetCommand where
  | encode (input format : String) (withRoot : Bool) (output : Option String)
  | intersect (drawnA drawnB : StaticSecret) (setA setB : String) (cardinalityOnly : Bool)
      (output : Option String)
  | card (input : String)

inductive SetAnswer where
  | encoded (root : Option (Bytes 32))
  | reported (text : String)
  | counted (count : ℕ) (root : Bytes 32)
  deriving DecidableEq

/-- What a command does to the files, all writes succeeding. A file that cannot be made for
lack of an answer is not made. -/
def setCommands (displayDouble : UInt64 → String) (K : Crates) :
    Machine Files SetCommand (Except SetError SetAnswer)
  | files, .encode input format withRoot output =>
    let run := cmdEncode displayDouble K input format withRoot
    ⟨run.output.map .encoded, written files output run.next⟩
  | files, .intersect drawnA drawnB setA setB cardinalityOnly output =>
    match cmdIntersect K drawnA drawnB (files setA) (files setB) cardinalityOnly with
    | .error e => ⟨.error e, files⟩
    | .ok text => ⟨.ok (.reported text), written files output text⟩
  | files, .card input =>
    ⟨(cmdCard K (files input)).map (fun counted => .counted counted.1 counted.2), files⟩

/-! ## Files as sets -/

/-- The set that a text is loaded as, if it is one of identifiers. -/
def textSet (text : String) : Option (OrderedSet FactId) :=
  (loadFactIds text).toOption.map OrderedSet.ofList

/-- What is known of every file that is there. -/
abbrev SetFiles := String → Option (Option (OrderedSet FactId))

def setsOf (files : Files) : SetFiles := fun path => (files path).map textSet

section Facts
variable (displayDouble : UInt64 → String) (K : Crates)

/-- The lines that should hold facts. -/
def factLines (lines : List String) : List String :=
  (lines.map Text.trim).filter (fun line => ¬ (line = "" ∨ line.toList.head? = some '#'))

/-- The identifiers of the facts before the first of these lines that is not JSON. -/
def readableFacts (lines : List String) : List FactId :=
  (((factLines lines).map (fun line => (factIdFromStr displayDouble K line).toOption)).takeWhile
    Option.isSome).reduceOption

/-- Every line that should hold a fact does. -/
def AllFacts (lines : List String) : Prop :=
  ∀ line ∈ factLines lines, (factIdFromStr displayDouble K line).isOk = true

instance (lines : List String) : Decidable (AllFacts displayDouble K lines) :=
  inferInstanceAs (Decidable (∀ line ∈ factLines lines, _))

end Facts

/-- What the commands do to sets, `none` being the answer of one that fails. -/
def setRegister (displayDouble : UInt64 → String) (K : Crates) :
    Machine SetFiles SetCommand (Option SetAnswer)
  | sets, .encode input format withRoot output =>
    let facts := readableFacts displayDouble K (Text.lines input)
    let complete := AllFacts displayDouble K (Text.lines input) ∧
      (format = "hex" ∨ format = "base64" ∨ factLines (Text.lines input) = [])
    let printed : Option (OrderedSet FactId) :=
      if format = "hex" then some (.ofList facts)
      else if format = "base64" ∧ facts ≠ [] then none
      else some .empty
    ⟨if complete then
        some (.encoded (if withRoot then some (FactSet.fromIds K facts).root else none))
      else none, written sets output printed⟩
  | sets, .intersect _ _ setA setB cardinalityOnly output =>
    match (sets setA).join, (sets setB).join with
    | some s, some t =>
      if s.size ≤ maxSetSize ∧ t.size ≤ maxSetSize then
        let mode : IntersectionMode := if cardinalityOnly then .cardinality else .intersection
        ⟨some (.reported (intersectReport (.fromIds K s.toList) (.fromIds K t.toList)
            (.ofSet K (s.inter t) mode))),
          written sets output (if cardinalityOnly then none else some (s.inter t))⟩
      else ⟨none, sets⟩
    | _, _ => ⟨none, sets⟩
  | sets, .card input =>
    ⟨(sets input).join.map (fun s => .counted s.size (FactSet.fromIds K s.toList).root), sets⟩

/-! ## Texts as sets -/

theorem textSet_of_lines {text : String} {lines : List String} (h : Text.lines text = lines) :
    textSet text = (loadFactIdsFromLines lines).toOption.map OrderedSet.ofList := by
  rw [textSet, loadFactIds, h]

theorem textSet_hexList (ids : List FactId) :
    textSet (Text.unlines (hexList ids)) = some (.ofList ids) := by
  have hunbroken : ∀ line ∈ hexList ids, Text.Unbroken line := by
    intro line hline
    obtain ⟨id, -, rfl⟩ := List.mem_map.mp hline
    exact unbroken_hex id.toList
  rw [textSet_of_lines (Text.lines_unlines hunbroken), loadFactIdsFromLines_hexList]
  rfl

/-- A line that is no comment and has a character that is no digit spoils a file. -/
theorem loadFactIdsFromLines_spoiled {line : String} {c d : Char} {cs : List Char}
    (hline : line.toList = c :: cs) (hwhite : Text.isWhitespace c = false) (hcomment : c ≠ '#')
    (hmem : d ∈ line.toList) (hletter : Text.isWhitespace d = false)
    (hdigit : ∃ b ∈ String.utf8EncodeChar d, ¬ Hex.IsDigit b) (lines : List String) :
    (loadFactIdsFromLines (line :: lines)).toOption = none := by
  have hhead : (Text.trim line).toList.head? = some c := Text.head?_trim hline hwhite
  have hkept : ¬ (Text.trim line = "" ∨ (Text.trim line).toList.head? = some '#') := by
    rintro (hempty | hhash)
    · simp [hempty] at hhead
    · exact hcomment (Option.some.inj (hhead.symm.trans hhash))
  cases hdecode : Hex.decode (Text.trim line) with
  | ok bytes => exact absurd hdecode (Hex.decode_ne_ok (Text.mem_trim hletter hmem) hdigit bytes)
  | error e =>
    simp only [loadFactIdsFromLines, if_neg hkept, hdecode]
    rfl

theorem textSet_intersectReport (setA setB : FactSet) (ids : List FactId) (root : Bytes 32) :
    textSet (intersectReport setA setB (.intersection ids root)) = some (.ofList ids) := by
  have hcomment : ∀ text : String, Text.Unbroken text → ∀ title ∈ ["# intersection_root: ",
      "# set_root_a: ", "# set_root_b: ", "# count: "], Text.Unbroken (title ++ text) := by
    intro text htext title htitle
    have htitles : ∀ title ∈ ["# intersection_root: ", "# set_root_a: ", "# set_root_b: ",
      "# count: "], Text.Unbroken title := by decide
    exact (htitles title htitle).append htext
  have hunbroken : ∀ line ∈ intersectReportLines setA setB (.intersection ids root),
      Text.Unbroken line := by
    simp only [intersectReportLines, List.forall_mem_cons]
    refine ⟨hcomment _ (unbroken_hex _) _ (by simp), hcomment _ (unbroken_hex _) _ (by simp),
      hcomment _ (unbroken_hex _) _ (by simp), hcomment _ (unbroken_toString _) _ (by simp), ?_⟩
    intro line hline
    obtain ⟨id, -, rfl⟩ := List.mem_map.mp hline
    exact unbroken_hex id.toList
  rw [intersectReport, textSet_of_lines (Text.lines_unlines hunbroken), intersectReportLines,
    loadFactIdsFromLines_comment (by rw [String.toList_append]; rfl),
    loadFactIdsFromLines_comment (by rw [String.toList_append]; rfl),
    loadFactIdsFromLines_comment (by rw [String.toList_append]; rfl),
    loadFactIdsFromLines_comment (by rw [String.toList_append]; rfl), loadFactIdsFromLines_hexList]
  rfl

/-- A report of a number cannot be loaded. -/
theorem textSet_cardinality (setA setB : FactSet) (count : ℕ) :
    textSet (intersectReport setA setB (.cardinality count)) = none := by
  have hunbroken : ∀ line ∈ intersectReportLines setA setB (.cardinality count),
      Text.Unbroken line := by
    intro line hline
    rw [List.mem_singleton.mp hline]
    exact Text.Unbroken.append (by decide) (unbroken_toString count)
  have hline : ("cardinality: " ++ toString count).toList =
      'c' :: ("ardinality: " ++ toString count).toList := by
    rw [String.toList_append, String.toList_append]
    rfl
  have hmem : 'r' ∈ ("cardinality: " ++ toString count).toList := by
    rw [String.toList_append]
    exact List.mem_append_left _ (by decide)
  rw [intersectReport, textSet_of_lines (Text.lines_unlines hunbroken), intersectReportLines,
    loadFactIdsFromLines_spoiled hline (by decide) (by decide) hmem (by decide) (by decide)]
  rfl

theorem not_whitespace_of_mem_base64 {l : List UInt8} :
    ∀ c ∈ (Base64.encode l).toList, Text.isWhitespace c = false ∧ c ≠ '#' := by
  have hdigit : ∀ n < 64, Text.isWhitespace (Base64.digit n) = false ∧ Base64.digit n ≠ '#' := by
    decide
  intro c hc
  rcases Base64.isBase64_of_mem c hc with ⟨n, hn, rfl⟩ | rfl
  · exact hdigit n hn
  · decide

/-- Nor can identifiers in the other format, if there are any. -/
theorem textSet_base64 {factIds : List FactId} (h : factIds ≠ []) :
    textSet (Text.unlines (factIds.map (fun id => Base64.encode id.toList))) = none := by
  have hunbroken : ∀ line ∈ factIds.map (fun id => Base64.encode id.toList),
      Text.Unbroken line := by
    intro line hline
    obtain ⟨id, -, rfl⟩ := List.mem_map.mp hline
    exact Text.unbroken_of_no_whitespace fun c hc => (not_whitespace_of_mem_base64 c hc).1
  obtain ⟨id, rest, rfl⟩ := List.exists_cons_of_ne_nil h
  have hpadding : '=' ∈ (Base64.encode id.toList).toList :=
    Base64.padding_mem (by rw [id.length_toList]; decide)
  obtain ⟨c, cs, hcs⟩ := List.exists_cons_of_ne_nil (List.ne_nil_of_mem hpadding)
  have hc := not_whitespace_of_mem_base64 c (hcs ▸ List.mem_cons_self)
  rw [textSet_of_lines (Text.lines_unlines hunbroken), List.map_cons,
    loadFactIdsFromLines_spoiled hcs hc.1 hc.2 hpadding (by decide) (by decide)]
  rfl

/-! ## Encoding -/

section Encoding
variable {displayDouble : UInt64 → String} {K : Crates} {line : String} {lines : List String}

theorem factLines_skipped (h : Text.trim line = "" ∨ (Text.trim line).toList.head? = some '#') :
    factLines (line :: lines) = factLines lines := by
  rw [factLines, List.map_cons, List.filter_cons_of_neg (by simpa [or_iff_not_imp_left] using h)]
  rfl

theorem factLines_kept (h : ¬ (Text.trim line = "" ∨ (Text.trim line).toList.head? = some '#')) :
    factLines (line :: lines) = Text.trim line :: factLines lines := by
  rw [factLines, List.map_cons, List.filter_cons_of_pos (by simpa using h)]
  rfl

theorem readableFacts_of_error {e : SetError} {rest : List String}
    (hlines : factLines lines = line :: rest)
    (h : factIdFromStr displayDouble K line = .error e) :
    readableFacts displayDouble K lines = [] ∧ ¬ AllFacts displayDouble K lines := by
  refine ⟨by simp [readableFacts, hlines, h, Except.toOption, List.reduceOption], ?_⟩
  intro hall
  have hline := hall line (by simp [hlines])
  simp [h, Except.isOk, Except.toBool] at hline

theorem readableFacts_of_ok {id : FactId} {rest : List String}
    (hlines : factLines lines = line :: factLines rest)
    (h : factIdFromStr displayDouble K line = .ok id) :
    readableFacts displayDouble K lines = id :: readableFacts displayDouble K rest ∧
      (AllFacts displayDouble K lines ↔ AllFacts displayDouble K rest) := by
  refine ⟨by simp [readableFacts, hlines, h, Except.toOption, List.reduceOption], ?_⟩
  simp [AllFacts, hlines, h, Except.isOk, Except.toBool]

/-- In a known format a run prints the readable facts. -/
theorem encodeLines_of_known (displayDouble : UInt64 → String) (K : Crates) {format : String}
    {encode : FactId → String} (hformat : ∀ id, encodeId format id = .ok (encode id))
    (lines : List String) :
    (encodeLines displayDouble K format lines).printed =
        (readableFacts displayDouble K lines).map encode ∧
      (encodeLines displayDouble K format lines).result.toOption =
        if AllFacts displayDouble K lines then some (readableFacts displayDouble K lines)
        else none := by
  induction lines with
  | nil => exact ⟨rfl, rfl⟩
  | cons line lines ih =>
    by_cases hskip : Text.trim line = "" ∨ (Text.trim line).toList.head? = some '#'
    · have hfacts := @factLines_skipped line lines hskip
      simp only [encodeLines, if_pos hskip, readableFacts, AllFacts, hfacts]
      exact ih
    · have hfacts := @factLines_kept line lines hskip
      simp only [encodeLines, if_neg hskip]
      cases hfact : factIdFromStr displayDouble K (Text.trim line) with
      | error e =>
        obtain ⟨hread, hall⟩ := readableFacts_of_error hfacts hfact
        simp only [hread, if_neg hall]
        exact ⟨rfl, rfl⟩
      | ok id =>
        obtain ⟨hread, hall⟩ := readableFacts_of_ok hfacts hfact
        simp only [hformat, hread, hall, List.map_cons, ih.1, true_and, Except.toOption_map, ih.2]
        split_ifs <;> rfl

/-- In an unknown format nothing is printed. -/
theorem encodeLines_of_unknown (displayDouble : UInt64 → String) (K : Crates) {format : String}
    {e : SetError} (hformat : ∀ id, encodeId format id = .error e) (lines : List String) :
    (encodeLines displayDouble K format lines).printed = [] ∧
      (encodeLines displayDouble K format lines).result.toOption =
        if factLines lines = [] then some [] else none := by
  induction lines with
  | nil => exact ⟨rfl, rfl⟩
  | cons line lines ih =>
    by_cases hskip : Text.trim line = "" ∨ (Text.trim line).toList.head? = some '#'
    · simp only [encodeLines, if_pos hskip, @factLines_skipped line lines hskip]
      exact ih
    · have hne : factLines (line :: lines) ≠ [] := by simp [@factLines_kept line lines hskip]
      simp only [encodeLines, if_neg hskip, if_neg hne]
      cases hfact : factIdFromStr displayDouble K (Text.trim line) with
      | error e => exact ⟨rfl, rfl⟩
      | ok id =>
        simp only [hformat, true_and]
        rfl

end Encoding

/-! ## Loading and intersecting -/

section Loading
variable {K : Crates} {file : Option String}

/-- A file is loaded as the set that its text is. -/
theorem loadFactSetFile_toOption (K : Crates) (file : Option String) :
    (loadFactSetFile K file).toOption =
      (file.map textSet).join.map (fun s => FactSet.fromIds K s.toList) := by
  cases file with
  | none => rfl
  | some text =>
    simp only [loadFactSetFile, loadFactSet, textSet, Option.map_some, Option.join_some]
    cases loadFactIds text with
    | error e => rfl
    | ok ids => simp [FactSet.fromIds, Except.toOption]

theorem loadFactSetFile_of_set {s : OrderedSet FactId} (h : (file.map textSet).join = some s) :
    loadFactSetFile K file = .ok (.fromIds K s.toList) := by
  apply Except.toOption_eq_some_iff.mp
  rw [loadFactSetFile_toOption, h]
  rfl

theorem loadFactSetFile_of_no_set (h : (file.map textSet).join = none) :
    ∃ e, loadFactSetFile K file = .error e := by
  have hnone := loadFactSetFile_toOption K file
  rw [h] at hnone
  cases hload : loadFactSetFile K file with
  | error e => exact ⟨e, rfl⟩
  | ok s => simp [hload, Except.toOption] at hnone

variable {fileA fileB : Option String} {s t : OrderedSet FactId} {drawnA drawnB : StaticSecret}

theorem cmdIntersect_of_sets (hA : (fileA.map textSet).join = some s)
    (hB : (fileB.map textSet).join = some t) (hs : s.size ≤ maxSetSize) (ht : t.size ≤ maxSetSize)
    (hmasks : (sessionMasks K drawnA drawnB).Lawful (s.toList ++ t.toList))
    (hhash : Set.InjOn (Session.hashToPublicKey K) {x | x ∈ s ∨ x ∈ t}) (cardinalityOnly : Bool) :
    cmdIntersect K drawnA drawnB fileA fileB cardinalityOnly =
      .ok (intersectReport (.fromIds K s.toList) (.fromIds K t.toList)
        (.ofSet K (s.inter t) (if cardinalityOnly then .cardinality else .intersection))) := by
  have hids : ∀ u : OrderedSet FactId, (FactSet.fromIds K u.toList).ids = u := by
    intro u
    simp [FactSet.fromIds]
  have hlists : ∀ u : OrderedSet FactId, (FactSet.fromIds K u.toList).idList = u.toList := by
    intro u
    rw [FactSet.idList, hids]
  have hlen : ∀ u : OrderedSet FactId, (FactSet.fromIds K u.toList).len = u.size := by
    intro u
    rw [FactSet.len, hids]
  have hlawful : MasksLawfully K drawnA drawnB (.fromIds K s.toList) (.fromIds K t.toList) := by
    rw [MasksLawfully, hlists, hlists]
    exact hmasks
  have hresult := intersect_alike (by rwa [hlen]) (by rwa [hlen]) hlawful
    (if cardinalityOnly then .cardinality else .intersection)
  rw [hids, hids, (alike_eq_common hhash).1] at hresult
  simp only [cmdIntersect, loadFactSetFile_of_set hA, loadFactSetFile_of_set hB, hresult,
    Except.ok_bind, Except.mapError_ok, Except.pure_eq_ok]

theorem cmdIntersect_of_no_sets
    (h : (fileA.map textSet).join = none ∨ (fileB.map textSet).join = none)
    (cardinalityOnly : Bool) :
    ∃ e, cmdIntersect K drawnA drawnB fileA fileB cardinalityOnly = .error e := by
  rw [cmdIntersect]
  rcases h with hA | hB
  · obtain ⟨e, he⟩ := loadFactSetFile_of_no_set (K := K) hA
    exact ⟨e, by rw [he]; rfl⟩
  · obtain ⟨e, he⟩ := loadFactSetFile_of_no_set (K := K) hB
    cases loadFactSetFile K fileA with
    | error e' => exact ⟨e', rfl⟩
    | ok setA => exact ⟨e, by rw [he]; rfl⟩

/-- Sets that are too large are refused. -/
theorem cmdIntersect_of_large (hA : (fileA.map textSet).join = some s)
    (hB : (fileB.map textSet).join = some t) (h : ¬ (s.size ≤ maxSetSize ∧ t.size ≤ maxSetSize))
    (cardinalityOnly : Bool) :
    ∃ e, cmdIntersect K drawnA drawnB fileA fileB cardinalityOnly = .error e := by
  have hlen : ∀ u : OrderedSet FactId, (FactSet.fromIds K u.toList).len = u.size := by
    intro u
    simp [FactSet.fromIds, FactSet.len]
  have hrefused : ∀ mode, ∃ e, PsiProtocol.intersect K drawnA drawnB (.fromIds K s.toList)
      (.fromIds K t.toList) mode = .error e := by
    intro mode
    by_cases hs : s.size ≤ maxSetSize
    · have ht : maxSetSize < t.size := by
        simpa [hs] using h
      simp [PsiProtocol.intersect, PsiParty.new, hlen, Nat.not_lt.mpr hs, ht]
    · simp [PsiProtocol.intersect, PsiParty.new, hlen, Nat.lt_of_not_le hs]
  obtain ⟨e, he⟩ := hrefused (if cardinalityOnly then .cardinality else .intersection)
  exact ⟨.psi e, by
    simp only [cmdIntersect, loadFactSetFile_of_set hA, loadFactSetFile_of_set hB, he,
      Except.ok_bind, Except.mapError_error, Except.error_bind]⟩

end Loading

/-! ## Runs -/

/-- Files that hold identifiers of the given ones only. -/
def SetsWithin (known : Set FactId) (sets : SetFiles) : Prop :=
  ∀ path s, sets path = some (some s) → ∀ id ∈ s, id ∈ known

/-- A command that brings in known identifiers only, and masks them lawfully. -/
def SetCommand.Within (displayDouble : UInt64 → String) (K : Crates) (known : Set FactId) :
    SetCommand → Prop
  | .encode input _ _ _ => ∀ id ∈ readableFacts displayDouble K (Text.lines input), id ∈ known
  | .intersect drawnA drawnB _ _ _ _ =>
    ∀ ids : List FactId, (∀ id ∈ ids, id ∈ known) → (sessionMasks K drawnA drawnB).Lawful ids
  | .card _ => True

section Runs
variable {displayDouble : UInt64 → String} {K : Crates} {known : Set FactId} {files : Files}

theorem setsOf_written (files : Files) (output : Option String) (text : String) :
    setsOf (written files output text) = written (setsOf files) output (textSet text) := by
  cases output with
  | none => rfl
  | some path =>
    funext path'
    by_cases hpath : path' = path
    · subst hpath
      simp [setsOf, written]
    · simp [setsOf, written, hpath]

theorem SetsWithin.written {sets : SetFiles} (h : SetsWithin known sets) (output : Option String)
    {entry : Option (OrderedSet FactId)} (hentry : ∀ s ∈ entry, ∀ id ∈ s, id ∈ known) :
    SetsWithin known (written sets output entry) := by
  cases output with
  | none => exact h
  | some path =>
    intro path' s hs
    by_cases hpath : path' = path
    · subst hpath
      exact hentry s (by simpa [Cli.written] using hs)
    · exact h path' s (by simpa [Cli.written, hpath] using hs)

/-- What a run of encode prints, as a set, and how it comes out. -/
theorem cmdEncode_sets (displayDouble : UInt64 → String) (K : Crates) (sets : SetFiles)
    (input format : String) (withRoot : Bool) (output : Option String) :
    (cmdEncode displayDouble K input format withRoot).output.toOption.map .encoded =
        (setRegister displayDouble K sets (.encode input format withRoot output)).output ∧
      written sets output (textSet (cmdEncode displayDouble K input format withRoot).next) =
        (setRegister displayDouble K sets (.encode input format withRoot output)).next := by
  have hempty : textSet (Text.unlines []) = some .empty := textSet_hexList []
  simp only [cmdEncode, setRegister, Except.toOption_map, Option.map_map]
  by_cases hhex : format = "hex"
  · subst hhex
    obtain ⟨hprinted, hresult⟩ := encodeLines_of_known displayDouble K
      (fun id => (rfl : encodeId "hex" id = .ok (Hex.encode id.toList))) (Text.lines input)
    rw [hprinted, hresult, ← hexList, textSet_hexList]
    refine ⟨?_, by simp⟩
    by_cases hall : AllFacts displayDouble K (Text.lines input) <;> simp [hall]
  · by_cases hbase64 : format = "base64"
    · subst hbase64
      obtain ⟨hprinted, hresult⟩ := encodeLines_of_known displayDouble K
        (fun id => (rfl : encodeId "base64" id = .ok (Base64.encode id.toList)))
        (Text.lines input)
      rw [hprinted, hresult]
      constructor
      · by_cases hall : AllFacts displayDouble K (Text.lines input) <;> simp [hall]
      · by_cases hnil : readableFacts displayDouble K (Text.lines input) = []
        · simp only [hnil, List.map_nil, hempty]
          simp
        · simp [hnil, textSet_base64 hnil]
    · have hunknown : ∀ id, encodeId format id = .error (.unknownFormat format) := by
        intro id
        unfold encodeId
        split <;> first | contradiction | rfl
      obtain ⟨hprinted, hresult⟩ := encodeLines_of_unknown displayDouble K hunknown
        (Text.lines input)
      rw [hprinted, hresult, hempty]
      refine ⟨?_, by simp [hhex, hbase64]⟩
      by_cases hnil : factLines (Text.lines input) = []
      · simp [hnil, AllFacts, readableFacts, List.reduceOption]
      · simp [hnil, hhex, hbase64]

theorem cmdCard_toOption (K : Crates) (file : Option String) :
    ((cmdCard K file).map (fun counted => SetAnswer.counted counted.1 counted.2)).toOption =
      (file.map textSet).join.map
        (fun s => .counted s.size (FactSet.fromIds K s.toList).root) := by
  cases hset : (file.map textSet).join with
  | none =>
    obtain ⟨e, he⟩ := loadFactSetFile_of_no_set (K := K) hset
    rw [cmdCard, he]
    rfl
  | some s =>
    have hlen : (FactSet.fromIds K s.toList).len = s.size := by
      simp [FactSet.fromIds, FactSet.len]
    rw [cmdCard, loadFactSetFile_of_set hset, Option.map_some, ← hlen]
    rfl

/-- A command on files does what was done to their sets, which stay within the known ones. -/
structure Agree (known : Set FactId) (run : Step Files (Except SetError SetAnswer))
    (image : Step SetFiles (Option SetAnswer)) : Prop where
  output : run.output.toOption = image.output
  next : setsOf run.next = image.next
  within : SetsWithin known image.next

theorem setCommands_encode (hfiles : SetsWithin known (setsOf files)) {input format : String}
    {withRoot : Bool} {output : Option String}
    (hknown : ∀ id ∈ readableFacts displayDouble K (Text.lines input), id ∈ known) :
    Agree known (setCommands displayDouble K files (.encode input format withRoot output))
      (setRegister displayDouble K (setsOf files) (.encode input format withRoot output)) := by
  obtain ⟨houtput, hnext⟩ :=
    cmdEncode_sets displayDouble K (setsOf files) input format withRoot output
  refine ⟨?_, ?_, ?_⟩
  · rw [← houtput, setCommands, Except.toOption_map]
  · rw [← hnext, setCommands, setsOf_written]
  · refine hfiles.written output ?_
    intro s hs id hid
    split_ifs at hs
    · obtain rfl := Option.some.inj hs
      exact hknown id (OrderedSet.mem_ofList.mp hid)
    · cases hs
    · obtain rfl := Option.some.inj hs
      exact absurd hid (OrderedSet.mem_empty id)

theorem setCommands_intersect (displayDouble : UInt64 → String)
    (hhash : Set.InjOn (Session.hashToPublicKey K) known)
    (hfiles : SetsWithin known (setsOf files)) {drawnA drawnB : StaticSecret}
    (hmasks : ∀ ids : List FactId, (∀ id ∈ ids, id ∈ known) →
      (sessionMasks K drawnA drawnB).Lawful ids)
    (setA setB : String) (cardinalityOnly : Bool) (output : Option String) :
    Agree known
      (setCommands displayDouble K files
        (.intersect drawnA drawnB setA setB cardinalityOnly output))
      (setRegister displayDouble K (setsOf files)
        (.intersect drawnA drawnB setA setB cardinalityOnly output)) := by
  have hfails : (∃ e, cmdIntersect K drawnA drawnB (files setA) (files setB) cardinalityOnly =
      .error e) → Agree known (setCommands displayDouble K files
        (.intersect drawnA drawnB setA setB cardinalityOnly output)) ⟨none, setsOf files⟩ := by
    rintro ⟨e, he⟩
    rw [setCommands, he]
    exact ⟨rfl, rfl, hfiles⟩
  cases hA : (setsOf files setA).join with
  | none =>
    simp only [setRegister, hA]
    exact hfails (cmdIntersect_of_no_sets (.inl hA) cardinalityOnly)
  | some s =>
    cases hB : (setsOf files setB).join with
    | none =>
      simp only [setRegister, hA, hB]
      exact hfails (cmdIntersect_of_no_sets (.inr hB) cardinalityOnly)
    | some t =>
      simp only [setRegister, hA, hB]
      by_cases hsize : s.size ≤ maxSetSize ∧ t.size ≤ maxSetSize
      · have hs : ∀ id ∈ s, id ∈ known := hfiles setA s (Option.join_eq_some_iff.mp hA)
        have ht : ∀ id ∈ t, id ∈ known := hfiles setB t (Option.join_eq_some_iff.mp hB)
        have hlawful : (sessionMasks K drawnA drawnB).Lawful (s.toList ++ t.toList) := by
          refine hmasks _ fun id hid => ?_
          rcases List.mem_append.mp hid with hid | hid
          · exact hs id hid
          · exact ht id hid
        have hinj : Set.InjOn (Session.hashToPublicKey K) {x | x ∈ s ∨ x ∈ t} :=
          hhash.mono fun x hx => hx.elim (hs x) (ht x)
        have hrun := cmdIntersect_of_sets hA hB hsize.1 hsize.2 hlawful hinj cardinalityOnly
        rw [if_pos hsize, setCommands, hrun]
        refine ⟨rfl, ?_, ?_⟩
        · rw [setsOf_written]
          cases cardinalityOnly with
          | false => simp [PsiResult.ofSet, textSet_intersectReport]
          | true => simp [PsiResult.ofSet, textSet_cardinality]
        · refine hfiles.written output ?_
          intro u hu id hid
          split_ifs at hu
          · cases hu
          · obtain rfl := Option.some.inj hu
            exact hs id (OrderedSet.mem_inter.mp hid).1
      · rw [if_neg hsize]
        exact hfails (cmdIntersect_of_large hA hB hsize cardinalityOnly)

/-- One command does to the sets of the files what it should. -/
theorem setCommands_step (hhash : Set.InjOn (Session.hashToPublicKey K) known)
    (hfiles : SetsWithin known (setsOf files)) {c : SetCommand}
    (hc : c.Within displayDouble K known) :
    Agree known (setCommands displayDouble K files c)
      (setRegister displayDouble K (setsOf files) c) := by
  cases c with
  | encode input format withRoot output => exact setCommands_encode hfiles hc
  | intersect drawnA drawnB setA setB cardinalityOnly output =>
    exact setCommands_intersect displayDouble hhash hfiles hc setA setB cardinalityOnly output
  | card input => exact ⟨cmdCard_toOption K (files input), rfl, hfiles⟩

/-- Whatever sequence of commands is run on whatever files, the answers are those that the same
commands give on the sets in the files, and the files hold the sets that these leave behind. -/
theorem set_files_keep_sets (hhash : Set.InjOn (Session.hashToPublicKey K) known)
    (hfiles : SetsWithin known (setsOf files)) {commands : List SetCommand}
    (hcommands : ∀ c ∈ commands, c.Within displayDouble K known) :
    List.Forall₂ (fun output answer => output.toOption = answer)
        ((setCommands displayDouble K).outputs files commands)
        ((setRegister displayDouble K).outputs (setsOf files) commands) ∧
      setsOf ((setCommands displayDouble K).final files commands) =
        (setRegister displayDouble K).final (setsOf files) commands := by
  have hrun := Machine.forall₂_outputs_of_refinement (setCommands displayDouble K)
    (setRegister displayDouble K)
    (R := fun files sets => setsOf files = sets ∧ SetsWithin known sets)
    (A := fun output answer => output.toOption = answer)
    (fun files sets c hc h => by
      obtain ⟨rfl, hwithin⟩ := h
      exact (setCommands_step hhash hwithin hc).output)
    (fun files sets c hc h => by
      obtain ⟨rfl, hwithin⟩ := h
      have hstep := setCommands_step hhash hwithin hc
      exact ⟨hstep.next, hstep.within⟩)
    ⟨rfl, hfiles⟩ hcommands
  exact ⟨hrun.1, hrun.2.1⟩

/-- The points of the sample identifiers are told apart by every sample mask. -/
theorem sample_known_lawful (ids : List FactId)
    (h : ∀ id ∈ ids, id ∈ ({filled 5, filled 3} : Set FactId)) :
    (sessionMasks .reference sampleSecretA sampleSecretB).Lawful ids := by
  refine lawful_of_points [pointsOfFive, pointsOfThree] ?_ (by decide +kernel) (by decide +kernel)
  intro x hx
  rcases h x hx with rfl | rfl
  · exact ⟨_, List.mem_cons_self, pointsOfFive_of⟩
  · exact ⟨_, List.mem_cons_of_mem _ List.mem_cons_self, pointsOfThree_of⟩

theorem sample_known_injOn :
    Set.InjOn (Session.hashToPublicKey .reference) ({filled 5, filled 3} : Set FactId) := by
  have hinj : ∀ x ∈ [filled 5, filled 3], ∀ y ∈ [filled 5, filled 3],
      Session.hashToPublicKey .reference x = Session.hashToPublicKey .reference y → x = y := by
    decide +kernel
  intro x hx y hy
  exact hinj x (by simpa using hx) y (by simpa using hy)

/-- Two files of identifiers. -/
def sampleFiles : Files
  | "a" => some (Text.unlines (hexList [filled 5, filled 3]))
  | "b" => some (Text.unlines (hexList [filled 5]))
  | _ => none

theorem setsOf_sampleFiles (path : String) :
    setsOf sampleFiles path =
      if path = "a" then some (some (.ofList [filled 5, filled 3]))
      else if path = "b" then some (some (.ofList [filled 5]))
      else none := by
  rw [setsOf, sampleFiles.eq_def]
  split
  · simp [textSet_hexList]
  · simp [textSet_hexList]
  · simp_all

theorem sampleFiles_within : SetsWithin {filled 5, filled 3} (setsOf sampleFiles) := by
  intro path s hs id hid
  rw [setsOf_sampleFiles] at hs
  split_ifs at hs
  · obtain rfl := Option.some.inj (Option.some.inj hs)
    simpa using hid
  · obtain rfl := Option.some.inj (Option.some.inj hs)
    exact .inl (by simpa using hid)

theorem set_files_keep_sets_sample :
    setsOf ((setCommands (fun _ => "") .reference).final sampleFiles
      [.intersect sampleSecretA sampleSecretB "a" "b" false (some "c"), .card "c"]) "c" =
        some (some ((OrderedSet.ofList [filled 5, filled 3]).inter (.ofList [filled 5]))) := by
  have hcommands : ∀ c ∈ [SetCommand.intersect sampleSecretA sampleSecretB "a" "b" false (some "c"),
      .card "c"], c.Within (fun _ => "") .reference {filled 5, filled 3} := by
    simp only [List.forall_mem_cons]
    exact ⟨sample_known_lawful, trivial, nofun⟩
  rw [(set_files_keep_sets sample_known_injOn sampleFiles_within hcommands).2]
  have hsizes : (OrderedSet.ofList [filled 5, filled 3]).size ≤ maxSetSize ∧
      (OrderedSet.ofList [filled 5]).size ≤ maxSetSize := by decide +kernel
  simp [setRegister, setsOf_sampleFiles, hsizes, written]

/-! ## Intersections of many files -/

/-- A file that takes part in an intersection, with the identifiers that it holds. -/
structure Contribution where
  drawnA : StaticSecret
  drawnB : StaticSecret
  path : String
  ids : OrderedSet FactId

/-- Intersecting one file after another with what was left so far. -/
def chain (output : String) : String → List Contribution → List SetCommand
  | _, [] => []
  | source, c :: rest =>
    .intersect c.drawnA c.drawnB source c.path false (some output) :: chain output output rest

/-- A file apart from the output that holds the identifiers it is said to hold. -/
structure Contribution.Ready (K : Crates) (known : Set FactId) (files : Files) (output : String)
    (c : Contribution) : Prop where
  apart : c.path ≠ output
  holds : setsOf files c.path = some (some c.ids)
  size : c.ids.size ≤ maxSetSize
  masks : ∀ ids : List FactId, (∀ id ∈ ids, id ∈ known) →
    (sessionMasks K c.drawnA c.drawnB).Lawful ids

/-- A step of a chain leaves what the two files have in common in the output, and nothing
else changes. -/
theorem setsOf_intersect (displayDouble : UInt64 → String)
    (hhash : Set.InjOn (Session.hashToPublicKey K) known)
    (hfiles : SetsWithin known (setsOf files)) {source output : String} {s : OrderedSet FactId}
    (hsource : setsOf files source = some (some s)) (hs : s.size ≤ maxSetSize) {c : Contribution}
    (hc : c.Ready K known files output) :
    let next := (setCommands displayDouble K files
      (.intersect c.drawnA c.drawnB source c.path false (some output))).next
    SetsWithin known (setsOf next) ∧
      setsOf next = Function.update (setsOf files) output (some (some (s.inter c.ids))) := by
  have hagree := setCommands_intersect displayDouble hhash hfiles hc.masks
    source c.path false (some output)
  have himage : (setRegister displayDouble K (setsOf files)
      (.intersect c.drawnA c.drawnB source c.path false (some output))).next =
      Function.update (setsOf files) output (some (some (s.inter c.ids))) := by
    simp [setRegister, hsource, hc.holds, hs, hc.size, written]
  have hnext := hagree.next.trans himage
  refine ⟨?_, hnext⟩
  have hwithin := hagree.within
  rw [himage] at hwithin
  exact hnext ▸ hwithin

theorem size_inter_le (s t : OrderedSet FactId) : (s.inter t).size ≤ s.size :=
  List.length_filter_le _ _

/-- However many files are intersected one after another, in whatever order, the last output
holds exactly the identifiers that are in every one of them. -/
theorem chained_intersections (hhash : Set.InjOn (Session.hashToPublicKey K) known)
    (hfiles : SetsWithin known (setsOf files)) {source output : String} {s : OrderedSet FactId}
    (hsource : setsOf files source = some (some s)) (hs : s.size ≤ maxSetSize)
    {parts : List Contribution} (hparts : ∀ c ∈ parts, c.Ready K known files output)
    (hne : parts ≠ []) :
    ∃ u, setsOf ((setCommands displayDouble K).final files (chain output source parts)) output =
        some (some u) ∧
      ∀ id, id ∈ u ↔ id ∈ s ∧ ∀ c ∈ parts, id ∈ c.ids := by
  induction parts generalizing files source s with
  | nil => exact absurd rfl hne
  | cons c rest ih =>
    obtain ⟨hc, hrest⟩ := List.forall_mem_cons.mp hparts
    obtain ⟨hwithin, hnext⟩ := setsOf_intersect displayDouble hhash hfiles hsource hs hc
    have hsize : (s.inter c.ids).size ≤ maxSetSize := (size_inter_le s c.ids).trans hs
    have houtput := congrFun hnext output
    rw [Function.update_self] at houtput
    rw [chain, Machine.final_cons]
    by_cases hnil : rest = []
    · subst hnil
      exact ⟨s.inter c.ids, houtput, by simp⟩
    · have hready : ∀ d ∈ rest, d.Ready K known (setCommands displayDouble K files
          (.intersect c.drawnA c.drawnB source c.path false (some output))).next output := by
        intro d hd
        have hold := hrest d hd
        refine ⟨hold.apart, ?_, hold.size, hold.masks⟩
        rw [hnext, Function.update_of_ne hold.apart]
        exact hold.holds
      obtain ⟨u, hu, hmem⟩ := ih hwithin houtput hsize hready hnil
      refine ⟨u, hu, fun id => ?_⟩
      rw [hmem, OrderedSet.mem_inter, List.forall_mem_cons, and_assoc]

theorem chained_intersections_sample :
    ∃ u, setsOf ((setCommands (fun _ => "") .reference).final sampleFiles
        (chain "c" "a" [⟨sampleSecretA, sampleSecretB, "b", .ofList [filled 5]⟩,
          ⟨sampleSecretA, sampleSecretB, "a", .ofList [filled 5, filled 3]⟩])) "c" =
        some (some u) ∧
      ∀ id, id ∈ u ↔ id ∈ OrderedSet.ofList [filled 5, filled 3] ∧
        ∀ c ∈ [(⟨sampleSecretA, sampleSecretB, "b", .ofList [filled 5]⟩ : Contribution),
          ⟨sampleSecretA, sampleSecretB, "a", .ofList [filled 5, filled 3]⟩], id ∈ c.ids := by
  refine chained_intersections sample_known_injOn sampleFiles_within (by simp [setsOf_sampleFiles])
    (by decide +kernel) ?_ (by simp)
  simp only [List.forall_mem_cons]
  exact ⟨⟨by decide, by simp [setsOf_sampleFiles], by decide +kernel, sample_known_lawful⟩,
    ⟨by decide, by simp [setsOf_sampleFiles], by decide +kernel, sample_known_lawful⟩, nofun⟩

end Runs

end Cli

end BlindOverlap
