import BlindOverlap.CliSets
import BlindOverlap.Lib.JsonLine

/-!
# Canonical files of facts

The command that prints the canonical text of a fact. Its texts are fixed points of it, and
a file of facts can be replaced by their canonical texts: it is encoded alike.
-/

/-- What holds of everything related holds of one side of related lists. -/
theorem List.Forall₂.forall_mem_right {α β : Type} {R : α → β → Prop} {p : β → Prop}
    {l : List α} {l' : List β} (hl : List.Forall₂ R l l') (h : ∀ a b, R a b → p b) :
    ∀ b ∈ l', p b := by
  have hboth : List.Forall₂ (fun b a => p b ∧ R a b) l' l :=
    hl.flip.imp fun b a hab => ⟨h a b hab, hab⟩
  exact ((List.forall₂_and_left _ _).mp hboth).1

namespace BlindOverlap

open JsonOrder

section Values
variable {displayDouble : UInt64 → String}

/-- Keeping the last of repeated members makes nothing deeper. -/
theorem storable_untyped {n : ℕ} {j : Json} (h : JsonText.Storable n j) :
    JsonText.Storable n (untyped j) := by
  induction j using Json.induction generalizing n with
  | null => exact h
  | bool b => exact h
  | int i => exact h
  | float bits => exact h
  | string s => exact h
  | array items ih =>
    obtain ⟨n, rfl⟩ := Nat.exists_eq_succ_of_ne_zero (Nat.ne_zero_of_lt h.nesting_le)
    rw [untyped, JsonText.storable_array, untypedItems_eq_map, List.forall_mem_map]
    exact fun j hj => ih j hj (JsonText.storable_array.mp h j hj)
  | object members ih =>
    obtain ⟨n, rfl⟩ := Nat.exists_eq_succ_of_ne_zero (Nat.ne_zero_of_lt h.nesting_le)
    rw [untyped, JsonText.storable_object]
    intro m hm
    have hmem := (lastMembers_sublist _).mem hm
    rw [untypedMembers_eq_map] at hmem
    obtain ⟨m', hm', rfl⟩ := List.mem_map.mp hmem
    exact ih m' hm' (JsonText.storable_object.mp h m' hm')

theorem canonicalJson_ordered {j : Json} (h : JsonText.plain j = true) :
    canonicalJson displayDouble (ordered j) = canonicalJson displayDouble j := by
  rw [canonicalJson_eq_toText (plain_ordered h), canonicalJson_eq_toText h, ordered_ordered]

end Values

namespace Cli

section Canonicalize
variable (displayDouble : UInt64 → String) (K : Crates)

def cmdCanonicalize (json : String) : Except SetError String :=
  match K.jsonFromStr json with
  | none => .error .invalidJson
  | some value => .ok (canonicalJson displayDouble (untyped value))

/-- A line without doubles, if it is JSON at all. -/
def PlainFact (line : String) : Prop := ∀ j ∈ K.jsonFromStr line, JsonText.plain j = true

instance (line : String) : Decidable (PlainFact K line) :=
  inferInstanceAs (Decidable (∀ j ∈ K.jsonFromStr line, _))

/-- A text that can take the place of the line of a fact. -/
structure StandsFor (line text : String) : Prop where
  trimmed : Text.trim text = text
  isFact : ¬ (text = "" ∨ text.toList.head? = some '#')
  unbroken : Text.Unbroken text
  fixed : cmdCanonicalize displayDouble K text = .ok text
  factId : factIdFromStr displayDouble K text = factIdFromStr displayDouble K line

end Canonicalize

section Files
variable {displayDouble : UInt64 → String} {K : Crates}

theorem cmdCanonicalize_eq_ok_iff {line text : String} :
    cmdCanonicalize displayDouble K line = .ok text ↔
      ∃ j, K.jsonFromStr line = some j ∧ canonicalJson displayDouble (untyped j) = text := by
  rw [cmdCanonicalize]
  cases K.jsonFromStr line <;> simp

/-- The canonical text of a fact is read as the fact with its members sorted. -/
theorem jsonFromStr_canonicalJson (hprints : K.PrintsCompact) (hparses : K.ParsesCompact) {j : Json}
    (h : JsonText.Storable Crates.nestingLimit j) :
    K.jsonFromStr (canonicalJson displayDouble j) = some (ordered j) := by
  have hordered := storable_ordered h
  rw [canonicalJson_eq_toText h.plain, ← hprints _ hordered.plain, hparses _ hordered]

theorem standsFor_canonical (hprints : K.PrintsCompact) (hparses : K.ParsesCompact)
    (hreads : K.ReadsShallow) {line text : String} (hplain : PlainFact K line)
    (h : cmdCanonicalize displayDouble K line = .ok text) :
    StandsFor displayDouble K line text := by
  obtain ⟨j, hj, rfl⟩ := cmdCanonicalize_eq_ok_iff.mp h
  have hstorable : JsonText.Storable Crates.nestingLimit (untyped j) :=
    storable_untyped ⟨hplain j hj, hreads line j hj⟩
  have hvalue := hstorable.plain
  have hread : K.jsonFromStr (canonicalJson displayDouble (untyped j)) =
      some (ordered (untyped j)) := jsonFromStr_canonicalJson hprints hparses hstorable
  have huntyped : untyped (ordered (untyped j)) = ordered (untyped j) :=
    untyped_eq_self (uniqueKeys_ordered (uniqueKeys_untyped j))
  have htext : canonicalJson displayDouble (untyped j) =
      JsonText.toText JsonText.compact (ordered (untyped j)) := canonicalJson_eq_toText hvalue
  obtain ⟨htrimmed, hfact⟩ := JsonText.toText_solid (plain_ordered hvalue)
  refine ⟨?_, ?_, ?_, ?_, ?_⟩
  · rw [htext, htrimmed]
  · rwa [htext]
  · rw [htext]
    exact JsonText.unbroken_toText _
  · rw [cmdCanonicalize, hread]
    exact congrArg Except.ok (by rw [huntyped, canonicalJson_ordered hvalue])
  · rw [factIdFromStr, factIdFromStr, hread, hj]
    exact congrArg Except.ok (by rw [huntyped, factIdFromJson, canonicalJson_ordered hvalue]; rfl)

/-- A run on lines that stand for the facts of a file. -/
theorem encodeLines_standing {format : String} {lines texts : List String}
    (h : List.Forall₂ (StandsFor displayDouble K) (factLines lines) texts) :
    encodeLines displayDouble K format texts = encodeLines displayDouble K format lines := by
  induction lines generalizing texts with
  | nil =>
    cases h
    rfl
  | cons line lines ih =>
    by_cases hskip : Text.trim line = "" ∨ (Text.trim line).toList.head? = some '#'
    · rw [factLines_skipped hskip] at h
      simp only [encodeLines, if_pos hskip]
      exact ih h
    · rw [factLines_kept hskip] at h
      obtain ⟨text, rest, htext, hrest, rfl⟩ := List.forall₂_cons_left_iff.mp h
      simp only [encodeLines, htext.trimmed, if_neg htext.isFact, if_neg hskip, htext.factId,
        ih hrest]

/-- The lines of a file of such texts are all its facts. -/
theorem factLines_standing {lines texts : List String}
    (h : List.Forall₂ (StandsFor displayDouble K) lines texts) :
    factLines (Text.lines (Text.unlines texts)) = texts := by
  rw [Text.lines_unlines (h.forall_mem_right fun _ _ hstands => hstands.unbroken)]
  induction h with
  | nil => rfl
  | cons hstands hrest ih =>
    rw [factLines_kept (by rw [hstands.trimmed]; exact hstands.isFact), hstands.trimmed, ih]

end Files

/-- The facts of a file can be replaced by their canonical texts, one on a line. Canonical
texts stay as they are, and runs on either file print the same and come out the same. -/
theorem canonical_file_encodes_alike {displayDouble : UInt64 → String} {K : Crates}
    (hprints : K.PrintsCompact) (hparses : K.ParsesCompact) (hreads : K.ReadsShallow)
    {input : String} {canonical : List String}
    (hplain : ∀ line ∈ factLines (Text.lines input), PlainFact K line)
    (hcanonical : (factLines (Text.lines input)).mapM (cmdCanonicalize displayDouble K) =
      .ok canonical) :
    (factLines (Text.lines (Text.unlines canonical))).mapM (cmdCanonicalize displayDouble K) =
        .ok canonical ∧
      ∀ format withRoot, cmdEncode displayDouble K (Text.unlines canonical) format withRoot =
        cmdEncode displayDouble K input format withRoot := by
  have hstands : List.Forall₂ (StandsFor displayDouble K) (factLines (Text.lines input))
      canonical := by
    have htexts := (List.forall₂_and_left _ _).mpr ⟨hplain, Except.mapM_eq_ok_iff.mp hcanonical⟩
    exact htexts.imp fun line text h => standsFor_canonical hprints hparses hreads h.1 h.2
  have hfixed : List.Forall₂ (fun a b => cmdCanonicalize displayDouble K a = .ok b) canonical
      canonical := by
    exact List.forall₂_same.mpr (hstands.forall_mem_right fun _ _ hline => hline.fixed)
  refine ⟨?_, ?_⟩
  · rw [factLines_standing hstands]
    exact Except.mapM_eq_ok_iff.mpr hfixed
  · intro format withRoot
    have hlines : Text.lines (Text.unlines canonical) = canonical :=
      Text.lines_unlines (hstands.forall_mem_right fun _ _ hline => hline.unbroken)
    rw [cmdEncode, cmdEncode, hlines, encodeLines_standing hstands]

/-- A comment and a fact that gives a key twice. -/
def sampleFacts : String := "# facts\n \x7b\"b\": 1, \"a\": [true, -2], \"b\": 3\x7d\n"

theorem canonical_file_encodes_alike_sample :
    (factLines (Text.lines sampleFacts)).mapM (cmdCanonicalize (fun _ => "") .reference) =
        .ok ["\x7b\"a\":[true,-2],\"b\":3\x7d"] ∧
      cmdEncode (fun _ => "") .reference (Text.unlines ["\x7b\"a\":[true,-2],\"b\":3\x7d"])
          "hex" true = cmdEncode (fun _ => "") .reference sampleFacts "hex" true := by
  have hcanonical : (factLines (Text.lines sampleFacts)).mapM
      (cmdCanonicalize (fun _ => "") .reference) = .ok ["\x7b\"a\":[true,-2],\"b\":3\x7d"] := by
    decide +kernel
  have hplain : ∀ line ∈ factLines (Text.lines sampleFacts), PlainFact .reference line := by
    decide +kernel
  exact ⟨hcanonical, (canonical_file_encodes_alike Crates.reference_printsCompact
    Crates.reference_parsesCompact Crates.reference_readsShallow hplain hcanonical).2 "hex" true⟩

end Cli

end BlindOverlap
