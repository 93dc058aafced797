import BlindOverlap.Policy
import BlindOverlap.Reference

/-!
# Policy files

A policy is stored as a record of which only the name is required. Members that are dropped
from its file can only make it admit more, and showing it does not change what it admits.
-/
namespace BlindOverlap

open Json (Slot Keeps)

namespace PolicyProfile

def fieldNames : List String :=
  ["name", "require_trusted_peer", "min_pad_to", "max_ttl_secs", "require_lease",
    "require_invite", "allow_cardinality_only"]

def fields (p : PolicyProfile) : List (String × Option Json) :=
  [("name", some (.string p.name)), ("require_trusted_peer", some (.bool p.requireTrustedPeer)),
    ("min_pad_to", some (Json.ofOption Json.ofUInt64 p.minPadTo)),
    ("max_ttl_secs", some (Json.ofOption Json.ofUInt64 p.maxTtlSecs)),
    ("require_lease", some (.bool p.requireLease)),
    ("require_invite", some (.bool p.requireInvite)),
    ("allow_cardinality_only", some (.bool p.allowCardinalityOnly))]

/-- Every field but the name has a default. -/
def ofSlots : List Slot → Except DecodeError PolicyProfile
  | [name, requireTrustedPeer, minPadTo, maxTtlSecs, requireLease, requireInvite,
      allowCardinalityOnly] => do
    return {
      name := ← name.required "name" Json.asString
      requireTrustedPeer := ← requireTrustedPeer.defaulted false Json.asBool
      minPadTo := ← minPadTo.defaulted none (Json.asOption Json.asUInt64)
      maxTtlSecs := ← maxTtlSecs.defaulted none (Json.asOption Json.asUInt64)
      requireLease := ← requireLease.defaulted false Json.asBool
      requireInvite := ← requireInvite.defaulted false Json.asBool
      allowCardinalityOnly := ← allowCardinalityOnly.defaulted false Json.asBool }
  | _ => throw .invalidLength

def serialize (p : PolicyProfile) : Json := Json.record p.fields

def deserialize : Json → Except DecodeError PolicyProfile := Json.readRecord fieldNames ofSlots

def toJson (K : Crates) (p : PolicyProfile) : String := K.jsonToString p.serialize

def toJsonPretty (K : Crates) (p : PolicyProfile) : String := K.jsonToStringPretty p.serialize

def fromJson (K : Crates) (json : String) : Except PolicyError PolicyProfile :=
  (K.fromStr deserialize json).mapError .json

/-- What is written to the file. -/
def saveToFile (K : Crates) (p : PolicyProfile) : String := p.toJsonPretty K

def loadFromFile (K : Crates) : Option String → Except PolicyError PolicyProfile
  | none => .error .io
  | some contents => (K.fromStr deserialize contents).mapError .json

theorem nodup_fieldNames : fieldNames.Nodup := by decide

theorem asOption_ofOption_uint64 (o : Option UInt64) :
    Json.asOption Json.asUInt64 (Json.ofOption Json.ofUInt64 o) = .ok o :=
  Json.asOption_ofOption Json.asUInt64_ofUInt64 (fun _ h => Json.noConfusion h) o

theorem keeps {n : ℕ} (p : PolicyProfile) : Keeps (n + 1) serialize deserialize p := by
  have hnames : fieldNames = p.fields.map Prod.fst := rfl
  refine Json.keeps_record hnames nodup_fieldNames ?_ ?_
  · simp [fields, ofSlots, asOption_ofOption_uint64]
  · have hoption : ∀ o, JsonText.Storable n (Json.ofOption Json.ofUInt64 o) :=
      JsonText.storable_ofOption JsonText.storable_ofUInt64
    simp [fields, hoption]

theorem loadFromFile_saveToFile {K : Crates} (hK : K.ParsesPretty) (p : PolicyProfile) :
    loadFromFile K (some (p.saveToFile K)) = .ok p := by
  have hkeeps : Keeps Crates.nestingLimit serialize deserialize p := p.keeps
  rw [loadFromFile, saveToFile, toJsonPretty, Crates.fromStr_pretty hK _ hkeeps.storable,
    hkeeps.read_write]
  rfl

/-! ## Edited files -/

/-- What is left of a policy in a file that has only members of the given names. -/
def keeping (names : List String) (p : PolicyProfile) : PolicyProfile where
  name := p.name
  requireTrustedPeer := if "require_trusted_peer" ∈ names then p.requireTrustedPeer else false
  minPadTo := if "min_pad_to" ∈ names then p.minPadTo else none
  maxTtlSecs := if "max_ttl_secs" ∈ names then p.maxTtlSecs else none
  requireLease := if "require_lease" ∈ names then p.requireLease else false
  requireInvite := if "require_invite" ∈ names then p.requireInvite else false
  allowCardinalityOnly := if "allow_cardinality_only" ∈ names then p.allowCardinalityOnly else false

/-- A record made from a policy by dropping members and by adding ones of other names. -/
structure Edited (p : PolicyProfile) (edited : List (String × Option Json)) : Prop where
  nodup : (edited.map Prod.fst).Nodup
  known : ∀ f ∈ edited, f ∈ p.fields ∨ f.1 ∉ fieldNames

theorem Edited.deserialize_eq {p : PolicyProfile} {edited : List (String × Option Json)}
    (h : p.Edited edited) :
    deserialize (Json.record edited) =
      if "name" ∈ edited.map Prod.fst then .ok (p.keeping (edited.map Prod.fst))
      else .error (.missingField "name") := by
  have hfields : (p.fields.map Prod.fst).Nodup := nodup_fieldNames
  have hslots := Json.slots_record_edited hfields h.nodup h.known
  rw [deserialize, Json.readRecord, show fieldNames = p.fields.map Prod.fst from rfl, hslots]
  simp only [Except.ok_bind, fields, List.map_cons, List.map_nil, Option.elim_some, ofSlots,
    Slot.defaulted_ite _ (Json.asBool_bool _), Slot.defaulted_ite _ (asOption_ofOption_uint64 _)]
  by_cases hname : "name" ∈ edited.map Prod.fst
  · rw [if_pos hname, if_pos hname]
    rfl
  · rw [if_neg hname, if_neg hname]
    rfl

theorem Edited.loadFromFile_eq {K : Crates} {p : PolicyProfile}
    {edited : List (String × Option Json)} (h : p.Edited edited) {text : String}
    (htext : K.jsonFromStr text = some (Json.record edited)) :
    loadFromFile K (some text) =
      if "name" ∈ edited.map Prod.fst then .ok (p.keeping (edited.map Prod.fst))
      else .error (.json (.data (.missingField "name"))) := by
  simp only [loadFromFile, Crates.fromStr, htext, h.deserialize_eq]
  by_cases hname : "name" ∈ edited.map Prod.fst
  · rw [if_pos hname, if_pos hname]
    rfl
  · rw [if_neg hname, if_neg hname]
    rfl

/-- Clauses that are left out demand nothing. -/
theorem keeping_barest_le (names : List String) (p : PolicyProfile) :
    (p.keeping names).barest ≤ p.barest := by
  have hflag : ∀ (kept : Prop) [Decidable kept] (b : Bool), (if kept then b else false) ≤ b := by
    intro kept _ b
    split_ifs
    · exact le_refl b
    · exact Bool.false_le b
  have hpadding : ((p.keeping names).minPadTo.getD 0).toNat ≤ (p.minPadTo.getD 0).toNat := by
    simp only [keeping]
    split_ifs
    · exact le_refl _
    · exact Nat.zero_le _
  have httl : p.barest.ttlSecs.toNat ≤ (p.keeping names).barest.ttlSecs.toNat := by
    rw [le_barest_ttl_iff]
    intro max hmax
    simp only [keeping] at hmax
    split_ifs at hmax
    · exact le_barest_ttl_iff.mp (le_refl _) max hmax
    · cases hmax
  have hmode : p.barest.isIntersectionMode ≤ (p.keeping names).barest.isIntersectionMode := by
    have h := hflag ("allow_cardinality_only" ∈ names) p.allowCardinalityOnly
    exact compl_le_compl h
  exact SessionParams.le_iff.mpr ⟨hflag _ _, hpadding, httl, hflag _ _, hflag _ _, hmode⟩

/-- A policy whose file was edited is read exactly if its name is still there, and then it
admits whatever it did before. -/
theorem edited_policy_admits_more {K : Crates} {p : PolicyProfile}
    {edited : List (String × Option Json)} (h : p.Edited edited) {text : String}
    (htext : K.jsonFromStr text = some (Json.record edited)) :
    ((∃ q, loadFromFile K (some text) = .ok q) ↔ "name" ∈ edited.map Prod.fst) ∧
      ∀ q, loadFromFile K (some text) = .ok q → q.name = p.name ∧
        ∀ params, p.check params = .ok () → q.check params = .ok () := by
  rw [h.loadFromFile_eq htext]
  by_cases hname : "name" ∈ edited.map Prod.fst
  · rw [if_pos hname]
    refine ⟨iff_of_true ⟨_, rfl⟩ hname, ?_⟩
    rintro q ⟨⟩
    refine ⟨rfl, fun params hp => ?_⟩
    exact check_eq_ok_iff_le.mpr ((keeping_barest_le _ p).trans (check_eq_ok_iff_le.mp hp))
  · rw [if_neg hname]
    refine ⟨iff_of_false ?_ hname, ?_⟩
    · rintro ⟨q, hq⟩
      cases hq
    · intro q hq
      cases hq

/-- A strict policy of which only the name and the invitations are left. -/
def sampleEdited : List (String × Option Json) :=
  [("require_invite", some (.bool true)), ("name", some (.string "strict")),
    ("owner", some (.string "ops"))]

def sampleEditedFile : String := Crates.reference.jsonToStringPretty (Json.record sampleEdited)

theorem sampleEdited_edited : (strict "strict").Edited sampleEdited := by
  refine ⟨by decide, ?_⟩
  simp [sampleEdited, fields, strict, fieldNames]

theorem jsonFromStr_sampleEditedFile :
    Crates.reference.jsonFromStr sampleEditedFile = some (Json.record sampleEdited) := by
  have hstorable : ∀ f ∈ sampleEdited, Json.StorableField 126 f.2 := by
    simp [sampleEdited]
  exact Crates.reference_parsesPretty _ (JsonText.storable_record hstorable)

theorem edited_policy_admits_more_sample :
    ∃ q, loadFromFile .reference (some sampleEditedFile) = .ok q ∧
      ∀ params, (strict "strict").check params = .ok () → q.check params = .ok () := by
  obtain ⟨hread, hmore⟩ :=
    edited_policy_admits_more sampleEdited_edited jsonFromStr_sampleEditedFile
  obtain ⟨q, hq⟩ := hread.mpr (by decide)
  exact ⟨q, hq, (hmore q hq).2⟩

end PolicyProfile

/-! ## Commands -/

namespace Cli

/-- The error of a check that fails goes to the terminal, with exit code 1. -/
def cmdPolicyCheck (K : Crates) (policy : Option String) (hasTrustedPeer : Bool)
    (padTo : Option UInt64) (ttlSecs : UInt64) (hasLease hasInvite isIntersectionMode : Bool) :
    Except PolicyError Unit := do
  let policy ← PolicyProfile.loadFromFile K policy
  let params : SessionParams :=
    ⟨hasTrustedPeer, padTo, ttlSecs, hasLease, hasInvite, isIntersectionMode⟩
  policy.check params

/-- The text that is printed, of the policy in a file or of an example. -/
def cmdPolicyShow (K : Crates) (policy : Option (Option String)) (strict : Bool) :
    Except PolicyError String := do
  let policy ←
    match policy with
    | some file => PolicyProfile.loadFromFile K file
    | none =>
      if strict then pure (PolicyProfile.strict "example-strict")
      else pure (PolicyProfile.permissive "example-permissive")
  return policy.toJsonPretty K

theorem cmdPolicyShow_eq_ok {K : Crates} {policy : Option (Option String)} {strict : Bool}
    {shown : String} (h : cmdPolicyShow K policy strict = .ok shown) :
    ∃ p : PolicyProfile, shown = p.saveToFile K ∧
      ∀ file ∈ policy, PolicyProfile.loadFromFile K file = .ok p := by
  unfold cmdPolicyShow at h
  cases policy with
  | none =>
    cases strict with
    | false => exact ⟨_, (Except.ok.inj h).symm, nofun⟩
    | true => exact ⟨_, (Except.ok.inj h).symm, nofun⟩
  | some file =>
    obtain ⟨p, hp, hshown⟩ := Except.bind_eq_ok_iff.mp h
    refine ⟨p, (Except.ok.inj hshown).symm, ?_⟩
    rintro _ ⟨⟩
    exact hp

/-- What is shown of a policy, in a file of its own, is checked as that policy is and is shown
as it stands. -/
theorem policy_shown_is_policy {K : Crates} (hK : K.ParsesPretty)
    {policy : Option (Option String)} {strict : Bool} {shown : String}
    (h : cmdPolicyShow K policy strict = .ok shown) :
    (∀ file ∈ policy, ∀ trusted padTo ttlSecs lease invite intersection,
      cmdPolicyCheck K (some shown) trusted padTo ttlSecs lease invite intersection =
        cmdPolicyCheck K file trusted padTo ttlSecs lease invite intersection) ∧
      ∀ strict', cmdPolicyShow K (some (some shown)) strict' = .ok shown := by
  obtain ⟨p, rfl, hfile⟩ := cmdPolicyShow_eq_ok h
  have hload := PolicyProfile.loadFromFile_saveToFile hK p
  constructor
  · intro file hpolicy trusted padTo ttlSecs lease invite intersection
    rw [cmdPolicyCheck, cmdPolicyCheck, hload, hfile file hpolicy]
  · intro strict'
    simp only [cmdPolicyShow, hload]
    rfl

/-- A file in which most members are missing is shown with all of them. -/
theorem policy_shown_is_policy_sample :
    ∃ shown, cmdPolicyShow .reference (some (some PolicyProfile.sampleEditedFile)) false =
        .ok shown ∧
      (∀ trusted padTo ttlSecs lease invite intersection,
        cmdPolicyCheck .reference (some shown) trusted padTo ttlSecs lease invite intersection =
          cmdPolicyCheck .reference (some PolicyProfile.sampleEditedFile) trusted padTo ttlSecs
            lease invite intersection) ∧
      cmdPolicyShow .reference (some (some shown)) true = .ok shown := by
  have hload := PolicyProfile.sampleEdited_edited.loadFromFile_eq
    PolicyProfile.jsonFromStr_sampleEditedFile
  rw [if_pos (by decide)] at hload
  have hshown : cmdPolicyShow .reference (some (some PolicyProfile.sampleEditedFile)) false =
      .ok (((PolicyProfile.strict "strict").keeping
        (PolicyProfile.sampleEdited.map Prod.fst)).toJsonPretty .reference) := by
    simp only [cmdPolicyShow, hload]
    rfl
  obtain ⟨hchecks, hagain⟩ := policy_shown_is_policy Crates.reference_parsesPretty hshown
  exact ⟨_, hshown, hchecks _ rfl, hagain true⟩

end Cli

end BlindOverlap
