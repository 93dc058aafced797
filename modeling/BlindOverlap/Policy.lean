import BlindOverlap.Crates
import BlindOverlap.Lib.JsonCoding
import BlindOverlap.Lib.Overriding

/-!
# Session policies

A policy names what a session must offer before it is set up. The sessions that it admits are
those that offer no less than its barest one, so that policies compare as their barest
sessions do.
-/
namespace BlindOverlap

open Json (Slot)

inductive PolicyError where
  | trustedPeerRequired (policy : String)
  | insufficientPadding (policy : String) (required offered : UInt64)
  | ttlTooLong (policy : String) (maxSecs offeredSecs : UInt64)
  | leaseRequired (policy : String)
  | inviteRequired (policy : String)
  | intersectionNotAllowed (policy : String)
  | json (e : JsonError)
  /-- A file that is not there. -/
  | io
  deriving DecidableEq

/-- What a prospective session offers. -/
structure SessionParams where
  hasTrustedPeer : Bool
  padTo : Option UInt64
  ttlSecs : UInt64
  hasLease : Bool
  hasInvite : Bool
  isIntersectionMode : Bool
  deriving DecidableEq

structure PolicyProfile where
  name : String
  requireTrustedPeer : Bool
  minPadTo : Option UInt64
  maxTtlSecs : Option UInt64
  requireLease : Bool
  requireInvite : Bool
  allowCardinalityOnly : Bool
  deriving DecidableEq

namespace PolicyProfile

def new (name : String) : PolicyProfile where
  name := name
  requireTrustedPeer := false
  minPadTo := none
  maxTtlSecs := none
  requireLease := false
  requireInvite := false
  allowCardinalityOnly := false

def permissive (name : String) : PolicyProfile := new name

def strict (name : String) : PolicyProfile where
  name := name
  requireTrustedPeer := true
  minPadTo := some 64
  maxTtlSecs := some 300
  requireLease := false
  requireInvite := true
  allowCardinalityOnly := false

/-- The first violation found. -/
def check (p : PolicyProfile) (params : SessionParams) : Except PolicyError Unit := do
  if p.requireTrustedPeer && !params.hasTrustedPeer then
    throw (.trustedPeerRequired p.name)
  if let some minPad := p.minPadTo then
    let offered := params.padTo.getD 0
    if offered < minPad then
      throw (.insufficientPadding p.name minPad offered)
  if let some maxTtl := p.maxTtlSecs then
    if params.ttlSecs > maxTtl then
      throw (.ttlTooLong p.name maxTtl params.ttlSecs)
  if p.requireLease && !params.hasLease then
    throw (.leaseRequired p.name)
  if p.requireInvite && !params.hasInvite then
    throw (.inviteRequired p.name)
  if p.allowCardinalityOnly && params.isIntersectionMode then
    throw (.intersectionNotAllowed p.name)

def enforce (p : PolicyProfile) (params : SessionParams) : Except PolicyError Unit :=
  p.check params

end PolicyProfile

/-! ## Clauses -/

/-- The fields of a policy that demand something. -/
inductive PolicyClause where
  | trustedPeer
  | padding
  | ttl
  | lease
  | invite
  | mode
  deriving DecidableEq

/-- The order in which they are checked. -/
def PolicyClause.all : List PolicyClause := [.trustedPeer, .padding, .ttl, .lease, .invite, .mode]

theorem PolicyClause.mem_all (clause : PolicyClause) : clause ∈ all := by
  cases clause <;> decide

namespace PolicyProfile

/-- A session meets one clause of a policy. -/
def Meets (p : PolicyProfile) (params : SessionParams) : PolicyClause → Prop
  | .trustedPeer => p.requireTrustedPeer = true → params.hasTrustedPeer = true
  | .padding => p.minPadTo.getD 0 ≤ params.padTo.getD 0
  | .ttl => ∀ max ∈ p.maxTtlSecs, params.ttlSecs ≤ max
  | .lease => p.requireLease = true → params.hasLease = true
  | .invite => p.requireInvite = true → params.hasInvite = true
  | .mode => p.allowCardinalityOnly = true → params.isIntersectionMode = false

instance (p : PolicyProfile) (params : SessionParams) : DecidablePred (p.Meets params)
  | .trustedPeer => inferInstanceAs (Decidable (_ → _))
  | .padding => inferInstanceAs (Decidable (_ ≤ _))
  | .ttl => inferInstanceAs (Decidable (∀ max ∈ p.maxTtlSecs, params.ttlSecs ≤ max))
  | .lease => inferInstanceAs (Decidable (_ → _))
  | .invite => inferInstanceAs (Decidable (_ → _))
  | .mode => inferInstanceAs (Decidable (_ → _))

/-- What is reported of a clause that is not met. -/
def violation (p : PolicyProfile) (params : SessionParams) : PolicyClause → PolicyError
  | .trustedPeer => .trustedPeerRequired p.name
  | .padding => .insufficientPadding p.name (p.minPadTo.getD 0) (params.padTo.getD 0)
  | .ttl => .ttlTooLong p.name (p.maxTtlSecs.getD 0) params.ttlSecs
  | .lease => .leaseRequired p.name
  | .invite => .inviteRequired p.name
  | .mode => .intersectionNotAllowed p.name

/-- One clause, checked alone. -/
def clauseCheck (p : PolicyProfile) (params : SessionParams) (clause : PolicyClause) :
    Except PolicyError Unit :=
  if p.Meets params clause then .ok () else .error (p.violation params clause)

theorem clauseCheck_eq_ok_iff {p : PolicyProfile} {params : SessionParams}
    {clause : PolicyClause} : p.clauseCheck params clause = .ok () ↔ p.Meets params clause := by
  rw [clauseCheck]
  split_ifs with h
  · exact iff_of_true rfl h
  · exact iff_of_false nofun h

theorem clauseCheck_bind (p : PolicyProfile) (params : SessionParams) (clause : PolicyClause)
    (rest : Unit → Except PolicyError Unit) :
    (p.clauseCheck params clause >>= rest) =
      if ¬ p.Meets params clause then .error (p.violation params clause) else rest () := by
  rw [clauseCheck]
  split_ifs <;> rfl

theorem check_eq_ite (p : PolicyProfile) (params : SessionParams) : p.check params =
      if ¬ p.Meets params .trustedPeer then .error (p.violation params .trustedPeer)
      else if ¬ p.Meets params .padding then .error (p.violation params .padding)
      else if ¬ p.Meets params .ttl then .error (p.violation params .ttl)
      else if ¬ p.Meets params .lease then .error (p.violation params .lease)
      else if ¬ p.Meets params .invite then .error (p.violation params .invite)
      else if ¬ p.Meets params .mode then .error (p.violation params .mode)
      else .ok () := by
  cases hpad : p.minPadTo with
  | none =>
    cases hmax : p.maxTtlSecs with
    | none => simp [check, Meets, violation, hpad, hmax]
    | some max => simp [check, Meets, violation, hpad, hmax]
  | some minPad =>
    cases hmax : p.maxTtlSecs with
    | none => simp [check, Meets, violation, hpad, hmax]
    | some max => simp [check, Meets, violation, hpad, hmax]

theorem check_eq_forM (p : PolicyProfile) (params : SessionParams) :
    p.check params = forM PolicyClause.all (p.clauseCheck params) := by
  simp only [PolicyClause.all, List.forM_cons, List.forM_nil]
  rw [clauseCheck_bind, clauseCheck_bind, clauseCheck_bind, clauseCheck_bind, clauseCheck_bind,
    clauseCheck_bind]
  exact p.check_eq_ite params

theorem check_eq_ok_iff {p : PolicyProfile} {params : SessionParams} :
    p.check params = .ok () ↔ ∀ clause, p.Meets params clause := by
  rw [check_eq_forM, Except.forM_eq_ok_iff]
  constructor
  · intro h clause
    exact clauseCheck_eq_ok_iff.mp (h clause clause.mem_all)
  · intro h clause _
    exact clauseCheck_eq_ok_iff.mpr (h clause)

/-- What a check reports is the first clause that is not met, with what it demands and what
was offered. -/
theorem check_eq_error_iff {p : PolicyProfile} {params : SessionParams} {e : PolicyError} :
    p.check params = .error e ↔ ∃ before clause after,
      PolicyClause.all = before ++ clause :: after ∧ (∀ c ∈ before, p.Meets params c) ∧
        ¬ p.Meets params clause ∧ p.violation params clause = e := by
  have hclause : ∀ c, p.clauseCheck params c = .error e ↔
      ¬ p.Meets params c ∧ p.violation params c = e := by
    intro c
    by_cases hc : p.Meets params c <;> simp [clauseCheck, hc]
  simp only [check_eq_forM, Except.forM_eq_error_iff, clauseCheck_eq_ok_iff, hclause]

end PolicyProfile

/-! ## Comparing policies -/

/-- What a session offers, clause by clause, more being better. -/
def SessionParams.offer (params : SessionParams) : Bool × ℕ × ℕᵒᵈ × Bool × Bool × Boolᵒᵈ :=
  (params.hasTrustedPeer, (params.padTo.getD 0).toNat, .toDual params.ttlSecs.toNat,
    params.hasLease, params.hasInvite, .toDual params.isIntersectionMode)

/-- Sessions are ordered by what they offer. -/
instance : Preorder SessionParams := .lift SessionParams.offer

theorem SessionParams.le_iff {s t : SessionParams} : s ≤ t ↔
    s.hasTrustedPeer ≤ t.hasTrustedPeer ∧ (s.padTo.getD 0).toNat ≤ (t.padTo.getD 0).toNat ∧
      t.ttlSecs.toNat ≤ s.ttlSecs.toNat ∧ s.hasLease ≤ t.hasLease ∧ s.hasInvite ≤ t.hasInvite ∧
      t.isIntersectionMode ≤ s.isIntersectionMode := Iff.rfl

namespace PolicyProfile

/-- The session that offers no more than a policy demands. -/
def barest (p : PolicyProfile) : SessionParams where
  hasTrustedPeer := p.requireTrustedPeer
  padTo := p.minPadTo
  ttlSecs := p.maxTtlSecs.getD (.ofNat (2 ^ 64 - 1))
  hasLease := p.requireLease
  hasInvite := p.requireInvite
  isIntersectionMode := !p.allowCardinalityOnly

/-- Without a maximum the barest session lives as long as any can. -/
theorem le_barest_ttl_iff {p : PolicyProfile} {ttl : UInt64} :
    ttl.toNat ≤ p.barest.ttlSecs.toNat ↔ ∀ max ∈ p.maxTtlSecs, ttl ≤ max := by
  cases hmax : p.maxTtlSecs with
  | none =>
    have hlast : (UInt64.ofNat (2 ^ 64 - 1)).toNat = 2 ^ 64 - 1 := by decide
    have hlt := ttl.toNat_lt
    simp only [barest, hmax, Option.getD_none, hlast]
    exact iff_of_true (by omega) nofun
  | some max => simp [barest, hmax, UInt64.le_iff_toNat_le]

theorem check_eq_ok_iff_le {p : PolicyProfile} {params : SessionParams} :
    p.check params = .ok () ↔ p.barest ≤ params := by
  have hmode : params.isIntersectionMode ≤ p.barest.isIntersectionMode ↔
      (p.allowCardinalityOnly = true → params.isIntersectionMode = false) := by
    simp only [barest]
    cases params.isIntersectionMode <;> cases p.allowCardinalityOnly <;> decide
  rw [check_eq_ok_iff, SessionParams.le_iff, le_barest_ttl_iff, hmode]
  constructor
  · intro h
    exact ⟨Bool.le_iff_imp.mpr (h .trustedPeer), UInt64.le_iff_toNat_le.mp (h .padding), h .ttl,
      Bool.le_iff_imp.mpr (h .lease), Bool.le_iff_imp.mpr (h .invite), h .mode⟩
  · rintro ⟨hpeer, hpadding, httl, hlease, hinvite, hmode⟩ clause
    cases clause with
    | trustedPeer => exact Bool.le_iff_imp.mp hpeer
    | padding => exact UInt64.le_iff_toNat_le.mpr hpadding
    | ttl => exact httl
    | lease => exact Bool.le_iff_imp.mp hlease
    | invite => exact Bool.le_iff_imp.mp hinvite
    | mode => exact hmode

/-- The sessions that a policy admits. -/
def admitted (p : PolicyProfile) : Set SessionParams := {params | p.check params = .ok ()}

theorem admitted_eq_Ici (p : PolicyProfile) : p.admitted = Set.Ici p.barest :=
  Set.ext fun _ => check_eq_ok_iff_le

/-- A policy admits the sessions that offer no less than its barest one, and so whatever another
policy does exactly if it admits the barest session of that one. -/
theorem admits_all_iff (p q : PolicyProfile) :
    (∀ params, p.check params = .ok () ↔ p.barest ≤ params) ∧
    ((∀ params, p.check params = .ok () → q.check params = .ok ()) ↔
      q.check p.barest = .ok ()) := by
  have hsubset : p.admitted ⊆ q.admitted ↔ q.barest ≤ p.barest := by
    rw [admitted_eq_Ici, admitted_eq_Ici, Set.Ici_subset_Ici]
  exact ⟨fun _ => check_eq_ok_iff_le, hsubset.trans check_eq_ok_iff_le.symm⟩

end PolicyProfile

/-! ## Building a policy -/

structure PolicyProfileBuilder where
  profile : PolicyProfile

namespace PolicyProfileBuilder

def new (name : String) : PolicyProfileBuilder := ⟨PolicyProfile.new name⟩

def requireTrustedPeer (required : Bool) (b : PolicyProfileBuilder) : PolicyProfileBuilder :=
  ⟨{ b.profile with requireTrustedPeer := required }⟩

def minPadTo (min : UInt64) (b : PolicyProfileBuilder) : PolicyProfileBuilder :=
  ⟨{ b.profile with minPadTo := some min }⟩

def maxTtlSecs (max : UInt64) (b : PolicyProfileBuilder) : PolicyProfileBuilder :=
  ⟨{ b.profile with maxTtlSecs := some max }⟩

def requireLease (required : Bool) (b : PolicyProfileBuilder) : PolicyProfileBuilder :=
  ⟨{ b.profile with requireLease := required }⟩

def requireInvite (required : Bool) (b : PolicyProfileBuilder) : PolicyProfileBuilder :=
  ⟨{ b.profile with requireInvite := required }⟩

def allowCardinalityOnly (only : Bool) (b : PolicyProfileBuilder) : PolicyProfileBuilder :=
  ⟨{ b.profile with allowCardinalityOnly := only }⟩

def build (b : PolicyProfileBuilder) : PolicyProfile := b.profile

end PolicyProfileBuilder

/-- A call of one of the builder's methods. -/
inductive PolicySetting where
  | requireTrustedPeer (required : Bool)
  | minPadTo (min : UInt64)
  | maxTtlSecs (max : UInt64)
  | requireLease (required : Bool)
  | requireInvite (required : Bool)
  | allowCardinalityOnly (only : Bool)
  deriving DecidableEq

namespace PolicySetting

def apply (b : PolicyProfileBuilder) : PolicySetting → PolicyProfileBuilder
  | requireTrustedPeer required => b.requireTrustedPeer required
  | minPadTo min => b.minPadTo min
  | maxTtlSecs max => b.maxTtlSecs max
  | requireLease required => b.requireLease required
  | requireInvite required => b.requireInvite required
  | allowCardinalityOnly only => b.allowCardinalityOnly only

/-- The clause that a setting writes. -/
def clause : PolicySetting → PolicyClause
  | requireTrustedPeer _ => .trustedPeer
  | minPadTo _ => .padding
  | maxTtlSecs _ => .ttl
  | requireLease _ => .lease
  | requireInvite _ => .invite
  | allowCardinalityOnly _ => .mode

/-- A session offers what a setting asks for. -/
def MetBy (params : SessionParams) : PolicySetting → Prop
  | requireTrustedPeer required => required = true → params.hasTrustedPeer = true
  | minPadTo min => min ≤ params.padTo.getD 0
  | maxTtlSecs max => params.ttlSecs ≤ max
  | requireLease required => required = true → params.hasLease = true
  | requireInvite required => required = true → params.hasInvite = true
  | allowCardinalityOnly only => only = true → params.isIntersectionMode = false

theorem meets_apply_self (params : SessionParams) (b : PolicyProfileBuilder) (w : PolicySetting) :
    (apply b w).profile.Meets params w.clause ↔ w.MetBy params := by
  cases w with
  | maxTtlSecs max => simp [apply, clause, PolicyProfile.Meets, MetBy,
      PolicyProfileBuilder.maxTtlSecs]
  | _ => exact Iff.rfl

/-- A setting leaves the other clauses as they are. -/
theorem meets_apply_of_ne (params : SessionParams) (b : PolicyProfileBuilder) (w : PolicySetting)
    {c : PolicyClause} (hc : c ≠ w.clause) :
    (apply b w).profile.Meets params c ↔ b.profile.Meets params c := by
  cases w <;> cases c <;> first | exact Iff.rfl | exact absurd rfl hc

end PolicySetting

/-- Whatever calls a policy is built by, it admits the sessions that offer what those calls
ask for which no later call of the same method overrides. -/
theorem built_policy_admits_iff (name : String) (settings : List PolicySetting)
    (params : SessionParams) :
    (settings.foldl PolicySetting.apply (.new name)).build.check params = .ok () ↔
      ∀ w, Overriding.InForce PolicySetting.clause settings w → w.MetBy params := by
  have hnew : ∀ c, (PolicyProfileBuilder.new name).profile.Meets params c := by
    intro c
    cases c <;> simp [PolicyProfileBuilder.new, PolicyProfile.new, PolicyProfile.Meets]
  rw [PolicyProfile.check_eq_ok_iff]
  exact Overriding.forall_view_foldl_iff
    (fun (b : PolicyProfileBuilder) clause => b.profile.Meets params clause)
    (PolicySetting.meets_apply_self params)
    (fun b w _ => PolicySetting.meets_apply_of_ne params b w) hnew settings

end BlindOverlap
