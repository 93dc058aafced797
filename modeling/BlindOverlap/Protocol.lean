import BlindOverlap.FactId
import BlindOverlap.Lib.CommutingMasks
import BlindOverlap.Lib.Fallible

/-!
# Colocated intersection protocol

Both parties live in one process. Each masks its identifiers with its secret,
the masked lists cross once, and the doubly masked lists are compared position
by position. Secrets drawn from the random source are arguments.
-/
namespace BlindOverlap

def maxSetSize : ℕ := 4096

inductive PsiError where
  | setTooLarge (size : ℕ)
  deriving DecidableEq

inductive IntersectionMode where
  | intersection
  | cardinality
  deriving DecidableEq

inductive PsiResult where
  | intersection (ids : List FactId) (root : Bytes 32)
  | cardinality (count : ℕ)
  deriving DecidableEq

/-- What a receipt commits to: the root, or a hash of the count. -/
def PsiResult.commitment (K : Crates) : PsiResult → Bytes 32
  | .intersection _ root => root
  | .cardinality count =>
    K.sha256 (utf8 "BlindOverlap:Cardinality:v1" ++ leBytes 8 count)

abbrev MaskedElement := Bytes 32

/-- The comparison shared by the colocated protocol and the sessions: count the
own elements found on the other side, or list their identifiers in order. -/
def intersectMasked (K : Crates) (own theirs : List MaskedElement) (originalIds : List FactId)
    (mode : IntersectionMode) : PsiResult :=
  let count := (own.filter (fun m => decide (m ∈ theirs))).length
  match mode with
  | .cardinality => .cardinality count
  | .intersection =>
    let ids := (matchedByPosition own theirs originalIds).insertionSort (· ≤ ·)
    .intersection ids (FactSet.fromIds K ids).root

structure PsiParty where
  secret : StaticSecret
  factSet : FactSet
  mode : IntersectionMode
  originalIds : List FactId

namespace Protocol

/-- The identifier's bytes serve as the scalar of its point. -/
def hashToPublicKey (K : Crates) (id : FactId) : PublicKey := K.publicKey id

end Protocol

namespace PsiParty

def withSecret (factSet : FactSet) (mode : IntersectionMode) (secret : StaticSecret) :
    Except PsiError PsiParty :=
  if factSet.len > maxSetSize then .error (.setTooLarge factSet.len)
  else .ok ⟨secret, factSet, mode, factSet.idList⟩

/-- A party with a freshly drawn secret. -/
def new (drawn : StaticSecret) (factSet : FactSet) (mode : IntersectionMode) :
    Except PsiError PsiParty :=
  if factSet.len > maxSetSize then .error (.setTooLarge factSet.len)
  else .ok ⟨drawn, factSet, mode, factSet.idList⟩

def computeMaskedSet (K : Crates) (p : PsiParty) : List MaskedElement :=
  p.originalIds.map (fun id => K.diffieHellman p.secret (Protocol.hashToPublicKey K id))

def applyMaskToReceived (K : Crates) (p : PsiParty) (received : List MaskedElement) :
    List MaskedElement :=
  received.map (fun masked => K.diffieHellman p.secret masked)

def findIntersection (K : Crates) (p : PsiParty) (own theirs : List MaskedElement) : PsiResult :=
  intersectMasked K own theirs p.originalIds p.mode

end PsiParty

namespace PsiProtocol

/-- The whole protocol between two local sets, answering for the first. -/
def intersect (K : Crates) (drawnA drawnB : StaticSecret) (setA setB : FactSet)
    (mode : IntersectionMode) : Except PsiError PsiResult := do
  let partyA ← PsiParty.new drawnA setA mode
  let partyB ← PsiParty.new drawnB setB mode
  let maskedA := partyA.computeMaskedSet K
  let maskedB := partyB.computeMaskedSet K
  let doublyMaskedA := partyB.applyMaskToReceived K maskedA
  let doublyMaskedB := partyA.applyMaskToReceived K maskedB
  return partyA.findIntersection K doublyMaskedA doublyMaskedB

end PsiProtocol

/-- Elements on the other side that match none of the own ones change nothing. -/
theorem intersectMasked_append {K : Crates} {own theirs extra : List MaskedElement}
    (h : ∀ e ∈ extra, e ∉ own) (originalIds : List FactId) (mode : IntersectionMode) :
    intersectMasked K own (theirs ++ extra) originalIds mode =
      intersectMasked K own theirs originalIds mode := by
  have hcount : own.filter (fun m => decide (m ∈ theirs ++ extra)) =
      own.filter (fun m => decide (m ∈ theirs)) := by
    refine List.filter_congr (fun m hm => ?_)
    have hextra : m ∉ extra := fun he => h m he hm
    simp only [List.mem_append, hextra, or_false]
  cases mode with
  | intersection => simp only [intersectMasked, matchedByPosition_append h]
  | cardinality => simp only [intersectMasked, hcount]

/-! ## Comparing honestly masked lists -/

/-- The answer that reports exactly the given set. -/
def PsiResult.ofSet (K : Crates) (s : OrderedSet FactId) : IntersectionMode → PsiResult
  | .intersection => .intersection s.toList (FactSet.fromIds K s.toList).root
  | .cardinality => .cardinality s.size

/-- Comparing the masks of an ascending list reports those of its identifiers
whose mask occurs on the other side. -/
theorem intersectMasked_map (K : Crates) (mask : FactId → MaskedElement)
    (theirs : List MaskedElement) (ids : OrderedSet FactId) (mode : IntersectionMode) :
    intersectMasked K (ids.toList.map mask) theirs ids.toList mode =
      .ofSet K (ids.filter (fun id => decide (mask id ∈ theirs))) mode := by
  have hsorted : (ids.toList.filter (fun id => decide (mask id ∈ theirs))).Pairwise (· ≤ ·) :=
    (ids.ascending.imp le_of_lt).filter _
  cases mode with
  | intersection =>
    simp only [intersectMasked, PsiResult.ofSet, matchedByPosition_map, OrderedSet.filter_toList,
      hsorted.insertionSort_eq]
  | cardinality =>
    simp only [intersectMasked, PsiResult.ofSet, OrderedSet.size, OrderedSet.filter_toList,
      List.filter_map, List.length_map]
    rfl

end BlindOverlap
