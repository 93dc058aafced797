import BlindOverlap.Crates
import BlindOverlap.Lib.OrderedSet

/-!
# Fact identifiers and committed sets

A fact set holds its identifiers in ascending order together with the root, a
hash over their number and their concatenation.
-/
namespace BlindOverlap

/-- The hash of a fact. -/
abbrev FactId := Bytes 32

/-- A set and its root. The type does not tie the two together; the functions below do. -/
structure FactSet where
  ids : OrderedSet FactId
  root : Bytes 32
  deriving DecidableEq

/-- The root is over the number of identifiers and the identifiers in ascending order, so it
does not depend on how they were collected. -/
def computeSetRoot (K : Crates) (ids : OrderedSet FactId) : Bytes 32 :=
  K.sha256 (utf8 "BlindOverlap:SetRoot:v1" ++ leBytes 8 ids.size ++
    ids.toList.flatMap Bytes.toList)

namespace FactSet

def empty (K : Crates) : FactSet := ⟨OrderedSet.empty, computeSetRoot K OrderedSet.empty⟩

/-- Repeated identifiers count once. -/
def fromIds (K : Crates) (ids : List FactId) : FactSet :=
  let ids := OrderedSet.ofList ids
  ⟨ids, computeSetRoot K ids⟩

/-- The root is computed again with every insertion. -/
def insert (K : Crates) (s : FactSet) (id : FactId) : FactSet :=
  let ids := s.ids.insert id
  ⟨ids, computeSetRoot K ids⟩

def len (s : FactSet) : ℕ := s.ids.size

def contains (s : FactSet) (id : FactId) : Bool := decide (id ∈ s.ids)

/-- The identifiers in ascending order. -/
def idList (s : FactSet) : List FactId := s.ids.toList

/-- A set made from identifiers is made from its own list of them. -/
@[simp] theorem fromIds_idList (K : Crates) (ids : List FactId) :
    fromIds K (fromIds K ids).idList = fromIds K ids := by
  simp [fromIds, idList]

end FactSet

end BlindOverlap
