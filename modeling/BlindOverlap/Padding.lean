import BlindOverlap.Protocol

/-!
# Set-size padding

Lists are filled up to a target size with dummies, which a keyed hash derives from a
secret, a context and their number. They are appended, so that keeping the first
elements takes them off again.
-/
namespace BlindOverlap

def paddingDomain : List UInt8 := utf8 "BlindOverlap:Padding:v1"

/-- A target below the present size, or above a maximum; the second is given nowhere. -/
inductive PaddingError where
  | targetTooSmall (current target : ℕ)
  | targetTooLarge (target maximum : ℕ)
  deriving DecidableEq

/-- How large a list is to become, and the secret that its dummies are derived from. -/
structure PaddingConfig where
  targetSize : ℕ
  paddingSecret : List UInt8

/-- The outputs of the keyed hash under a label, from the first on. -/
def generateDummies (K : Crates) (label : String) (paddingSecret sessionContext : List UInt8)
    (count : ℕ) : List (Bytes 32) :=
  (List.range count).map (fun i =>
    K.hmacSha256 paddingSecret (paddingDomain ++ utf8 label ++ sessionContext ++ leBytes 8 i))

/-- Dummies for identifiers and for masked elements differ by a label. -/
def generateDummyFactIds (K : Crates) (paddingSecret sessionContext : List UInt8) (count : ℕ) :
    List FactId :=
  generateDummies K ":dummy_ids:" paddingSecret sessionContext count

def generateDummyMaskedElements (K : Crates) (paddingSecret sessionContext : List UInt8)
    (count : ℕ) : List MaskedElement :=
  generateDummies K ":masked_elements:" paddingSecret sessionContext count

/-- Appends as many dummies as are missing from the target. -/
def padWith {α : Type} (dummies : ℕ → List α) (elements : List α) (targetSize : ℕ) :
    Except PaddingError (List α) :=
  if elements.length > targetSize then .error (.targetTooSmall elements.length targetSize)
  else .ok (elements ++ dummies (targetSize - elements.length))

/-- Padding before masking. -/
def padFactIds (K : Crates) (factIds : List FactId) (config : PaddingConfig)
    (sessionContext : List UInt8) : Except PaddingError (List FactId) :=
  padWith (generateDummyFactIds K config.paddingSecret sessionContext) factIds config.targetSize

/-- Padding after masking, which is what the commands do. -/
def padMaskedElements (K : Crates) (elements : List MaskedElement) (config : PaddingConfig)
    (sessionContext : List UInt8) : Except PaddingError (List MaskedElement) :=
  padWith (generateDummyMaskedElements K config.paddingSecret sessionContext) elements
    config.targetSize

/-- The number of real elements has to be known. -/
def stripPadding {α : Type} (padded : List α) (originalCount : ℕ) : List α :=
  padded.take originalCount

section Pad
variable {α : Type} {dummies : ℕ → List α} {elements padded : List α} {targetSize : ℕ}

/-- A list within the target is kept in front of the dummies. -/
theorem padWith_eq_ok_iff :
    padWith dummies elements targetSize = .ok padded ↔
      elements.length ≤ targetSize ∧
        padded = elements ++ dummies (targetSize - elements.length) := by
  unfold padWith
  split_ifs with h
  · simp [not_le.mpr h]
  · simp [not_lt.mp h, eq_comm]

/-- A padded list has the target size, and its own elements in front. -/
theorem length_padWith (hcount : ∀ n, (dummies n).length = n)
    (h : padWith dummies elements targetSize = .ok padded) : padded.length = targetSize := by
  obtain ⟨hle, rfl⟩ := padWith_eq_ok_iff.mp h
  rw [List.length_append, hcount]
  omega

theorem stripPadding_padWith (h : padWith dummies elements targetSize = .ok padded) :
    stripPadding padded elements.length = elements := by
  obtain ⟨-, rfl⟩ := padWith_eq_ok_iff.mp h
  exact List.take_left' rfl

end Pad

@[simp] theorem length_generateDummies (K : Crates) (label : String)
    (paddingSecret sessionContext : List UInt8) (count : ℕ) :
    (generateDummies K label paddingSecret sessionContext count).length = count := by
  simp [generateDummies]

theorem padMaskedElements_of_le {K : Crates} {elements : List MaskedElement}
    {config : PaddingConfig} (h : elements.length ≤ config.targetSize)
    (sessionContext : List UInt8) :
    padMaskedElements K elements config sessionContext =
      .ok (elements ++ generateDummyMaskedElements K config.paddingSecret sessionContext
        (config.targetSize - elements.length)) :=
  padWith_eq_ok_iff.mpr ⟨h, rfl⟩

/-- Padding hides the size of a list of masked elements, and can be taken off. -/
theorem padMaskedElements_spec {K : Crates} {elements padded : List MaskedElement}
    {config : PaddingConfig} {sessionContext : List UInt8}
    (h : padMaskedElements K elements config sessionContext = .ok padded) :
    padded.length = config.targetSize ∧ stripPadding padded elements.length = elements :=
  ⟨length_padWith (length_generateDummies K ":masked_elements:" config.paddingSecret sessionContext)
    h, stripPadding_padWith h⟩

end BlindOverlap
