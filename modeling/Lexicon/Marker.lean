/-!
# Markers

Identifiers that are special in one position: the mark of an implicitly typed local and the mark of
an unmanaged constraint. They have no kind of their own.
-/

namespace Lexicon

inductive Marker where
  /-- The type of a local is left to its initial value. -/
  | implicitType
  /-- A type parameter stands for an unmanaged type. -/
  | unmanaged
  deriving DecidableEq

namespace Marker

/-- The spellings of a marker, the canonical one first. -/
def spellings : Marker → List String
  | implicitType => ["var", "变"]
  | unmanaged => ["unmanaged"]

/-- The spelling that is printed. -/
def canonical : Marker → String
  | implicitType => "var"
  | unmanaged => "unmanaged"

/-- The spelling belongs to the marker. -/
def IsSpelledBy (marker : Marker) (spelling : String) : Prop := spelling ∈ marker.spellings

instance (marker : Marker) (spelling : String) : Decidable (marker.IsSpelledBy spelling) :=
  inferInstanceAs (Decidable (spelling ∈ marker.spellings))

/-- The canonical spelling is the first one. -/
theorem head?_spellings (marker : Marker) : marker.spellings.head? = some marker.canonical := by
  cases marker <;> rfl

end Marker

end Lexicon
