import Lexicon.Kind.Basic

/-!
# Intervals of kinds

A closed interval is given by its two ends, which may be any kinds: when the first end sorts after
the last the interval holds nothing. Codes in a gap belong to no kind, so an interval that spans a
gap still lists kinds only.
-/

namespace Lexicon

/-- The kinds from `first` to `last`, both included. -/
structure Interval where
  first : Kind
  last : Kind
  deriving DecidableEq

namespace Interval

instance : Membership Kind Interval :=
  ⟨fun interval kind => interval.first ≤ kind ∧ kind ≤ interval.last⟩

instance (kind : Kind) (interval : Interval) : Decidable (kind ∈ interval) :=
  inferInstanceAs (Decidable (interval.first ≤ kind ∧ kind ≤ interval.last))

@[grind =] theorem mem_def {kind : Kind} {interval : Interval} :
    kind ∈ interval ↔ interval.first ≤ kind ∧ kind ≤ interval.last := Iff.rfl

/-- Each interval starts no later than the other ends. -/
def Overlaps (a b : Interval) : Prop := a.first ≤ b.last ∧ b.first ≤ a.last

instance (a b : Interval) : Decidable (a.Overlaps b) :=
  inferInstanceAs (Decidable (a.first ≤ b.last ∧ b.first ≤ a.last))

/-- The members in ascending order. -/
def kinds (interval : Interval) : List Kind :=
  (Kind.all.dropWhile (· < interval.first)).takeWhile (· ≤ interval.last)

/-- Number of members. -/
def size (interval : Interval) : Nat := interval.kinds.length

def isEmpty (interval : Interval) : Bool := interval.size == 0

end Interval

end Lexicon
