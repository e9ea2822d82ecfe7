import HybridSearch.Predicate
import HybridSearch.Tags
import HybridSearch.Text.Lowercase

/-! When a predicate holds. A predicate on an empty slot is neither true nor false; a clause is true
when one of its predicates is, and false when all of them are. -/

namespace HybridSearch

/-- A truth value that may be unknown. -/
abbrev Truth := Option Bool

namespace Truth

def or : Truth → Truth → Truth
  | some true, _ => some true
  | _, some true => some true
  | some false, some false => some false
  | _, _ => none

def any (truths : List Truth) : Truth :=
  truths.foldr or (some false)

/-- Only what is known to be true is taken. -/
def isTrue (truth : Truth) : Bool :=
  truth = some true

end Truth

/-- How two values compare. -/
structure ValueOrder (α : Type) where
  equal : α → α → Bool
  less : α → α → Bool
  atMost : α → α → Bool

namespace ValueOrder

/-- Numbers compare as binary numbers, so that the two zeros are equal. -/
def ofNumbers : ValueOrder Float where
  equal left right := left == right
  less left right := left < right
  atMost left right := left ≤ right

/-- Dates compare by the calendar. -/
def ofDates : ValueOrder Date where
  equal left right := left = right
  less left right := left.rank < right.rank
  atMost left right := left.rank ≤ right.rank

end ValueOrder

namespace Range

variable {α : Type}

def holds (order : ValueOrder α) (value : α) : Range α → Bool
  | compare .equal bound => order.equal value bound
  | compare .notEqual bound => !order.equal value bound
  | compare .greater bound => order.less bound value
  | compare .greaterOrEqual bound => order.atMost bound value
  | compare .less bound => order.less value bound
  | compare .lessOrEqual bound => order.atMost value bound
  | between lower upper => order.atMost lower value && order.atMost value upper

end Range

namespace Predicate

/-- Whether a predicate holds of some tags, where timestamps lie on days in some way. The store knows
the case of ASCII letters only. -/
def holds (dayOf? : Timestamp → Option Date) (tags : Tags) : Predicate → Truth
  | textEqual position negated value =>
      (tags.texts.get position).map fun stored =>
        (Text.lowercaseAscii stored = value : Bool) ^^ negated
  | textLike position negated pattern =>
      (tags.texts.get position).map fun stored =>
        Pattern.like (Text.lowercaseAscii stored).toList pattern ^^ negated
  | number position range =>
      (tags.numbers.get position).map fun stored => range.holds .ofNumbers stored
  | date position range =>
      ((tags.dates.get position).bind dayOf?).map fun stored => range.holds .ofDates stored
  | boolean position negated value =>
      (tags.booleans.get position).map fun stored => (stored = value : Bool) ^^ negated

end Predicate

namespace Clause

def holds (dayOf? : Timestamp → Option Date) (tags : Tags) (clause : Clause) : Truth :=
  Truth.any (clause.members.map (Predicate.holds dayOf? tags))

end Clause

end HybridSearch
