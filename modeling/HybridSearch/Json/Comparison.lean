import HybridSearch.Amount
import HybridSearch.Json

/-! How values are compared. Numbers and truth values are compared by their amounts, texts by their
code points, and lists by the first items that differ. Other values are equal or not, and none of
them comes before another one. -/

namespace HybridSearch.Json

/-- The amount that a value stands for. The truth values stand for one and zero. -/
def amount? : Json → Option Amount
  | .bool value => some (.integer (if value then 1 else 0))
  | .integer value => some (.integer value)
  | .float value => some (.float value)
  | _ => none

/-- Whether two values stand for one amount. -/
def sameAmount (left right : Json) : Bool :=
  match left.amount?, right.amount? with
  | some left, some right => left.same right
  | _, _ => false

mutual
def same : Json → Json → Bool
  | .null, .null => true
  | .string left, .string right => left = right
  | .array left, .array right => itemsSame left right
  | .object left, .object right => left.length = right.length && membersSame left right
  | left, right => left.sameAmount right

def itemsSame : List Json → List Json → Bool
  | [], [] => true
  | left :: lefts, right :: rights => left.same right && itemsSame lefts rights
  | _, _ => false

def membersSame : List (String × Json) → List (String × Json) → Bool
  | [], _ => true
  | (key, left) :: lefts, rights =>
      (match rights.lookup key with
        | some right => left.same right
        | none => false) && membersSame lefts rights
end

/-- What may be asked of two values in an order. -/
inductive Order where
  | less
  | atMost
deriving Repr, DecidableEq

namespace Order

def symbol : Order → String
  | less => "<"
  | atMost => "<="

def ofAmounts : Order → Amount → Amount → Bool
  | less => Amount.less
  | atMost => Amount.atMost

def ofTexts : Order → String → String → Bool
  | less, left, right => left < right
  | atMost, left, right => !decide (right < left)

end Order

/-- Two kinds of values that have no order, and what was asked of them. -/
structure Incomparable where
  order : Order
  left : String
  right : String
deriving Repr, DecidableEq

def Incomparable.message (refused : Incomparable) : String :=
  "'" ++ refused.order.symbol ++ "' not supported between instances of '" ++ refused.left ++
    "' and '" ++ refused.right ++ "'"

/-- Whether two values that are not both lists stand in an order. -/
def stand (order : Order) (left right : Json) : Except Incomparable Bool :=
  match left, right with
  | .string left, .string right => .ok (order.ofTexts left right)
  | left, right =>
      match left.amount?, right.amount? with
      | some left, some right => .ok (order.ofAmounts left right)
      | _, _ => .error ⟨order, left.kindName, right.kindName⟩

mutual
def precedes (order : Order) : Json → Json → Except Incomparable Bool
  | .array left, .array right => itemsPrecede order left right
  | left, right => left.stand order right

def itemsPrecede (order : Order) : List Json → List Json → Except Incomparable Bool
  | left :: lefts, right :: rights =>
      if left.same right then itemsPrecede order lefts rights else left.precedes order right
  | [], rights => .ok (order = .atMost || !rights.isEmpty)
  | _ :: _, [] => .ok false
end

end HybridSearch.Json
