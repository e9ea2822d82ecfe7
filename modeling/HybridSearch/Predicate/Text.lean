import HybridSearch.Number.Text
import HybridSearch.Predicate

/-! The text of predicates in a query. Texts stand in single quotes, where a quote is doubled, and
so is a percent sign, which would otherwise begin a parameter. -/

namespace HybridSearch.Query

def textLiteral (characters : List Char) : List Char :=
  '\'' :: characters.flatMap (fun character =>
    if character = '\'' ∨ character = '%' then [character, character] else [character]) ++ ['\'']

def numberLiteral (number : Float) : List Char :=
  (Number.text number).toList

def dateLiteral (date : Date) : List Char :=
  textLiteral date.text

def booleanLiteral (value : Bool) : List Char :=
  if value then "true".toList else "false".toList

def column (slot : Slot) : List Char :=
  "embeddings.".toList ++ slot.name.toList

def sign : Comparison → String
  | .equal => "="
  | .notEqual => "!="
  | .greater => ">"
  | .greaterOrEqual => ">="
  | .less => "<"
  | .lessOrEqual => "<="

def binary (left : List Char) (operator : String) (right : List Char) : List Char :=
  left ++ ' ' :: operator.toList ++ ' ' :: right

def rangeText {α : Type} (operand : List Char) (literal : α → List Char) :
    Range α → List Char
  | .compare comparison bound => binary operand (sign comparison) (literal bound)
  | .between lower upper =>
      binary operand "BETWEEN" (binary (literal lower) "AND" (literal upper))

def equalitySign (negated : Bool) : String :=
  if negated then "!=" else "="

/-- A pattern, joined of its parts, with its escape character. -/
def patternText (pattern : Pattern) : List Char :=
  let anyRun := textLiteral ['%']
  let before := if pattern.anyBefore then anyRun ++ " || ".toList else []
  let after := if pattern.anyAfter then " || ".toList ++ anyRun else []
  before ++ textLiteral pattern.body ++ after ++ " ESCAPE ".toList ++ textLiteral [Pattern.escape]

end HybridSearch.Query

namespace HybridSearch.Predicate

open HybridSearch.Query

/-- A text column in the lower case of the store. -/
def lowered (position : Fin 7) : List Char :=
  "lower(".toList ++ column (.text position) ++ [')']

def text : Predicate → List Char
  | textEqual position negated value =>
      binary (lowered position) (equalitySign negated) (textLiteral value.toList)
  | textLike position negated pattern =>
      binary (lowered position) (if negated then "NOT LIKE" else "LIKE") (patternText pattern)
  | number position range => rangeText (column (.number position)) numberLiteral range
  | date position range =>
      rangeText ("CAST(".toList ++ column (.date position) ++ " AS DATE)".toList) dateLiteral range
  | boolean position negated value =>
      binary (column (.boolean position)) (equalitySign negated) (booleanLiteral value)

/-- The text of a predicate beside others: one with a pattern stands in parentheses. -/
def memberText (predicate : Predicate) : List Char :=
  match predicate with
  | textLike _ _ _ => '(' :: predicate.text ++ [')']
  | _ => predicate.text

end HybridSearch.Predicate

namespace HybridSearch.Clause

def joined (word : String) : List (List Char) → List Char
  | [] => []
  | [single] => single
  | first :: rest => first ++ word.toList ++ joined word rest

/-- The text of a clause on its own. -/
def text (clause : Clause) : List Char :=
  match clause.others with
  | [] => clause.first.text
  | _ => joined " OR " (clause.members.map Predicate.memberText)

/-- The text of a clause beside others. -/
def memberText (clause : Clause) : List Char :=
  match clause.others with
  | [] => clause.first.memberText
  | _ => '(' :: clause.text ++ [')']

end HybridSearch.Clause
