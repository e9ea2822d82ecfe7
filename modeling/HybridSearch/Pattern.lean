/-! Patterns of the `LIKE` predicate. In a pattern `%` stands for any run of characters and `_` for
any single one; behind the escape character `/` every character stands for itself. -/

namespace HybridSearch

/-- A text to look for, already escaped, with or without room for other text around it. -/
structure Pattern where
  anyBefore : Bool
  body : List Char
  anyAfter : Bool
deriving DecidableEq, Repr

namespace Pattern

def escape : Char := '/'

/-- Puts the escape character before every character that has a meaning in patterns. -/
def escaped : List Char → List Char
  | [] => []
  | character :: rest =>
      if character = escape ∨ character = '%' ∨ character = '_' then
        escape :: character :: escaped rest
      else character :: escaped rest

def characters (pattern : Pattern) : List Char :=
  (if pattern.anyBefore then ['%'] else []) ++ pattern.body ++
    (if pattern.anyAfter then ['%'] else [])

/-- What a pattern asks for, piece by piece. -/
inductive Piece where
  | exactly (character : Char)
  | anyOne
  | anyRun
deriving DecidableEq, Repr

def pieces : List Char → List Piece
  | [] => []
  | [character] =>
      if character = '%' then [.anyRun]
      else if character = '_' then [.anyOne]
      else [.exactly character]
  | character :: next :: rest =>
      if character = escape then .exactly next :: pieces rest
      else if character = '%' then .anyRun :: pieces (next :: rest)
      else if character = '_' then .anyOne :: pieces (next :: rest)
      else .exactly character :: pieces (next :: rest)

/-- Whether some end of a text, the whole text and the empty one included, passes a test. -/
def someEnd (test : List Char → Bool) : List Char → Bool
  | [] => test []
  | character :: rest => test (character :: rest) || someEnd test rest

/-- Whether a text is what the pieces ask for. -/
def accepts : List Piece → List Char → Bool
  | [], characters => characters.isEmpty
  | .exactly expected :: pieces, character :: rest => expected = character && accepts pieces rest
  | .anyOne :: pieces, _ :: rest => accepts pieces rest
  | .exactly _ :: _, [] => false
  | .anyOne :: _, [] => false
  | .anyRun :: pieces, characters => someEnd (accepts pieces) characters

def like (text : List Char) (pattern : Pattern) : Bool :=
  accepts (pieces pattern.characters) text

end Pattern

end HybridSearch
