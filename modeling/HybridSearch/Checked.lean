import HybridSearch.Issue

/-! Checks that report every issue and not only the first. Two checks that do not depend on each
other are combined by `<*>`, which joins their issues in order; a check of a checked value is put
behind it by `andThen`. -/

namespace HybridSearch

inductive Checked (α : Type) where
  | accepted (value : α)
  | rejected (issues : List Issue)

namespace Checked

variable {α β : Type}

def map (transform : α → β) : Checked α → Checked β
  | accepted value => accepted (transform value)
  | rejected issues => rejected issues

/-- Applies a checked function to a checked value; the issues of both are kept. -/
def apply (function : Checked (α → β)) (value : Checked α) : Checked β :=
  match function, value with
  | accepted function, accepted value => accepted (function value)
  | accepted _, rejected issues => rejected issues
  | rejected issues, accepted _ => rejected issues
  | rejected issues, rejected more => rejected (issues ++ more)

instance : Applicative Checked where
  pure := accepted
  map := map
  seq function value := apply function (value ())

/-- Puts a check behind another one. -/
def andThen (outcome : Checked α) (next : α → Checked β) : Checked β :=
  match outcome with
  | accepted value => next value
  | rejected issues => rejected issues

/-- The outcome of a check of an inner value, seen from outside. -/
def under (step : PathStep) : Checked α → Checked α
  | accepted value => accepted value
  | rejected issues => rejected (issues.map (Issue.under step))

def value? : Checked α → Option α
  | accepted value => some value
  | rejected _ => none

def reject (kind : IssueKind) (input : Json) : Checked α :=
  rejected [⟨kind, [], input⟩]

end Checked

end HybridSearch
