/-! Values under keys, in the order in which the keys first came. -/

namespace HybridSearch

structure Keyed (κ α : Type) where
  entries : List (κ × α)
deriving Repr, DecidableEq

namespace Keyed

variable {κ α : Type} [DecidableEq κ]

def empty : Keyed κ α :=
  ⟨[]⟩

def get? (keyed : Keyed κ α) (key : κ) : Option α :=
  (keyed.entries.find? fun entry => entry.1 = key).map Prod.snd

def keys (keyed : Keyed κ α) : List κ :=
  keyed.entries.map Prod.fst

/-- Changes the value under a key; a key that is new goes to the end, with the default changed. -/
def changeEntries (key : κ) (default : α) (change : α → α) :
    List (κ × α) → List (κ × α)
  | [] => [(key, change default)]
  | (other, value) :: rest =>
      if other = key then (other, change value) :: rest
      else (other, value) :: changeEntries key default change rest

/-- Changes the value under a key, which is the default until then. -/
def change (keyed : Keyed κ α) (key : κ) (default : α) (change : α → α) : Keyed κ α :=
  ⟨changeEntries key default change keyed.entries⟩

end Keyed

end HybridSearch
