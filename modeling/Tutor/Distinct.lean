namespace Tutor

/-!
# Ordered unions

* `addOne` adds an item to a list unless it is there;
* `addUnique` joins two lists and keeps the first occurrence of each item.
-/

variable {α : Type} [BEq α]

/-- Add an item at the end unless it is there. -/
def addOne (items : List α) (item : α) : List α :=
  if items.contains item then items else items ++ [item]

/-- The items of two lists, each once, in the order of first occurrence. -/
def addUnique (lhs rhs : List α) : List α :=
  (lhs ++ rhs).foldl addOne []

end Tutor
