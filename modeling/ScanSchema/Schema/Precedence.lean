/-!
# Orders that several groups agree on

Items come in groups, and the order inside a group says which item precedes which. When all groups
agree, the items can be put into one order; among several such orders the one is taken that stays
closest to the order of first appearance. Two groups may also contradict each other through a third.
-/

namespace ScanSchema

/-- Groups of items that were seen so far. -/
structure Precedence (α : Type) where
  /-- All items, in the order of their first appearance. -/
  items : List α := []
  /-- The neighbours in closed groups; the first one precedes the second. -/
  edges : List (α × α) := []
  /-- The items of the group that is still open. -/
  group : List α := []
  deriving DecidableEq, Repr

namespace Precedence

variable {α : Type} [DecidableEq α]

/-- Put an item behind the others, unless it is there already. -/
def pushNew (items : List α) (item : α) : List α :=
  if item ∈ items then items else items ++ [item]

/-- Add an item to the open group. An item that the group has already is ignored. -/
def add (precedence : Precedence α) (item : α) : Precedence α :=
  { precedence with
    items := pushNew precedence.items item
    group := pushNew precedence.group item }

/-- Close the open group. -/
def flush (precedence : Precedence α) : Precedence α :=
  { precedence with
    edges := precedence.edges ++ precedence.group.zip precedence.group.tail
    group := [] }

/-- Whether no item was added yet. -/
def isEmpty (precedence : Precedence α) : Bool := precedence.items.isEmpty

/-- Order the pending items along the edges among them: the first item that none of them precedes
comes first. There is no order if every pending item is preceded by another. -/
def arrange (pending : List α) (edges : List (α × α)) : Option (List α) :=
  if pending = [] then some []
  else
    match _hfirst : pending.find? fun item => edges.all fun edge => edge.2 ≠ item with
    | none => none
    | some first =>
      (arrange (pending.erase first) (edges.filter fun edge => edge.1 ≠ first)).map (first :: ·)
termination_by pending.length
decreasing_by
  have hmem := List.mem_of_find?_eq_some _hfirst
  have hpos := List.length_pos_of_mem hmem
  rw [List.length_erase_of_mem hmem]
  omega

/-- All items in an order that every closed group agrees with, if there is one. -/
def result (precedence : Precedence α) : Option (List α) :=
  arrange precedence.items precedence.edges

end Precedence

end ScanSchema
