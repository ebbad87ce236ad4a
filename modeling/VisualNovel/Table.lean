/-!
# Tables in insertion order

A map whose order can be seen: it lists its entries in the order in which their keys first came.
Putting a key that is already there keeps its place and changes its value.
-/

namespace VisualNovel

/-- Keys and values in the order in which the keys first came. -/
abbrev Table (κ α : Type) := List (κ × α)

namespace Table

variable {κ α β : Type} [BEq κ]

/-- The value of a key. -/
def get? (key : κ) : Table κ α → Option α
  | [] => none
  | (k, v) :: rest => if k == key then some v else get? key rest

/-- Whether the key has a value. -/
def has (key : κ) (t : Table κ α) : Bool :=
  (get? key t).isSome

/-- Gives the key a value: in its place if it has one, else at the end. -/
def put (key : κ) (value : α) : Table κ α → Table κ α
  | [] => [(key, value)]
  | (k, v) :: rest => if k == key then (k, value) :: rest else (k, v) :: put key value rest

/-- The table without the key. -/
def erase (key : κ) (t : Table κ α) : Table κ α :=
  t.filter fun e => !(e.1 == key)

/-- The first table with all entries of the second put into it, one after the other. -/
def merge (t u : Table κ α) : Table κ α :=
  u.foldl (fun acc e => put e.1 e.2 acc) t

/-- A table of the entries, in which a repeated key keeps its first place and its last value. -/
def ofEntries (entries : List (κ × α)) : Table κ α :=
  merge [] entries

/-- The keys in order. -/
def keys (t : Table κ α) : List κ :=
  t.map (·.1)

/-- The values in order. -/
def values (t : Table κ α) : List α :=
  t.map (·.2)

/-- Changes every value. -/
def mapValues (f : α → β) (t : Table κ α) : Table κ β :=
  t.map fun e => (e.1, f e.2)

/-- Changes the value of a key, if it has one. -/
def modify (key : κ) (f : α → α) (t : Table κ α) : Table κ α :=
  t.map fun e => if e.1 == key then (e.1, f e.2) else e

end Table

end VisualNovel
