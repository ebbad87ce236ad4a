import VisualNovel.Value.Key
import VisualNovel.Value.Number

/-!
# Equal values

Two relations. Values are *equal* when they have the same meaning: numbers by their size whatever
their kind, records whatever the order of their keys; a number that is no number equals nothing.
Values are *the same* when a copy could not be told apart: a number that is no number is the same as
its copies. Inside of lists and records it is always the second that counts.
-/

namespace VisualNovel.Value

/-- Whether two numbers have the same size. -/
def sameSize (a b : Value) : Bool :=
  match a.numeric?, b.numeric? with
  | some x, some y => compareNumeric x y == some .eq
  | _, _ => false

mutual

/-- Whether two values cannot be told apart. -/
def same : Value → Value → Bool
  | null, null => true
  | nan o, nan p => decide (o = p)
  | text s, text t => s == t
  | flag s, flag t => s == t
  | bytes xs, bytes ys => xs == ys
  | moment m, moment n => decide (m = n)
  | uid m, uid n => m == n
  | list xs, list ys => sameItems xs ys
  | record fs, record gs => fs.length == gs.length && sameFields fs gs
  | a, b => sameSize a b

/-- Whether two rows of values cannot be told apart. -/
def sameItems : List Value → List Value → Bool
  | [], [] => true
  | x :: xs, y :: ys => same x y && sameItems xs ys
  | _, _ => false

/-- Whether each field of the first is there in the second. -/
def sameFields : List (Value × Value) → List (Value × Value) → Bool
  | [], _ => true
  | (k, v) :: rest, gs =>
    (match Table.get? k gs with
      | some w => same v w
      | none => false) && sameFields rest gs

end

/-- Whether two values have the same meaning. -/
def equal (a b : Value) : Bool :=
  match a with
  | nan _ => false
  | a => same a b

end VisualNovel.Value
