import VisualNovel.Action
import VisualNovel.Value.Key
import VisualNovel.Value.Number

/-!
# Calls by name

The parts of a session can be worked from afar, by someone who has nothing but values: every call
goes by a name, its arguments are values of any kind, and so is what it gives back. An argument of
the wrong kind is a mishap of the call that meets it, and leaves the part as far as the call came.
-/

namespace VisualNovel.Remote

/-- A call: its name and its arguments. -/
structure Call where
  name : String
  args : List Value := []
  deriving Inhabited

namespace Call

/-- The call that a row gives: its name, and behind it its arguments. -/
def ofRow (row : Value) : Call :=
  match row with
  | .list (name :: args) => { name := name.shown, args }
  | row => { name := row.shown }

/-- An argument, or the value that stands for it when it is left out. -/
def argOr (c : Call) (place : Nat) (other : Value) : Value :=
  c.args.getD place other

/-- An argument, or nothing. -/
def arg (c : Call) (place : Nat) : Value :=
  c.argOr place .null

end Call

variable {σ : Type}

/-- A value given back by what cannot fail. -/
def give (v : Value) : Action σ Value :=
  pure v

/-- Does something that gives nothing back. -/
def quietly (act : Action σ Unit) : Action σ Value := do
  act
  return .null

/-- Puts a state in place of the one that was there. -/
def become (s : σ) : Action σ Value :=
  quietly (set s)

/-- Gives back a value that may be missed by a mishap. -/
def tell (r : Except Mishap Value) : Action σ Value :=
  Action.ofMishap r

end VisualNovel.Remote
