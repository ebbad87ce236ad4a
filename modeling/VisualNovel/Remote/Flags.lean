import VisualNovel.Remote.Call
import VisualNovel.Remote.View
import VisualNovel.Session.Flags

/-!
# Flags from afar

A flag goes by the text of any value. The calls: `get`, `item`, `set`, `modify`, `contains`, `iter`,
`len`, `as_dict`, `replace`, `repr` and `bool`.
-/

namespace VisualNovel.Remote

/-- The flags of a record; nothing at all is no flags. -/
def flagsOf (initial : Value) : Except Mishap Flags := do
  Flags.ofFields (← (initial.orElse (.record [])).fields)

/-- Whether a flag of that very name was set. -/
def containsFlag (f : Flags) (name : Value) : Except Mishap Bool := do
  match ← name.asKey with
  | .text name => return Table.has name f.values
  | _ => return false

/-- A call of flags. -/
def callFlags (c : Call) : Action Flags Value := do
  let f ← get
  match c.name with
  | "get" | "item" => return .int (f.get (← Action.ofMishap (c.arg 0).display))
  | "set" =>
    let n ← Action.ofMishap (c.arg 1).toInt
    become (f.set (← Action.ofMishap (c.arg 0).display) n)
  | "modify" =>
    let name ← Action.ofMishap (c.arg 0).display
    let f := f.modify name (← Action.ofMishap (c.arg 1).toInt)
    set f
    return .int (f.get name)
  | "contains" => return .bool (← Action.ofMishap (containsFlag f (c.arg 0)))
  | "iter" => return .ofTexts (Table.keys f.values)
  | "len" => return .int f.values.length
  | "as_dict" => return pairs f.toValue
  | "replace" => become (← Action.ofMishap (do Flags.ofFields (← (c.arg 0).fields)))
  | "repr" => return .text (← Action.ofMishap f.summary)
  | "bool" => return .bool !f.values.isEmpty
  | _ => throw (.mishap .noMember)

end VisualNovel.Remote
