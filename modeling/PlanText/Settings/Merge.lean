import PlanText.Settings.KeyPath
import PlanText.Settings.Tree
import PlanText.Text.Lower

/-!
Setting a value at a path. A table is merged key by key into what is there, any other value
takes its place. What stands in the way of a path gives way to a table or an array. Names
count in lower case, and an array grows up to the position that is set, at its end or, for a
position that counts from the end, at its start.
-/

namespace PlanText.Setting

def lowerName (name : String) : String := String.ofList (Text.lower name.toList)

mutual

/-- Sets a field. What is no table gives way to a new one. -/
def setField (root : Setting) (key : String) : Setting → Setting
  | leaf origin value => root.asTable.put (lowerName key) (leaf origin value)
  | array origin items => root.asTable.put (lowerName key) (array origin items)
  | table _ fields =>
    let there := (root.asTable.field? (lowerName key)).getD (table none [])
    root.asTable.put (lowerName key) (setFields there fields)

def setFields (target : Setting) : List (String × Setting) → Setting
  | [] => target
  | (key, value) :: rest => setFields (setField target key value) rest

end

/-- The items with as many more as it takes to reach a position, and the place of the
position among them. -/
def reach (position : Int) (items : List Setting) : List Setting × Nat :=
  if 0 ≤ position then
    let place := position.toNat
    (items ++ List.replicate (place + 1 - items.length) nothing, place)
  else
    let back := position.natAbs
    (List.replicate (back - items.length) nothing ++ items, items.length - back)

/-- Changes the item at a position. -/
def changeItem (position : Int) (act : Setting → Setting) : Setting → Setting
  | array origin items =>
    let (items, place) := reach position items
    array origin (items.modify place act)
  | other => other

/-- Sets a value at the end of some steps. -/
def setAt (value : Setting) : List KeyStep → Setting → Setting
  | [], _ => value
  | [.child key], root => setField root key value
  | .child key :: rest, root =>
    let there := (root.asTable.field? (lowerName key)).getD nothing
    root.asTable.put (lowerName key) (setAt value rest there)
  | .index position :: rest, root => root.asArray.changeItem position (setAt value rest)

/-- Sets a value at the path that a key writes, or under the key itself if it writes none. -/
def setKey (root : Setting) (key : String) (value : Setting) : Setting :=
  match KeyPath.parse key with
  | .ok path => setAt value path.steps root
  | .error _ => setField root key value

end PlanText.Setting
