import TagText.Formatter
import TagText.Text.Casing

/-!
# Settings

A configuration is a tree of settings, put together from documents and single overrides. The
names in it do not tell letter cases apart. A table that is put over a table is merged with it
name by name; anything else takes the place of what was there.
-/

namespace TagText

/-- A setting. A place that was made only to hold a later one is `unset`. -/
inductive Setting where
  | unset
  | bool (b : Bool)
  | int (n : Int)
  | float (x : Float)
  | string (s : String)
  | array (items : List Setting)
  | table (entries : List (String × Setting))

/-- One step on the way to a setting: to the entry of a table or the item of an array, where a
negative number counts from the end. -/
inductive KeyStep where
  | name (name : String)
  | item (index : Int)

namespace Setting

/-- A name in the letter case in which names are kept. -/
def foldName (name : String) : String := String.ofList (Casing.lower name.toList)

/-- The entries of a table, and of anything else none. -/
def entries : Setting → List (String × Setting)
  | .table entries => entries
  | _ => []

/-- The items of an array, and of anything else none. -/
def items : Setting → List Setting
  | .array items => items
  | _ => []

mutual

/-- The setting as a table with `value` put under `name`. -/
def put (root : Setting) (name : String) : Setting → Setting
  | .table incoming =>
    let name := foldName name
    let target := (Named.get? root.entries name).getD (.table [])
    .table (Named.put root.entries name (merge target incoming))
  | value => .table (Named.put root.entries (foldName name) value)

/-- The setting with all of these entries put into it. -/
def merge (root : Setting) : List (String × Setting) → Setting
  | [] => root
  | (name, value) :: rest => merge (put root name value) rest

end

/-- The place of an item in an array of `size` items. -/
def place (size : Nat) (index : Int) : Nat :=
  if index < 0 then size - index.natAbs else index.toNat

/-- The array with another item at a place, made long enough to have it. -/
def setItem (items : List Setting) (i : Nat) (value : Setting) : List Setting :=
  (items ++ List.replicate (i + 1 - items.length) Setting.unset).set i value

/-- The setting with the one at the end of the steps changed. What is no table or no array, where
a step needs one, gives way to an empty one. -/
def modify (change : Setting → Setting) (root : Setting) : List KeyStep → Setting
  | [] => change root
  | .name name :: steps =>
    let name := foldName name
    let inner := (Named.get? root.entries name).getD .unset
    .table (Named.put root.entries name (modify change inner steps))
  | .item index :: steps =>
    let i := place root.items.length index
    let inner := (root.items[i]?).getD .unset
    .array (setItem root.items i (modify change inner steps))

/-- The setting with `value` put at the end of the steps. -/
def putAt (root : Setting) (value : Setting) (steps : List KeyStep) : Setting :=
  match steps.getLast? with
  | none => root
  | some (.name name) => modify (fun parent => parent.put name value) root steps.dropLast
  | some (.item _) => modify (fun _ => value) root steps

/-- The text of a setting, if it has one: scalars do. -/
def text? : Setting → Option String
  | .string s => some s
  | .bool b => some (if b then "true" else "false")
  | .int n => some (toString n)
  | .float x => some (Formatter.float x)
  | .unset | .array _ | .table _ => none

/-- The truth of a setting, if it has one: numbers are true unless they are zero, and some words
in any letter case are true or false. -/
def truth? : Setting → Option Bool
  | .bool b => some b
  | .int n => some (n != 0)
  | .float x => some (x != 0)
  | .string s =>
    let word := foldName s
    if word ∈ ["1", "true", "on", "yes"] then some true
    else if word ∈ ["0", "false", "off", "no"] then some false
    else none
  | .unset | .array _ | .table _ => none

end Setting

end TagText
