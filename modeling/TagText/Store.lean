import TagText.Value.Inspect
import TagText.Value.Path

/-!
# Stores of values

A store holds the values that tags name. It may be bound to an object, which then answers for
every path whose first key was never added; a key that was added hides the object entirely.
-/

namespace TagText

/-- Values under keys, and the object behind them if there is one. -/
structure Store where
  bound : Option (ObjectFace Value)
  entries : Entries

namespace Store

/-- A store of nothing but values. -/
def ofEntries (entries : Entries) : Store := ⟨none, entries⟩

/-- A store that has values for no key yet and falls back on an object. -/
def ofObject (object : ObjectFace Value) : Store := ⟨some object, []⟩

instance : EmptyCollection Store := ⟨ofEntries []⟩

/-- The store with more values, each over an earlier one of its key. -/
def add (s : Store) (values : Entries) : Store :=
  { s with entries := Named.extend s.entries values }

/-- The value at the end of a path. -/
def get (objects : Objects) (s : Store) (path : List String) : Except ValueError Value :=
  match path with
  | [] => .error .emptyPath
  | key :: keys =>
    match Named.get? s.entries key with
    | some v => v.descend objects key keys
    | none =>
      match s.bound with
      | none => .error (.blocked .undefinedKey key)
      | some object => (Value.object object).resolve objects path

/-- Whether a path leads to a value. A failure that does not mean absence is an error. -/
def has (objects : Objects) (s : Store) (path : List String) : Except ValueError Bool :=
  match s.get objects path with
  | .ok _ => .ok true
  | .error e => if e.isAbsence then .ok false else .error e

/-- A store as shown to a developer. -/
def inspect (s : Store) : String :=
  let values := braced "ValueBag" [("values", Entries.inspect s.entries)]
  match s.bound with
  | none => values
  | some object =>
    braced "ObjectValueBag" [("values", values), ("object", quoted object.typeName)]

end Store

end TagText
