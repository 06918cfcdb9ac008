import TagText.Named

/-!
# Values

What a template can name: scalars, lists, maps whose entries have an order, and objects. An object
is known to the outside by its `ObjectFace`; what its accessors and properties give when a path
goes through it is told by `Objects`, a function of the object, so that objects may lead to each
other and back.
-/

namespace TagText

/-- What an object shows of itself: which one it is, the name of its type, its form as a text if
it has one, and the properties it lists. -/
structure ObjectFace (α : Type) where
  id : Nat
  typeName : String
  display : Option String
  listed : List (String × α)

/-- A value. -/
inductive Value where
  | null
  | bool (b : Bool)
  | int (n : Int64)
  | float (x : Float)
  | string (s : String)
  | list (items : List Value)
  | map (entries : List (String × Value))
  | object (face : ObjectFace Value)

instance : Inhabited Value := ⟨.null⟩

/-- Whether 64 bits with a sign hold an integer. -/
def isInt64 (n : Int) : Bool := -0x8000000000000000 ≤ n && n < 0x8000000000000000

namespace Value

/-- Whether the value is null. -/
def isNull : Value → Bool
  | .null => true
  | _ => false

/-- The text of a string. -/
def string? : Value → Option String
  | .string s => some s
  | _ => none

/-- The name of the kind of value, for messages. -/
def typeName : Value → String
  | .null => "null"
  | .bool _ => "bool"
  | .int _ => "int"
  | .float _ => "float"
  | .string _ => "string"
  | .list _ => "list"
  | .map _ => "map"
  | .object face => face.typeName

/-- A value or, in its absence, null. -/
def ofOption : Option Value → Value
  | some v => v
  | none => .null

mutual

/-- Whether two values are equal. Numbers of different kinds are not, a NaN is equal to nothing,
the entries of maps may stand in any order, and objects are equal when they are the same one. -/
def beq : Value → Value → Bool
  | .null, .null => true
  | .bool a, .bool b => a == b
  | .int a, .int b => a == b
  | .float a, .float b => a == b
  | .string a, .string b => a == b
  | .list a, .list b => beqItems a b
  | .map a, .map b => a.length == b.length && beqEntries a b
  | .object a, .object b => a.id == b.id
  | _, _ => false

/-- Whether two lists are equal item by item. -/
def beqItems : List Value → List Value → Bool
  | [], [] => true
  | a :: as, b :: bs => beq a b && beqItems as bs
  | _, _ => false

/-- Whether every entry of the first map has an equal one in the second. -/
def beqEntries : List (String × Value) → List (String × Value) → Bool
  | [], _ => true
  | (name, a) :: as, bs =>
    match Named.get? bs name with
    | some b => beq a b && beqEntries as bs
    | none => false

end

instance : BEq Value := ⟨beq⟩

end Value

/-- Values under names. -/
abbrev Entries := Named Value

/-- What objects answer when a path goes through them: the accessor of a name, which an object may
lack and which may fail with a message, and the property of a name. -/
structure Objects where
  accessor : Nat → String → Option (Except String Value)
  property : Nat → String → Option Value

/-- An object given by its parts. -/
structure ObjectParts where
  typeName : String
  properties : Entries
  accessors : Named (Except String Value)
  display : Option String
  deriving Inhabited

namespace ObjectParts

/-- What the object shows, all its properties listed. -/
def face (o : ObjectParts) (id : Nat) : ObjectFace Value :=
  ⟨id, o.typeName, o.display, o.properties⟩

end ObjectParts

namespace Objects

/-- No object answers anything. -/
def none : Objects := ⟨fun _ _ => .none, fun _ _ => .none⟩

/-- Objects given by their parts, in the order of their numbers. -/
def ofParts (all : Array ObjectParts) : Objects where
  accessor id name := all[id]?.bind fun o => Named.get? o.accessors name
  property id name := all[id]?.bind fun o => Named.get? o.properties name

end Objects

end TagText
