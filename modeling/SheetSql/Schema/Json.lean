import SheetSql.Number.Decimal

namespace SheetSql

/-! JSON values, in which fields and arguments are described. -/

inductive Json where
  | null
  | bool (value : Bool)
  | number (value : Decimal)
  | text (content : String)
  | array (items : List Json)
  | object (members : List (String × Json))
  deriving Inhabited

namespace Json

def ofText? : Option String → Json
  | some s => .text s
  | none => .null

class Codec (α : Type) where
  read? : Json → Option α
  write : α → Json

export Codec (read? write)

instance : Codec Bool where
  read?
    | .bool value => some value
    | _ => none
  write := .bool

instance : Codec String where
  read?
    | .text content => some content
    | _ => none
  write := .text

instance [Codec α] : Codec (Option α) where
  read?
    | .null => some none
    | json => (read? json).map some
  write
    | none => .null
    | some value => write value

instance [Codec α] : Codec (List α) where
  read?
    | .array items => items.mapM read?
    | _ => none
  write items := .array (items.map write)

/-! A record is an object, whose unknown members are passed over, or the list of its members. -/

def member? (json : Json) (position : Nat) (key : String) : Option Json :=
  match json with
  | .object members => members.lookup key
  | .array items => items[position]?
  | _ => none

def isRecord (size : Nat) : Json → Bool
  | .object _ => true
  | .array items => items.length ≤ size
  | _ => false

def required [Codec α] (json : Json) (position : Nat) (key : String) : Option α :=
  (json.member? position key).bind read?

def defaulted [Codec α] (default : α) (json : Json) (position : Nat) (key : String) :
    Option α :=
  match json.member? position key with
  | none => some default
  | some value => read? value

/--
A name out of a list of alternatives: the name itself, or an object with the name as its only
key and nothing under it.
-/
def choice? (names : List (String × α)) : Json → Option α
  | .text name => names.lookup name
  | .object [(name, .null)] => names.lookup name
  | _ => none

end Json

end SheetSql
