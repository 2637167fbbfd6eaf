import SheetSql.Schema.Field

namespace SheetSql

/-! The fields a formula can name. -/

structure Catalog where
  fields : List Field
  /-- Further columns, each with the id of the field it shows; the first entry counts. -/
  aliases : List (String × String)
  deriving DecidableEq, Repr, Inhabited

namespace Catalog

def ofFields (fields : List Field) : Catalog := ⟨fields, []⟩

def withAlias (catalog : Catalog) (column id : String) : Catalog :=
  { catalog with aliases := (column, id) :: catalog.aliases }

def append (catalog : Catalog) (field : Field) : Catalog :=
  { catalog with fields := catalog.fields ++ [field] }

def byId? (catalog : Catalog) (id : String) : Option Field :=
  catalog.fields.find? (·.id == id)

def byColumn? (catalog : Catalog) (column : String) : Option Field :=
  (catalog.fields.find? (·.column == column)).orElse fun _ =>
    (catalog.aliases.lookup column).bind catalog.byId?

end Catalog

def readAliases? : Json → Option (List (String × String))
  | .object members => members.mapM fun (column, id) => do return (column, ← Json.read? id)
  | _ => none

instance : Json.Codec Catalog where
  read? json := do
    guard (json.isRecord 2)
    let fields ← json.required 0 "fields"
    let aliases ←
      match json.member? 1 "aliases" with
      | none => some []
      | some members => readAliases? members
    return { fields, aliases }
  write catalog :=
    .object [("fields", Json.write catalog.fields),
      ("aliases", .object (catalog.aliases.map fun (column, id) => (column, .text id)))]

end SheetSql
