import SheetSql.Clock.ZoneTable
import SheetSql.Error
import SheetSql.Schema.Catalog

namespace SheetSql

/-! What the compilation of a formula needs to know besides the formula. -/

structure Job where
  catalog : Catalog
  zone : Zone
  tableAlias : Option String
  storage : Option Storage
  /-- The moment that counts as the present in a generated column. -/
  now : Instant
  deriving Repr, Inhabited

namespace Job

def ofCatalog (catalog : Catalog) (now : Instant) : Job :=
  { catalog, zone := .utc, tableAlias := none, storage := none, now }

def withZone (job : Job) (name : String) : Except Error Job :=
  match Zone.named? name with
  | some zone => .ok { job with zone }
  | none => .error (.unknownZone name)

def zoneOf (job : Job) (field : Option Field) : Zone :=
  ((field.bind (·.formatting)).bind (·.timeZone)).bind Zone.named? |>.getD job.zone

def offsetMinutes (job : Job) (zone : Zone) : Int :=
  zone.offsetMinutes job.now

def qualifier (job : Job) (target : Target) : Option String :=
  match target.placement with
  | .select => job.tableAlias
  | .generated => none

end Job

end SheetSql
