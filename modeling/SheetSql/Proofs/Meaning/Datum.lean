import SheetSql.Proofs.Meaning.Eval
import SheetSql.Proofs.Moment.Calendar
import SheetSql.Schema.Json

namespace SheetSql

/-!
Values of all types, and what an engine does on the way to one. Casts and calls of functions are
what may fail, so they are noted; what is left open here counts as a failure.
-/

inductive Datum where
  | value (scalar : Value)
  /-- An array of texts, of which some may be missing. -/
  | texts (items : List (Option (List Char)))
  /-- A date, or a time of a date, on some clock. -/
  | stamp (stamp : Stamp)
  | span (span : Span)
  /-- The moment that a clock of a zone shows as a time. -/
  | moment (wall : Stamp) (zone : List Char)
  | json (json : Json)

namespace Datum

def ofText? : Option (List Char) → Datum
  | some cs => .value (.text cs)
  | none => .value .null

def isNull : Datum → Bool
  | .value scalar => decide (scalar = .null)
  | _ => false

def scalar? : Datum → Option Value
  | .value scalar => some scalar
  | _ => none

def int? : Datum → Option Int
  | .value scalar => scalar.int?
  | _ => none

end Datum

inductive Act where
  | cast (operand : Datum) (type : SqlType)
  | call (function : String) (args : List Datum)

/-- A computation that fails or has a result, with what it did on the way. -/
def Steps (α : Type) : Type := Option (α × List Act)

namespace Steps

variable {α β : Type}

def quiet (result : Option α) : Steps α := result.map fun a => (a, [])

def noted (act : Act) (result : Option α) : Steps α := result.map fun a => (a, [act])

instance : Monad Steps where
  pure a := quiet (some a)
  bind x f := Option.bind x fun first =>
    Option.map (fun second => (second.1, first.2 ++ second.2)) (f first.1)

def result? (x : Steps α) : Option α := Option.map Prod.fst x

def Gives (allowed : Act → Prop) (x : Steps α) (a : α) : Prop :=
  ∃ acts, x = some (a, acts) ∧ ∀ act ∈ acts, allowed act

def Does (x : Steps α) (act : Act) : Prop :=
  ∀ a acts, x = some (a, acts) → act ∈ acts

variable {allowed : Act → Prop} {x : Steps α} {f : α → Steps β} {a : α} {b : β} {act : Act}

theorem bind_eq_some (first : x = some (a, acts)) (next : f a = some (b, more)) :
    (x >>= f) = some (b, acts ++ more) := by
  change Option.bind x _ = _
  rw [first]
  change Option.map _ (f a) = _
  rw [next]
  rfl

theorem exists_of_bind (found : (x >>= f) = some (b, acts)) :
    ∃ a before after, x = some (a, before) ∧ f a = some (b, after) ∧ acts = before ++ after := by
  obtain ⟨⟨a, before⟩, first, found⟩ := Option.bind_eq_some_iff.1 found
  obtain ⟨⟨result, after⟩, second, same⟩ := Option.map_eq_some_iff.1 found
  cases same
  exact ⟨a, before, after, first, second, rfl⟩

namespace Gives

theorem quiet (found : result = some a) : (Steps.quiet result).Gives allowed a :=
  ⟨[], by rw [found]; rfl, by simp⟩

theorem noted (found : result = some a) (may : allowed act) :
    (Steps.noted act result).Gives allowed a :=
  ⟨[act], by rw [found]; rfl, by simpa using may⟩

theorem bind (first : x.Gives allowed a) (next : (f a).Gives allowed b) :
    (x >>= f).Gives allowed b := by
  obtain ⟨acts, first, before⟩ := first
  obtain ⟨more, next, after⟩ := next
  refine ⟨acts ++ more, bind_eq_some first next, ?_⟩
  intro act member
  rcases List.mem_append.1 member with member | member
  · exact before act member
  · exact after act member

theorem imp (gives : x.Gives allowed a) (implies : ∀ act, allowed act → weaker act) :
    x.Gives weaker a := by
  obtain ⟨acts, found, each⟩ := gives
  exact ⟨acts, found, fun act member => implies act (each act member)⟩

end Gives

theorem result?_eq_some : x.result? = some a ↔ x.Gives (fun _ => True) a := by
  constructor
  · intro found
    obtain ⟨pair, run, rfl⟩ := Option.map_eq_some_iff.1 found
    exact ⟨pair.2, run, fun _ _ => trivial⟩
  · intro gives
    obtain ⟨acts, run, -⟩ := gives
    rw [result?, run]
    rfl

namespace Does

theorem noted (result : Option α) : (Steps.noted act result).Does act := by
  intro a acts found
  obtain ⟨_, _, same⟩ := Option.map_eq_some_iff.1 found
  cases same
  exact List.mem_cons_self

theorem bind_left (does : x.Does act) : (x >>= f).Does act := by
  intro b acts found
  obtain ⟨a, before, after, first, next, rfl⟩ := exists_of_bind found
  exact List.mem_append_left after (does a before first)

theorem bind_right (gives : x.Gives allowed a) (does : (f a).Does act) : (x >>= f).Does act := by
  intro b acts found
  obtain ⟨a', before, after, first, next, rfl⟩ := exists_of_bind found
  obtain ⟨known, same, -⟩ := gives
  rw [same] at first
  cases first
  exact List.mem_append_right before (does b after next)

end Does

end Steps

/-- A row, and how its engine searches texts and reads JSON. -/
structure Engine extends Row where
  /-- What the groups of a regular expression capture in one of its matches. -/
  find : Regex → List Char → Option Captures
  find_matches : ∀ {r cs captures}, find r cs = some captures →
    r.Matches Chars.isSpace cs captures
  find_complete : ∀ {r cs captures}, r.Matches Chars.isSpace cs captures → (find r cs).isSome
  json? : List Char → Option Json

open Classical in
noncomputable def Engine.ofRow (row : Row) (json? : List Char → Option Json) : Engine where
  toRow := row
  find r cs :=
    if found : ∃ captures, r.Matches Chars.isSpace cs captures then some found.choose else none
  find_matches := by
    intro r cs captures same
    split at same
    · next found =>
        cases same
        exact found.choose_spec
    · cases same
  find_complete := by
    intro r cs captures found
    rw [dif_pos ⟨captures, found⟩]
    rfl
  json? := json?

/-- An integer from a value on Postgres, which reads only texts that are one from end to end. -/
def Value.castInteger : Value → Option Value
  | .null => some .null
  | .int n => some (.int n)
  | .text cs =>
    let digits := Chars.strip Chars.isSpace cs
    if digits ≠ [] ∧ Decimal.isDigits digits = true ∧ Decimal.natOf digits < 2147483648 then
      some (.int (Decimal.natOf digits))
    else none
  | _ => none

def Json.typeName : Json → String
  | .null => "null"
  | .bool _ => "boolean"
  | .number _ => "number"
  | .text _ => "string"
  | .array _ => "array"
  | .object _ => "object"

namespace Engine

def strict (args : List Datum) (result : Option Datum) : Option Datum :=
  if args.any Datum.isNull then some (.value .null) else result

def groupTexts (groups : Nat) (captures : Captures) : List (Option (List Char)) :=
  (List.range groups).map fun i => captures.at? (i + 1)

def regexpMatch (engine : Engine) : List Datum → Option Datum
  | [.value (.text cs), .value (.text pattern)] =>
    (Regex.ofText? (String.ofList pattern)).map fun regex =>
      match engine.find regex cs with
      | some captures => .texts (groupTexts regex.groups captures)
      | none => .value .null
  | _ => none

def stored (stamp : Stamp) : Option Datum :=
  if stamp.IsStored then some (.stamp stamp) else none

def makeDate : List Datum → Option Datum
  | [.value (.int year), .value (.int month), .value (.int day)] =>
    let date : Date := ⟨year, month.toNat, day.toNat⟩
    if 0 < year ∧ date.IsReal then stored ⟨date, 0⟩ else none
  | _ => none

def makeTimestamp : List Datum → Option Datum
  | [.value (.int year), .value (.int month), .value (.int day), .value (.int hour),
      .value (.int minute), .value scalar] =>
      let date : Date := ⟨year, month.toNat, day.toNat⟩
      scalar.number?.bind fun second =>
        if 0 < year ∧ date.IsReal ∧ 0 ≤ hour ∧ hour < 24 ∧ 0 ≤ minute ∧ minute < 60 ∧
            0 ≤ second ∧ second < 60 then
          stored ⟨date, hour * 3600 + minute * 60 + second⟩
        else none
  | _ => none

def makeInterval (args : List Datum) : Option Datum :=
  (args.mapM Datum.int?).map fun amounts => .span (.ofAmounts amounts)

def jsonbTypeof : List Datum → Option Datum
  | [.json json] => some (.value (.text json.typeName.toList))
  | _ => none

def jsonbBuildArray : List Datum → Option Datum
  | [.json json] => some (.json (.array [json]))
  | _ => none

def jsonOf (engine : Engine) (scalar : Value) : Option Json :=
  match scalar.castText engine.shown with
  | .text cs => engine.json? cs
  | _ => none

theorem ne_null_of_jsonOf {engine : Engine} (spelled : engine.jsonOf scalar = some json) :
    scalar ≠ .null := by
  intro null
  rw [null] at spelled
  cases spelled

def jsonValid (engine : Engine) : List Datum → Option Datum
  | [.value scalar] => some (.value (.ofBool .sqlite (engine.jsonOf scalar).isSome))
  | _ => none

def apply (engine : Engine) (function : String) (args : List Datum) : Option Datum :=
  if function = "regexp_match" then strict args (engine.regexpMatch args)
  else if function = "make_timestamp" then strict args (makeTimestamp args)
  else if function = "make_date" then strict args (makeDate args)
  else if function = "make_interval" then strict args (makeInterval args)
  else if function = "jsonb_typeof" then strict args (jsonbTypeof args)
  else if function = "jsonb_build_array" then jsonbBuildArray args
  else if function = "json_valid" then strict args (engine.jsonValid args)
  else ((args.mapM Datum.scalar?).bind (Value.apply function)).map .value

theorem mapM_scalar? (values : List Value) :
    (values.map Datum.value).mapM Datum.scalar? = some values := by
  induction values with
  | nil => rfl
  | cons v rest ih =>
    rw [List.map_cons, List.mapM_cons, ih]
    rfl

def ownFunctions : List String :=
  ["regexp_match", "make_timestamp", "make_date", "make_interval", "jsonb_typeof",
   "jsonb_build_array", "json_valid"]

theorem apply_scalars (engine : Engine) (other : function ∉ ownFunctions) (values : List Value) :
    engine.apply function (values.map .value) = (Value.apply function values).map .value := by
  simp only [ownFunctions, List.mem_cons, List.not_mem_nil, or_false, not_or] at other
  obtain ⟨a, b, c, d, e, f, g⟩ := other
  rw [apply, if_neg a, if_neg b, if_neg c, if_neg d, if_neg e, if_neg f, if_neg g, mapM_scalar?]
  rfl

noncomputable def binary (engine : Engine) (op : BinOp) (areIntegers : Bool) :
    Datum → Datum → Option Datum
  | .value a, .value b => (engine.toRow.binary op areIntegers a b).map .value
  | .value .null, _ | _, .value .null => some (.value .null)
  | .stamp stamp, .span span =>
    match op with
    | .add => stored (stamp.add span)
    | .sub => stored (stamp.add (-span))
    | _ => none
  | _, _ => none

def castJson (engine : Engine) : Datum → Option Datum
  | .value scalar =>
    if scalar = .null then some (.value .null) else (engine.jsonOf scalar).map .json
  | .json json => some (.json json)
  | _ => none

def cast (engine : Engine) (operand : Datum) : SqlType → Option Datum
  | .jsonb => engine.castJson operand
  | .integer =>
    match engine.dialect with
    | .postgres => (operand.scalar?.bind Value.castInteger).map .value
    | .sqlite => none
  | type => (operand.scalar?.bind fun scalar => engine.toRow.cast scalar type).map .value

/-- A field of a time; of them only the day of the month is looked at. -/
def extract (field : String) : Datum → Option Datum
  | .value .null => some (.value .null)
  | .stamp stamp => if field = "DAY" then some (.value (.int stamp.date.day)) else none
  | _ => none

def atTimeZone : Datum → Datum → Option Datum
  | .value .null, _ | _, .value .null => some (.value .null)
  | .stamp wall, .value (.text zone) => some (.moment wall zone)
  | _, _ => none

def subscript : Datum → Datum → Option Datum
  | .value .null, _ | _, .value .null => some (.value .null)
  | .texts items, .value (.int (.ofNat (i + 1))) => some (.ofText? items[i]?.join)
  | .texts _, .value (.int _) => some (.value .null)
  | _, _ => none

theorem subscript_groupTexts (first : 1 ≤ index) (last : index ≤ groups) (captures : Captures) :
    subscript (.texts (groupTexts groups captures)) (.value (.int index)) =
      some (.ofText? (captures.at? index)) := by
  obtain ⟨i, rfl⟩ := Nat.exists_eq_add_of_le' first
  have item : (groupTexts groups captures)[i]?.join = captures.at? (i + 1) := by
    have inside : i < groups := by omega
    simp [groupTexts, inside]
  change some (Datum.ofText? (groupTexts groups captures)[i]?.join) = _
  rw [item]

end Engine

end SheetSql
