import Travelo.Claims.SqlText

/-!
# The custom report builder

`ReportsService.customReport` puts a statement together from parts it looks up by the names
the caller chose. A JavaScript object has the names of `Object.prototype` besides its own, so
a look-up by such a name finds a function where nothing is listed.
-/

namespace Travelo

open Claims.SqlText

namespace CustomReports

inductive Entity where
  | reservations
  | payments
  | orders
  | expenses
  | nightAudit
  deriving DecidableEq

def Entity.text : Entity → String
  | .reservations => "reservations"
  | .payments => "payments"
  | .orders => "orders"
  | .expenses => "expenses"
  | .nightAudit => "nightAudit"

/-- What the builder may touch of one entity: a name and the SQL it stands for. -/
structure EntitySpec where
  table : String
  propertyCol : String
  dateCol : String
  softDelete : Option String := none
  dimensions : List (String × String)
  measures : List (String × String)

def CUSTOM_REPORT_ENTITIES : Entity → EntitySpec
  | .reservations =>
    { table := "reservations"
      propertyCol := "property_id"
      dateCol := "check_in"
      softDelete := some "deleted_at"
      dimensions := [
        ("status", "status"),
        ("source", "source"),
        ("segment", "coalesce(segment, '')"),
        ("roomType", "room_type_id"),
        ("month", "to_char(check_in, 'YYYY-MM')"),
        ("week", "to_char(check_in, 'IYYY-IW')"),
        ("day", "check_in::text")]
      measures := [
        ("count", "count(*)::int"),
        ("nights", "coalesce(sum(check_out - check_in), 0)::int"),
        ("revenuePaise", "coalesce(sum(total_paise), 0)::bigint"),
        ("paidPaise", "coalesce(sum(paid_paise), 0)::bigint"),
        ("avgRatePaise", "coalesce(avg(rate_paise), 0)::bigint"),
        ("adults", "coalesce(sum(adults), 0)::int")] }
  | .payments =>
    { table := "folio_payments"
      propertyCol := "property_id"
      dateCol := "collected_at::date"
      dimensions := [
        ("method", "method"),
        ("direction", "direction"),
        ("month", "to_char(collected_at, 'YYYY-MM')"),
        ("day", "collected_at::date::text")]
      measures := [
        ("count", "count(*)::int"),
        ("amountPaise", "coalesce(sum(case when direction = 'REFUND' then -amount_paise " ++
          "else amount_paise end), 0)::bigint")] }
  | .orders =>
    { table := "restaurant_orders"
      propertyCol := "property_id"
      dateCol := "created_at::date"
      dimensions := [
        ("status", "status"),
        ("paymentMethod", "coalesce(payment_method, '')"),
        ("month", "to_char(created_at, 'YYYY-MM')"),
        ("day", "created_at::date::text")]
      measures := [
        ("count", "count(*)::int"),
        ("totalPaise", "coalesce(sum(total_paise), 0)::bigint"),
        ("discountPaise", "coalesce(sum(discount_paise), 0)::bigint"),
        ("taxPaise", "coalesce(sum(tax_paise), 0)::bigint")] }
  | .expenses =>
    { table := "expenses"
      propertyCol := "property_id"
      dateCol := "incurred_on::date"
      softDelete := some "deleted_at"
      dimensions := [
        ("category", "category"),
        ("status", "status"),
        ("vendor", "coalesce(vendor, '')"),
        ("month", "to_char(incurred_on, 'YYYY-MM')")]
      measures := [
        ("count", "count(*)::int"),
        ("amountPaise", "coalesce(sum(amount_paise), 0)::bigint")] }
  | .nightAudit =>
    { table := "property_daily_snapshots"
      propertyCol := "property_id"
      dateCol := "business_date"
      dimensions := [
        ("month", "to_char(business_date, 'YYYY-MM')"),
        ("day", "business_date::text")]
      measures := [
        ("days", "count(*)::int"),
        ("revenuePaise", "coalesce(sum(revenue_paise), 0)::bigint"),
        ("roomsSold", "coalesce(sum(rooms_sold), 0)::int"),
        ("roomsAvailable", "coalesce(sum(rooms_available), 0)::int"),
        ("noShows", "coalesce(sum(no_shows), 0)::int")] }

/-! ## The query -/

/-- A value of a filter: the DTO asks for a list and for nothing of its elements. A number
and an object are known by the text `String` gives them. -/
inductive FilterValue where
  | string (text : String)
  | number (text : String)
  | boolean (b : Bool)
  | null
  | array (items : List FilterValue)
  | object (text : String)

/-- `parts.join(sep)`. -/
def join (sep : String) : List String → String
  | [] => ""
  | [part] => part
  | part :: parts => part ++ sep ++ join sep parts

mutual
/-- `String(v)`. -/
def FilterValue.text : FilterValue → String
  | .string text => text
  | .number text => text
  | .boolean b => if b then "true" else "false"
  | .null => "null"
  | .array items => join "," (FilterValue.itemTexts items)
  | .object text => text

/-- The elements of an array as `join` takes them: `null` is no text. -/
def FilterValue.itemTexts : List FilterValue → List String
  | [] => []
  | .null :: items => "" :: FilterValue.itemTexts items
  | item :: items => item.text :: FilterValue.itemTexts items
end

structure ReportFilter where
  field : String
  values : List FilterValue

variable (s : String)

/-- `/^\d{4}-\d{2}-\d{2}$/`. -/
def isIsoDate : Bool :=
  match s.toList with
  | [y1, y2, y3, y4, d1, m1, m2, d2, a1, a2] =>
    [y1, y2, y3, y4, m1, m2, a1, a2].all Char.isDigit && d1 == '-' && d2 == '-'
  | _ => false

def nameLength : Bool := 1 ≤ s.length && s.length ≤ 40

/-- A query the DTO accepts; `since` and `till` are its `from` and `to`. -/
structure CustomReportDto where
  entity : Entity
  since : String
  till : String
  groupBy : Option String := none
  measures : List String := []
  filters : List ReportFilter := []
  since_iso : isIsoDate since = true
  till_iso : isIsoDate till = true
  groupBy_length : groupBy.all nameLength = true := by decide
  measures_size : measures.length ≤ 8 := by decide
  filters_size : filters.length ≤ 10 := by decide
  fields_length : filters.all (fun f => nameLength f.field) = true := by decide
  values_size : filters.all (fun f => f.values.length ≤ 50) = true := by decide

inductive ReportError where
  | badRequest (message : String)

structure CustomReport where
  query : String
  entity : Entity
  since : String
  till : String
  groupBy : Option String
  measures : List String

/-! ## Looking a name up -/

/-- The functions every object has by its prototype. -/
def inheritedFunctions : List String :=
  ["constructor", "__defineGetter__", "__defineSetter__", "hasOwnProperty", "__lookupGetter__",
    "__lookupSetter__", "isPrototypeOf", "propertyIsEnumerable", "toString", "valueOf",
    "toLocaleString"]

/-- What a name gives on an empty object, as a template prints it. -/
def inherited (name : String) : Option String :=
  if name = "__proto__" then some "[object Object]"
  else if name = "constructor" then some "function Object() \x7b [native code] \x7d"
  else if inheritedFunctions.contains name then
    some ("function " ++ name ++ "() \x7b [native code] \x7d")
  else none

/-- What an entity lists under a name. -/
def listed (entries : List (String × String)) (name : String) : Option String :=
  (entries.find? fun e => e.1 = name).map (·.2)

/-- `entries[name]`: an object's own properties, then those of its prototype. -/
def property (entries : List (String × String)) (name : String) : Option String :=
  (listed entries name).or (inherited name)

/-! ## The statement -/

/-- `s.replace(/'/g, '')`. -/
def withoutQuotes : String := String.ofList (s.toList.filter fun c => c ≠ quote)

/-- `'${s.replace(/'/g, "''")}'`. -/
def quotedText : String := String.ofList (quoted s.toList)

variable (spec : EntitySpec)

def groupColumn (q : CustomReportDto) : Except ReportError (Option String) :=
  match q.groupBy with
  | none => .ok none
  | some name =>
    match property spec.dimensions name with
    | some col => .ok (some col)
    | none => .error (.badRequest ("Cannot group " ++ q.entity.text ++ " by " ++ name))

/-- The measures asked for; `count` when none is. -/
def CustomReportDto.measureNames (q : CustomReportDto) : List String :=
  if q.measures.isEmpty then ["count"] else q.measures

def measureOf (entity : Entity) (name : String) :
    Except ReportError (String × String) :=
  match property spec.measures name with
  | some expr => .ok (name, expr)
  | none => .error (.badRequest ("Unknown measure " ++ name ++ " for " ++ entity.text))

def filterCondition (entity : Entity) (f : ReportFilter) :
    Except ReportError String :=
  match property spec.dimensions f.field with
  | some col => .ok (col ++ " in (" ++ join "," (f.values.map fun v => quotedText v.text) ++ ")")
  | none => .error (.badRequest ("Cannot filter " ++ entity.text ++ " by " ++ f.field))

def window (propertyId : String) (q : CustomReportDto) : List String :=
  [spec.propertyCol ++ " = '" ++ withoutQuotes propertyId ++ "'",
    spec.dateCol ++ " >= '" ++ q.since ++ "'",
    spec.dateCol ++ " <= '" ++ q.till ++ "'"] ++
      (spec.softDelete.map fun col => col ++ " is null").toList

def groupSql : Option String → String
  | some col => " group by " ++ col
  | none => ""

def orderSql (groupCol : Option String) (measures : List (String × String)) : String :=
  match groupCol, measures with
  | some _, (key, _) :: _ => " order by \"" ++ key ++ "\" desc nulls last"
  | _, _ => ""

def selectList (groupCol : Option String) (measures : List (String × String)) : String :=
  join ", " ((groupCol.getD "null" ++ " as \"group\"") ::
    measures.map fun m => m.2 ++ " as \"" ++ m.1 ++ "\"")

/-- The statement that is sent, and what is answered with its rows. -/
def customReport (propertyId : String) (q : CustomReportDto) :
    Except ReportError CustomReport := do
  let spec := CUSTOM_REPORT_ENTITIES q.entity
  let groupCol ← groupColumn spec q
  let measures ← q.measureNames.mapM (measureOf spec q.entity)
  let filters ← q.filters.mapM (filterCondition spec q.entity)
  let text := "select " ++ selectList groupCol measures ++ " from " ++ spec.table ++ " where " ++
    join " and " (window spec propertyId q ++ filters) ++ groupSql groupCol ++
      orderSql groupCol measures ++ " limit 500"
  return {
    query := text
    entity := q.entity
    since := q.since
    till := q.till
    groupBy := q.groupBy
    measures := measures.map (·.1) }

end CustomReports

end Travelo
