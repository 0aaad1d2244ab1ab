import Travelo.Claims.Civil
import Travelo.Folio.OpenList
import Travelo.ReadCommitted.Table

/-!
# CSV exports of the admin lists

`ExportService.rows` writes a header and then the rows of a module's own `list()`, page after page.
A row is the record that the list serves, a value for each name; what a list filters by are columns
of the same record, a key inside a JSON column under its path.
-/

namespace Travelo.Export

open ReadCommitted

/-! ## Values -/

/-- What a field holds. An object is known by its JSON text. -/
inductive Value where
  | undefined
  | null
  | text (s : String)
  | number (n : ℤ)
  | boolean (b : Bool)
  /-- A `Date`: milliseconds, none for an invalid one. -/
  | date (ms : Option ℤ)
  | object (json : String)
  deriving DecidableEq

def pad (width n : ℕ) : String :=
  String.ofList (List.leftpad width '0' (toString n).toList)

/-- `date.toISOString()`. -/
def toISOString (ms : ℤ) : String :=
  let (year, month, day) := Claims.civil (ms / 86400000)
  let time := (ms % 86400000).toNat
  let yyyy :=
    if 0 ≤ year ∧ year ≤ 9999 then pad 4 year.toNat
    else (if year < 0 then "-" else "+") ++ pad 6 year.natAbs
  yyyy ++ "-" ++ pad 2 month ++ "-" ++ pad 2 day ++ "T" ++ pad 2 (time / 3600000) ++ ":" ++
    pad 2 (time / 60000 % 60) ++ ":" ++ pad 2 (time / 1000 % 60) ++ "." ++ pad 3 (time % 1000) ++
    "Z"

example : toISOString 951827696789 = "2000-02-29T12:34:56.789Z" := by decide +kernel

/-! ## `to-csv.ts` -/

variable (text : String)

/-- `/[",\r\n]/`. -/
def NEEDS_QUOTING : Bool :=
  text.toList.any fun c => c = '"' || c = ',' || c = '\r' || c = '\n'

/-- `/^[=+\-@\t\r]/`. -/
def startsFormula : Bool :=
  text.toList.head?.any fun c => ['=', '+', '-', '@', '\t', '\r'].contains c

def doubleQuotes : String :=
  String.ofList (text.toList.flatMap fun c => if c = '"' then ['"', '"'] else [c])

/-- The text of a value, before any quoting. -/
def plainText : Value → String
  | .undefined => ""
  | .null => ""
  | .text s => if startsFormula s then "'" ++ s else s
  | .number n => toString n
  | .boolean b => if b then "true" else "false"
  | .date ms => (ms.map toISOString).getD ""
  | .object json => json

def toCsvValue (value : Value) : String :=
  let text := plainText value
  if NEEDS_QUOTING text then "\"" ++ doubleQuotes text ++ "\"" else text

def toCsvRow (values : List Value) : String :=
  String.intercalate "," (values.map toCsvValue)

/-! ## Rows -/

abbrev Record := List (String × Value)

def Record.get (r : Record) (name : String) : Value :=
  (r.lookup name).getD .undefined

/-- A row of one of the tables with the columns a list joins to it. The creation time is exact to
the microsecond, and `columns` are the others. -/
structure Row where
  id : Id
  createdAt : ℤ
  deletedAt : Option ℤ := none
  columns : Record := []
  deriving DecidableEq

abbrev Rows := Table Row.id

/-- An id as it is printed. -/
def uuidText (id : Id) : String :=
  let hex := (List.leftpad 32 '0' (Nat.toDigits 16 id))
  String.ofList (hex.take 8 ++ '-' :: (hex.drop 8).take 4 ++ '-' :: (hex.drop 12).take 4 ++
    '-' :: (hex.drop 16).take 4 ++ '-' :: hex.drop 20)

variable (row : Row)

/-- The columns of a row. -/
def Row.stored : Record :=
  ("id", .text (uuidText row.id)) :: ("createdAt", .date (some (row.createdAt / 1000))) ::
    row.columns

/-- The value of the text column, if it has one. -/
def Row.textOf (name : String) : Option String :=
  match row.stored.get name with
  | .text s => some s
  | _ => none

/-! ## Lists -/

inductive ExportEntity where
  | owners
  | properties
  | staff
  | subscriptions
  | payments
  | invoices
  | auditLogs

abbrev Query := List (String × String)

/-- `if (q.name) conds.push(…)`: an absent or empty value asks for nothing. -/
def whenGiven (q : Query) (name : String) (cond : String → Bool) : Bool :=
  match q.lookup name with
  | none => true
  | some value => value = "" || cond value

/-- `eq(column, value)`. -/
def eqColumn (column value : String) : Bool :=
  row.textOf column = some value

/-- `ilike(column, pattern)`. -/
def ilike (text : Option String) (pattern : String) : Bool :=
  text.any fun s => FolioListService.like pattern.toLower.toList s.toLower.toList

/-- `ilike(column, '%q%')` for one of the columns. -/
def searched (texts : List (Option String)) (q : String) : Bool :=
  texts.any fun text => ilike text ("%" ++ q ++ "%")

variable (entity : ExportEntity)

/-- The rows a list is of. -/
def conditions (q : Query) (row : Row) : Bool :=
  match entity with
  | .owners =>
    row.deletedAt.isNone && whenGiven q "status" (eqColumn row "status") &&
      whenGiven q "stateId" (eqColumn row "stateId") &&
      whenGiven q "districtId" (eqColumn row "districtId") &&
      whenGiven q "q" (searched [row.textOf "name", row.textOf "email", row.textOf "company"])
  | .properties =>
    row.deletedAt.isNone && whenGiven q "status" (eqColumn row "status") &&
      whenGiven q "ownerId" (eqColumn row "ownerId") &&
      whenGiven q "state" (ilike (row.textOf "state")) &&
      whenGiven q "district" (ilike (row.textOf "address.district")) &&
      whenGiven q "q" (searched [row.textOf "name", row.textOf "city"])
  | .staff =>
    row.deletedAt.isNone && whenGiven q "propertyId" (eqColumn row "propertyId") &&
      whenGiven q "ownerId" (eqColumn row "ownerId") && whenGiven q "role" (eqColumn row "role") &&
      whenGiven q "status" (eqColumn row "status") &&
      whenGiven q "state" (ilike (row.textOf "state")) &&
      whenGiven q "q" (searched
        [row.textOf "properties.name", row.textOf "firstName", row.textOf "lastName",
          do return (← row.textOf "firstName") ++ " " ++ (← row.textOf "lastName"),
          row.textOf "email"])
  | .subscriptions =>
    whenGiven q "ownerId" (eqColumn row "ownerId") && whenGiven q "status" (eqColumn row "status")
  | .payments =>
    whenGiven q "ownerId" (eqColumn row "ownerId") &&
      whenGiven q "status" (eqColumn row "status") &&
      (q.lookup "failedOnly" ≠ some "true" || eqColumn row "status" "FAILED")
  | .invoices =>
    whenGiven q "ownerId" (eqColumn row "ownerId") && whenGiven q "status" (eqColumn row "status")
  | .auditLogs =>
    whenGiven q "actorId" (eqColumn row "actorId") &&
      whenGiven q "entity" (eqColumn row "entity") &&
      whenGiven q "entityId" (eqColumn row "entityId")

/-- `a ?? b`. -/
def Value.orElse (a b : Value) : Value :=
  match a with
  | .undefined => b
  | .null => b
  | a => a

/-- The record that a list serves for a row. -/
def serialize (row : Row) : Record :=
  let r := row.stored
  match entity with
  | .owners =>
    ["id", "name", "email", "phone", "company", "gstNumber", "city", "country", "pinCode",
        "stateId", "districtId", "status", "createdAt", "lastActiveAt"].map
          (fun name => (name, r.get name)) ++
      [("state", (r.get "address.state").orElse .null),
        ("district", (r.get "address.district").orElse .null)]
  | .properties => ("owner", r.get "owners.company") :: r
  | .staff =>
    ["id", "firstName", "lastName", "email", "mobile", "role", "status", "ownerId", "propertyId",
        "createdAt"].map (fun name => (name, r.get name)) ++
      [("ownerName", ((r.get "owners.company").orElse (r.get "owners.name")).orElse .null),
        ("propertyName", (r.get "properties.name").orElse .null)]
  | .subscriptions =>
    ["id", "ownerId", "status", "autoRenew", "startsAt", "currentPeriodStart", "currentPeriodEnd",
        "priceOverride", "createdAt"].map (fun name => (name, r.get name)) ++
      [("owner", r.get "owners.company"), ("plan", r.get "plans.name"),
        ("cycle", r.get "billingCycle"),
        ("propertyLimit", (r.get "propertyLimitOverride").orElse (r.get "plans.propertyLimit"))]
  | .payments => ("owner", r.get "owners.company") :: r
  | .invoices => ("owner", r.get "owners.company") :: r
  | .auditLogs => r

/-- One page of any of the lists: `rows` is the order in which the database has the matching
rows. -/
def list (limit offset : Option ℕ) (rows : List Row) : List Row :=
  (rows.drop (offset.getD 0)).take (min (limit.getD 50) 200)

/-! ## Columns -/

structure Column where
  header : String
  value : Record → Value

/-- `{ header: name, value: (r) => r.name }`. -/
def column (name : String) : Column := ⟨name, fun r => r.get name⟩

/-- `${a ?? ''}` for a text column. -/
def Value.orEmpty : Value → String
  | .text s => s
  | _ => ""

/-- `!!value`. -/
def Value.truthy : Value → Bool
  | .undefined => false
  | .null => false
  | .text s => s ≠ ""
  | .number n => n ≠ 0
  | .boolean b => b
  | .date _ => true
  | .object _ => true

def fullName (r : Record) : String :=
  trim ((r.get "firstName").orEmpty ++ " " ++ (r.get "lastName").orEmpty)

def columns : ExportEntity → List Column
  | .owners =>
    ["id", "name", "email", "phone", "company", "gstNumber", "city", "state", "district", "country",
      "pinCode", "status", "createdAt", "lastActiveAt"].map column
  | .properties =>
    [column "id", column "name", ⟨"owner", fun r => (r.get "owner").orElse (r.get "ownerName")⟩] ++
      ["ownerId", "city", "state", "country", "status", "roomCount", "createdAt"].map column
  | .staff =>
    [column "id", ⟨"name", fun r => (r.get "name").orElse (.text (fullName r))⟩, column "email",
      ⟨"mobile", fun r => (r.get "mobile").orElse (r.get "phone")⟩, column "role", column "status",
      ⟨"property", fun r => (r.get "property").orElse (r.get "propertyName")⟩, column "propertyId",
      ⟨"owner", fun r => (r.get "owner").orElse (r.get "ownerName")⟩, column "ownerId",
      column "createdAt"]
  | .subscriptions =>
    ["id", "owner", "ownerId", "plan", "status", "cycle", "autoRenew", "startsAt",
      "currentPeriodStart", "currentPeriodEnd", "propertyLimit", "priceOverride", "createdAt"].map
        column
  | .payments =>
    ["id", "owner", "ownerId", "subscriptionId", "invoiceId", "gateway", "gatewayRef"].map column ++
      [⟨"amountPaise", fun r => r.get "amount"⟩] ++
      ["currency", "status", "method", "capturedAt", "createdAt"].map column
  | .invoices =>
    ["id", "invoiceNumber", "owner", "ownerId", "subscriptionId", "billingPeriodStart",
        "billingPeriodEnd"].map column ++
      [⟨"subtotalPaise", fun r => r.get "subtotal"⟩, ⟨"taxPaise", fun r => r.get "tax"⟩,
        ⟨"discountPaise", fun r => r.get "discount"⟩, ⟨"totalPaise", fun r => r.get "total"⟩] ++
      ["currency", "status", "issuedAt", "dueDate", "paidAt"].map column ++
      [⟨"hasDocument", fun r => .boolean (r.get "storageKey").truthy⟩]
  | .auditLogs =>
    [column "id", ⟨"at", fun r => r.get "createdAt"⟩, ⟨"actor", fun r => r.get "actorEmail"⟩,
      column "actorId", ⟨"role", fun r => r.get "actorRole"⟩] ++
      ["action", "entity", "entityId", "reason", "ip", "userAgent", "before", "after"].map column

def headerLine : String :=
  toCsvRow ((columns entity).map fun c => .text c.header) ++ "\r\n"

/-- The line of a row. -/
def recordLine (row : Row) : String :=
  toCsvRow ((columns entity).map fun c => c.value (serialize entity row)) ++ "\r\n"

/-! ## `ExportService` -/

namespace ExportService

def MAX_ROWS : ℕ := 50000

def PAGE_SIZE : ℕ := 200

/-- The loop of `rows` from query `n` on; `rowsAt n` is how the database has the matching rows when
query `n` is made. -/
def pagesFrom (rowsAt : ℕ → List Row) (n offset : ℕ) : List Row :=
  let page := list (some PAGE_SIZE) (some offset) (rowsAt n)
  if page.length < PAGE_SIZE ∨ MAX_ROWS ≤ offset + page.length then page
  else page ++ pagesFrom rowsAt (n + 1) (offset + page.length)
termination_by MAX_ROWS - offset
decreasing_by
  -- A full page is not empty.
  have hsize : 0 < PAGE_SIZE := by decide
  rename_i hmore
  rw [not_or, not_lt, not_le] at hmore
  show MAX_ROWS - (offset + page.length) < MAX_ROWS - offset
  omega

/-- The rows that are written, in order. -/
def exported (rowsAt : ℕ → List Row) : List Row := pagesFrom rowsAt 0 0

/-- The lines that are written. -/
def rows (entity : ExportEntity) (rowsAt : ℕ → List Row) : List String :=
  headerLine entity :: (exported rowsAt).map (recordLine entity)

end ExportService

end Travelo.Export
