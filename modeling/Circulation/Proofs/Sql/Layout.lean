import Circulation.Proofs.Sql.Meaning
import Mathlib.Logic.Function.Basic

/-!
# What insertions and updates mean

The layout of a table says of each column what kind of values it keeps and what a new row has there that does not name
it; `layouts_written` finds each layout in the schema. An insertion adds a row of the values it names, each as its
column keeps it. An update changes the rows that meet all conditions, all fields at once, and counts them. What
constraints reject is left out: the meaning is that of a statement which goes through.
-/

namespace Circulation.Sql

/-! ## Layouts -/

/-- The kinds of columns. -/
inductive Kind where
  | serial
  | bigint
  | smallint
  | integer
  | boolean
  | timestamp
  | cents
  deriving DecidableEq

/-- A kind as it is written. -/
def Kind.text : Kind → String
  | .serial => "BIGSERIAL"
  | .bigint => "BIGINT"
  | .smallint => "SMALLINT"
  | .integer => "INTEGER"
  | .boolean => "BOOLEAN"
  | .timestamp => "TIMESTAMPTZ"
  | .cents => "NUMERIC(10, 2)"

/-- What a column has in a row that does not name it: a value, or the time of the database. -/
inductive Fallback where
  | value (o : Operand)
  | now

/-- A fallback as it is written. -/
def Fallback.text : Fallback → String
  | .value o => " DEFAULT " ++ o.text
  | .now => " DEFAULT NOW()"

/-- A column of a table; `rule` is what else it is under. -/
structure Column where
  name : String
  kind : Kind
  required : Bool := true
  fallback : Option Fallback := none
  rule : String := ""

/-- A column as it is written. -/
def Column.text (c : Column) : String :=
  c.name ++ " " ++ c.kind.text ++ (if c.required then " NOT NULL" else "") ++ (c.fallback.map Fallback.text).getD "" ++
    c.rule

namespace Column

/-- The ids of a table, given out in order. -/
def id : Column :=
  { name := "id", kind := .serial, required := false, rule := " PRIMARY KEY" }

/-- A reference to the rows of a table. -/
def reference (name table : String) : Column :=
  { name := name, kind := .bigint, rule := " REFERENCES " ++ table ++ "(id)" }

/-- A status of the numbers that a rule lists, zero if nothing is said. -/
def status (numbers : String) : Column :=
  { name := "status", kind := .smallint, fallback := some (.value (.number 0)), rule := " CHECK (status IN (" ++ numbers ++ "))" }

/-- A time that has to be said. -/
def time (name : String) : Column :=
  { name := name, kind := .timestamp }

/-- A time that may be missing. -/
def optionalTime (name : String) : Column :=
  { name := name, kind := .timestamp, required := false }

/-- A time at which something was done, now if nothing is said. -/
def stamp (name : String) : Column :=
  { name := name, kind := .timestamp, fallback := some .now }

end Column

/-- A table of the schema. -/
structure Layout where
  table : String
  columns : List Column

/-- A layout as the schema writes it, line by line. -/
def Layout.lines (l : Layout) : List String :=
  ("CREATE TABLE IF NOT EXISTS " ++ l.table ++ " (") ::
    l.columns.dropLast.map (·.text ++ ",") ++ (l.columns.getLast?.map Column.text).toList ++ [");"]

/-- The tables that transactions write. -/
def layouts : List Layout :=
  [
    ⟨"book_copies", [.id, .reference "book_id" "books", .status "0, 1, 2", .stamp "created_at", .stamp "updated_at",
      .optionalTime "deleted_at"]⟩,
    ⟨"loans", [.id, .reference "book_copy_id" "book_copies", .reference "book_id" "books", .reference "user_id" "users",
      .status "0, 1", .time "borrow_date", .time "due_date", .optionalTime "return_date",
      { name := "renew_count", kind := .integer, fallback := some (.value (.number 0)) }, .stamp "created_at",
      .stamp "updated_at"]⟩,
    ⟨"loan_histories", [.id, .reference "loan_id" "loans",
      { name := "action", kind := .smallint, rule := " CHECK (action IN (0, 1, 2))" }, .time "due_date",
      .optionalTime "previous_due_date", .stamp "created_at"]⟩,
    ⟨"reservations", [.id, .reference "book_copy_id" "book_copies", .reference "book_id" "books",
      .reference "user_id" "users", .status "0, 1", .time "reservation_date", .stamp "created_at", .stamp "updated_at"]⟩,
    ⟨"fines", [.id, .reference "loan_id" "loans", { name := "amount", kind := .cents, rule := " CHECK (amount >= 0)" },
      { name := "settled", kind := .boolean, fallback := some (.value (.truth false)) }, .stamp "created_at",
      .stamp "updated_at"]⟩
  ]

/-- Every layout is that of the schema. -/
theorem layouts_written : ∀ l ∈ layouts, l.lines <:+: Schema.lines := by
  have hat : ∀ (l : Layout) (n : Nat), (Schema.lines.drop n).take l.lines.length = l.lines → l.lines <:+: Schema.lines := by
    intro l n h
    have htake := List.take_prefix l.lines.length (Schema.lines.drop n)
    rw [h] at htake
    exact htake.isInfix.trans (List.drop_suffix n Schema.lines).isInfix
  intro l hl
  simp only [layouts, List.mem_cons, List.not_mem_nil, or_false] at hl
  rcases hl with rfl | rfl | rfl | rfl | rfl
  · exact hat _ 14 rfl
  · exact hat _ 23 rfl
  · exact hat _ 40 rfl
  · exact hat _ 49 rfl
  · exact hat _ 66 rfl

/-- The columns of a table. -/
def columnsOf (table : String) : List Column :=
  ((layouts.find? (·.table = table)).map Layout.columns).getD []

/-! ## What columns keep -/

/-- The number rounded to two places, a tie away from zero. -/
def Numeric.inCents (n : Numeric) : Numeric :=
  if n.scale ≤ 2 then ⟨n.negative, n.magnitude * 10 ^ (2 - n.scale), 2⟩
  else ⟨n.negative, roundHalfUp n.magnitude (10 ^ (n.scale - 2)), 2⟩

/-- A value as a column of a kind keeps it. -/
def Kind.keep (k : Kind) (v : Value) : Value :=
  match k, v with
  | .cents, .numeric n => .numeric n.inCents
  | .timestamp, v => v.stored
  | _, v => v

/-- What a column has in a new row under an id that does not name it, at a time of the database. -/
def Column.missing (c : Column) (id : Int) (now : Instant) : Value :=
  match c.kind, c.fallback with
  | .serial, _ => .int id
  | k, some (.value o) => k.keep (o.value [])
  | k, some .now => k.keep (.instant now)
  | _, none => .null

/-- The kind of a column of a table. -/
def kindOf? (table column : String) : Option Kind :=
  ((columnsOf table).find? (·.name = column)).map Column.kind

/-- A value as a column of a table keeps it. -/
def keepIn (table column : String) (v : Value) : Value :=
  match kindOf? table column with
  | some k => k.keep v
  | none => v

/-- A value that the database keeps as it is, in a column for other things than amounts. -/
theorem keepIn_eq {table column : String} {v : Value} (hk : kindOf? table column ≠ some .cents) (hv : v.stored = v) :
    keepIn table column v = v := by
  unfold keepIn
  cases hkind : kindOf? table column with
  | none => rfl
  | some k =>
    cases k with
    | cents => exact absurd hkind hk
    | timestamp => exact hv
    | _ => rfl

/-! ## Insertions -/

/-- The row that an insertion adds under an id. -/
def Insertion.row (i : Insertion) (ps : List Value) (id : Int) (now : Instant) : Row :=
  ⟨(columnsOf i.table).map fun c => (c.name, match i.fields.lookup c.name with
    | some o => c.kind.keep (o.value ps)
    | none => c.missing id now)⟩

/-- Whether a bound statement that inserts takes one database to another, and gives back a row. The id and the time are
the database's own. -/
def Bound.Inserts (b : Bound) (db : Database) (id : Int) (now : Instant) (db' : Database) (row : Row) : Prop :=
  ∃ i, b.statement = .insert i ∧ row = i.row b.parameters id now ∧ db' = Function.update db i.table (row :: db i.table)

/-! ## Updates -/

namespace Update

variable (u : Update) (db : Database) (ps : List Value) (r : Row)

/-- Whether a row meets the conditions of an update. -/
def meets : Bool :=
  u.conditions.all (·.holds db ps r)

/-- The fields that an update sets, as their columns keep them. -/
def sets : List (String × Value) :=
  u.fields.map fun (column, o) => (column, keepIn u.table column (o.value ps))

/-- An update that sets no amounts sets just the values it is sent with. -/
theorem sets_eq (b : Bound) (h : b.Exact) (hk : ∀ f ∈ u.fields, kindOf? u.table f.1 ≠ some .cents) :
    u.sets b.parameters = u.fields.map fun (column, o) => (column, o.value b.parameters) := by
  unfold sets
  refine List.map_congr_left ?_
  rintro ⟨column, o⟩ hf
  exact congrArg _ (keepIn_eq (hk _ hf) (h.stored_value o))

/-- A row with the fields of an update in front, which hide what was there. -/
def change : Row :=
  ⟨u.sets ps ++ r.columns⟩

/-- A changed row has the fields that were set, and its own values otherwise. -/
theorem get_change (column : String) : (u.change ps r).get column = ((u.sets ps).lookup column).getD (r.get column) := by
  unfold Row.get change
  rw [List.lookup_append]
  cases (u.sets ps).lookup column <;> rfl

/-- The database after an update, and how many rows it changed. -/
def run : Database × Int :=
  (Function.update db u.table ((db u.table).map fun r => if u.meets db ps r then u.change ps r else r),
    ((db u.table).filter fun r => u.meets db ps r).length)

/-- An update changes the rows of its table that meet its conditions. -/
theorem run_table : (u.run db ps).1 u.table = (db u.table).map fun r => if u.meets db ps r then u.change ps r else r :=
  Function.update_self u.table _ db

/-- An update leaves every other table as it is. -/
theorem run_other {table : String} (h : table ≠ u.table) : (u.run db ps).1 table = db table :=
  Function.update_of_ne h _ db

end Update

/-- Whether a bound statement that updates takes one database to another and changes some number of rows. -/
def Bound.Updates (b : Bound) (db db' : Database) (n : Int) : Prop :=
  ∃ u, b.statement = .update u ∧ u.run db b.parameters = (db', n)

end Circulation.Sql
