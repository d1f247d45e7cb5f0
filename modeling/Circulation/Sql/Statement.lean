import Circulation.Listing
import Circulation.Sql.Value

/-!
# Statements

A statement is data: what it selects, inserts or changes, under which conditions, in which order and how many rows,
with numbered placeholders in the place of values. `Statement.text` writes it, and a `Bound` statement has a parameter
for each placeholder.
-/

namespace Circulation.Sql

/-- What stands for a value in a statement. -/
inductive Operand where
  | placeholder (n : Nat)
  | truth (b : Bool)
  | number (n : Int)
  deriving DecidableEq, Repr

/-- A condition on the rows of a table. -/
inductive Condition where
  /-- Holds of every row. -/
  | always
  /-- The column is null. -/
  | isNull (column : String)
  /-- The column has the value. -/
  | equal (column : String) (value : Operand)
  /-- The column has a smaller value. -/
  | less (column : String) (value : Operand)
  /-- The column has the id of a row of another table whose own column has the value. -/
  | references (column table : String) (key : String) (value : Operand)
  deriving DecidableEq, Repr

/-- What a selection gives of each row, or of all of them together. -/
inductive Projection where
  | everything
  | columns (names : List String)
  | count
  deriving DecidableEq, Repr

/-- The order of a selection: by time of creation and then by id, in a direction or as it goes without saying. -/
inductive Order where
  | standard
  | directed (d : Direction)
  deriving DecidableEq, Repr

/-- A selection from one table. -/
structure Selection where
  projection : Projection := .everything
  table : String
  conditions : List Condition
  order : Option Order := none
  limit : Option Nat := none
  offset : Option Nat := none
  locking : Bool := false
  deriving DecidableEq, Repr

/-- A new row for a table, given back with what the table adds to it; `loose` when blanks stand within the list of
columns. -/
structure Insertion where
  table : String
  fields : List (String × Operand)
  loose : Bool := false
  deriving DecidableEq, Repr

/-- A change of the rows of a table that meet all conditions. -/
structure Update where
  table : String
  fields : List (String × Operand)
  conditions : List Condition
  deriving DecidableEq, Repr

/-- A statement. -/
inductive Statement where
  | select (s : Selection)
  | insert (i : Insertion)
  | update (u : Update)
  /-- The sum of the amounts of the unsettled fines on the loans of a user. -/
  | outstanding (user : Nat)
  deriving DecidableEq, Repr

/-- An operand as it is written. -/
def Operand.text : Operand → String
  | .placeholder n => "$" ++ toString n
  | .truth b => if b then "TRUE" else "FALSE"
  | .number n => toString n

/-- A condition as it is written. -/
def Condition.text : Condition → String
  | .always => "TRUE"
  | .isNull column => column ++ " IS NULL"
  | .equal column value => column ++ " = " ++ value.text
  | .less column value => column ++ " < " ++ value.text
  | .references column table key value =>
    column ++ " IN (SELECT id FROM " ++ table ++ " WHERE " ++ key ++ " = " ++ value.text ++ ")"

/-- A projection as it is written. -/
def Projection.text : Projection → String
  | .everything => "*"
  | .columns names => ", ".intercalate names
  | .count => "COUNT(*)"

/-- An order as it is written. -/
def Order.text : Order → String
  | .standard => " ORDER BY created_at, id"
  | .directed d => " ORDER BY created_at " ++ d.keyword ++ ", id " ++ d.keyword

/-- Conditions that must all hold, as they are written. -/
def conditionsText (cs : List Condition) : String :=
  " WHERE " ++ " AND ".intercalate (cs.map Condition.text)

/-- A clause with a placeholder, if there is one. -/
def clauseText (keyword : String) : Option Nat → String
  | some n => " " ++ keyword ++ " " ++ (Operand.placeholder n).text
  | none => ""

/-- A selection as it is written. -/
def Selection.text (s : Selection) : String :=
  "SELECT " ++ s.projection.text ++ " FROM " ++ s.table ++ conditionsText s.conditions ++
    (s.order.map Order.text).getD "" ++ clauseText "LIMIT" s.limit ++ clauseText "OFFSET" s.offset ++
    (if s.locking then " FOR UPDATE" else "")

/-- An insertion as it is written. -/
def Insertion.text (i : Insertion) : String :=
  let blank := if i.loose then " " else ""
  "INSERT INTO " ++ i.table ++ " (" ++ blank ++ ", ".intercalate (i.fields.map (·.1)) ++ blank ++ ") VALUES (" ++
    ", ".intercalate (i.fields.map (·.2.text)) ++ ") RETURNING *"

/-- An update as it is written. -/
def Update.text (u : Update) : String :=
  "UPDATE " ++ u.table ++ " SET " ++ ", ".intercalate (u.fields.map fun f => f.1 ++ " = " ++ f.2.text) ++
    conditionsText u.conditions

/-- A statement as it is written. -/
def Statement.text : Statement → String
  | .select s => s.text
  | .insert i => i.text
  | .update u => u.text
  | .outstanding user =>
    "SELECT COALESCE(SUM(f.amount), 0) FROM fines f JOIN loans l ON f.loan_id = l.id WHERE l.user_id = " ++
      (Operand.placeholder user).text ++ " AND f.settled = FALSE"

/-- A statement with the values of its placeholders, the first value for the placeholder with number one. -/
structure Bound where
  statement : Statement
  parameters : List Value
  deriving DecidableEq

/-- Conditions that are being put together, with the values of the placeholders so far. -/
structure Conditions where
  conditions : List Condition
  parameters : List Value := []
  deriving DecidableEq

namespace Conditions

/-- The number of the next placeholder. -/
def next (c : Conditions) : Nat :=
  c.parameters.length + 1

/-- Conditions with one more, on the next placeholder, if there is a value for it. -/
def andOn (c : Conditions) (condition : Operand → Condition) : Option Value → Conditions
  | some v => ⟨c.conditions ++ [condition (.placeholder c.next)], c.parameters ++ [v]⟩
  | none => c

/-- Conditions with one more on a column, if there is a value for it. -/
def equal (c : Conditions) (column : String) (value : Option Value) : Conditions :=
  c.andOn (.equal column) value

/-- Counts the rows of a table that meet the conditions. -/
def count (c : Conditions) (table : String) : Bound :=
  ⟨.select { projection := .count, table := table, conditions := c.conditions }, c.parameters⟩

/-- Selects the rows of a table that meet the conditions. -/
def select (c : Conditions) (table : String) : Bound :=
  ⟨.select { table := table, conditions := c.conditions }, c.parameters⟩

/-- Selects a window of the rows of a table that meet the conditions. A negative limit is sent as zero, an offset only
when it passes over something. -/
def list (c : Conditions) (table : String) (w : Window) : Bound :=
  let limits := (w.limit.map fun n => Value.int (max n 0)).toList
  let offsets := if 0 < w.offset then [Value.int w.offset] else []
  let selection : Selection := {
    table := table
    conditions := c.conditions
    order := some (.directed w.direction)
    limit := if limits.isEmpty then none else some c.next
    offset := if offsets.isEmpty then none else some (c.next + limits.length) }
  ⟨.select selection, c.parameters ++ limits ++ offsets⟩

end Conditions

end Circulation.Sql
