import Circulation.Sql.Schema

/-!
# What statements mean

The usual meaning of a selection on a database, whose tables hold rows in no particular order: the rows that meet all
conditions, in any order that the clause of order allows, cut as the limit and the offset say. A comparison with null
holds of nothing. The text of a selection is a row of pieces, words and placeholders; `Selection.written_pieces` says
so, and makes the order of the placeholders that of the text.
-/

namespace Circulation.Sql

/-! ## Values -/

namespace Numeric

/-- The integer that the power of ten of the scale divides. -/
def mantissa (n : Numeric) : Int :=
  Decimal.signed n.negative n.magnitude

/-- Whether two numbers have one value, whatever their scales. -/
def Same (m n : Numeric) : Prop :=
  m.mantissa * 10 ^ n.scale = n.mantissa * 10 ^ m.scale

instance (m n : Numeric) : Decidable (m.Same n) := inferInstanceAs (Decidable (_ = _))

theorem Same.refl (n : Numeric) : n.Same n :=
  rfl

end Numeric

namespace Value

/-- Whether two values are the same, numbers by what they are worth. -/
def Same : Value → Value → Prop
  | .numeric m, .numeric n => m.Same n
  | v, w => v = w

instance (v w : Value) : Decidable (v.Same w) := by
  cases v <;> cases w <;> exact inferInstanceAs (Decidable (_ = _))

theorem Same.refl (v : Value) : v.Same v := by
  cases v <;> rfl

/-- Whether a comparison for equality holds. -/
def equals (v w : Value) : Bool :=
  v ≠ .null && v.Same w

/-- Whether a comparison for less holds. Texts are in an order of the database's own, and no statement compares them
so. -/
def less : Value → Value → Bool
  | .int m, .int n => m < n
  | .bool b, .bool c => !b && c
  | .numeric m, .numeric n => m.mantissa * 10 ^ n.scale < n.mantissa * 10 ^ m.scale
  | .instant t, .instant u => t < u
  | _, _ => false

end Value

/-- The value of an operand, given those of the placeholders: the first value is that of number one. -/
def Operand.value (ps : List Value) : Operand → Value
  | .placeholder 0 => .null
  | .placeholder (n + 1) => ps[n]?.getD .null
  | .truth b => .bool b
  | .number n => .int n

/-- The placeholder after some parameters stands for the next. -/
@[simp]
theorem Operand.value_next (ps more : List Value) (v : Value) :
    (Operand.placeholder (ps.length + 1)).value (ps ++ v :: more) = v := by
  simp [value]

/-! ## Selections -/

/-- A database: the rows of each table, in no particular order. -/
abbrev Database := String → List Row

/-- Whether a row of a database meets a condition. -/
def Condition.holds (db : Database) (ps : List Value) (r : Row) : Condition → Bool
  | .always => true
  | .isNull column => r.get column = .null
  | .equal column o => (r.get column).equals (o.value ps)
  | .less column o => (r.get column).less (o.value ps)
  | .references column table key o =>
    (db table).any fun s => (s.get key).equals (o.value ps) && (r.get column).equals (s.get "id")

/-- Whether a row comes before another in ascending order: created earlier, or at the same instant with a smaller
id. -/
def Row.before (r s : Row) : Bool :=
  (r.get "created_at").less (s.get "created_at") ||
    ((r.get "created_at").equals (s.get "created_at") && (r.get "id").less (s.get "id"))

/-- Whether an order allows a row to stand ahead of another. -/
def Order.Allows (o : Order) (r s : Row) : Prop :=
  match o with
  | .standard | .directed .ascending => ¬s.before r = true
  | .directed .descending => ¬r.before s = true

/-- What a projection makes of the rows. -/
def Projection.of (rows : List Row) : Projection → List Row
  | .everything => rows
  | .columns names => rows.map fun r => ⟨names.map fun name => (name, r.get name)⟩
  | .count => [⟨[("count", .int rows.length)]⟩]

/-- The number that a clause gives, if there is the clause; it must not be negative. -/
def clauseValue? (ps : List Value) : Option Nat → Option (Option Nat)
  | none => some none
  | some n =>
    match (Operand.placeholder n).value ps with
    | .int k => if 0 ≤ k then some (some k.toNat) else none
    | _ => none

@[simp]
theorem clauseValue?_none (ps : List Value) : clauseValue? ps none = some none := rfl

/-- The number of a clause whose placeholder comes after some parameters. -/
theorem clauseValue?_next (ps more : List Value) {n : Int} (hn : 0 ≤ n) :
    clauseValue? (ps ++ .int n :: more) (some (ps.length + 1)) = some (some n.toNat) := by
  simp only [clauseValue?, Operand.value_next]
  exact if_pos hn

/-- How a limit and an offset cut a list of rows, if they can be read. -/
def cut? (ps : List Value) (limit offset : Option Nat) : Option (List Row → List Row) := do
  let most ← clauseValue? ps limit
  let skipped ← clauseValue? ps offset
  return fun rows =>
    let rows := rows.drop (skipped.getD 0)
    match most with
    | some n => rows.take n
    | none => rows

/-- Whether a database may give rows to a selection. -/
def Selection.Gives (s : Selection) (db : Database) (ps : List Value) (out : List Row) : Prop :=
  ∃ ordered cut, ordered.Perm ((db s.table).filter fun r => s.conditions.all (·.holds db ps r)) ∧
    (∀ o ∈ s.order, ordered.Pairwise o.Allows) ∧ cut? ps s.limit s.offset = some cut ∧
    out = cut (s.projection.of ordered)

/-- Whether a database may give rows to a bound statement that selects. -/
def Bound.Gives (b : Bound) (db : Database) (out : List Row) : Prop :=
  ∃ s, b.statement = .select s ∧ s.Gives db b.parameters out

/-! ## The text of a selection -/

/-- A piece of a statement as it is written: words, or the placeholder with a number. -/
inductive Piece where
  | words (s : String)
  | mark (n : Nat)

namespace Piece

/-- A piece as it is written. -/
def text : Piece → String
  | .words s => s
  | .mark n => "$" ++ toString n

/-- The number of a placeholder. -/
def number? : Piece → Option Nat
  | .words _ => none
  | .mark n => some n

end Piece

/-- Pieces as they are written, one after the other. -/
def written : List Piece → String
  | [] => ""
  | p :: rest => p.text ++ written rest

/-- The numbers of the placeholders of a text, in order. -/
def numbers (ps : List Piece) : List Nat :=
  ps.filterMap Piece.number?

@[simp]
theorem written_nil : written [] = "" := rfl

@[simp]
theorem written_cons (p : Piece) (ps : List Piece) : written (p :: ps) = p.text ++ written ps := rfl

/-- Pieces are written one after the other. -/
@[simp]
theorem written_append (ps qs : List Piece) : written (ps ++ qs) = written ps ++ written qs := by
  induction ps with
  | nil => simp
  | cons p ps ih => simp [ih, String.append_assoc]

/-- Placeholders are numbered through pieces and further pieces. -/
@[simp]
theorem numbers_append (ps qs : List Piece) : numbers (ps ++ qs) = numbers ps ++ numbers qs :=
  List.filterMap_append

/-- Parts with a word between them are written with that word between. -/
theorem written_intercalate (word : String) (parts : List (List Piece)) :
    written ([.words word].intercalate parts) = word.intercalate (parts.map written) := by
  induction parts with
  | nil => rfl
  | cons part rest ih =>
    cases rest with
    | nil => simp
    | cons next rest =>
      rw [List.intercalate_cons_cons, written_append, written_append, ih]
      simp [String.intercalate_cons_cons, Piece.text]

/-- A word between parts has no placeholder. -/
theorem numbers_intercalate (word : String) (parts : List (List Piece)) :
    numbers ([.words word].intercalate parts) = parts.flatMap numbers := by
  induction parts with
  | nil => rfl
  | cons part rest ih =>
    cases rest with
    | nil => simp
    | cons next rest =>
      rw [List.intercalate_cons_cons, numbers_append, numbers_append, ih]
      simp [numbers, Piece.number?]

/-- The pieces of an operand. -/
def Operand.pieces : Operand → List Piece
  | .placeholder n => [.mark n]
  | o => [.words o.text]

/-- The pieces of a condition. -/
def Condition.pieces : Condition → List Piece
  | .equal column value => .words (column ++ " = ") :: value.pieces
  | .less column value => .words (column ++ " < ") :: value.pieces
  | .references column table key value =>
    .words (column ++ " IN (SELECT id FROM " ++ table ++ " WHERE " ++ key ++ " = ") :: value.pieces ++ [.words ")"]
  | c => [.words c.text]

/-- The pieces of a clause. -/
def clausePieces (keyword : String) : Option Nat → List Piece
  | some n => [.words (" " ++ keyword ++ " "), .mark n]
  | none => []

/-- The pieces of a selection. -/
def Selection.pieces (s : Selection) : List Piece :=
  .words ("SELECT " ++ s.projection.text ++ " FROM " ++ s.table ++ " WHERE ") ::
    [.words " AND "].intercalate (s.conditions.map Condition.pieces) ++ [.words ((s.order.map Order.text).getD "")] ++
    clausePieces "LIMIT" s.limit ++ clausePieces "OFFSET" s.offset ++ [.words (if s.locking then " FOR UPDATE" else "")]

/-- The pieces of an operand are written as its text. -/
@[simp]
theorem Operand.written_pieces (o : Operand) : written o.pieces = o.text := by
  cases o <;> simp [pieces, Piece.text, text]

/-- The pieces of a condition are written as its text. -/
@[simp]
theorem Condition.written_pieces (c : Condition) : written c.pieces = c.text := by
  cases c <;> simp [pieces, Piece.text, text, String.append_assoc]

/-- The pieces of a clause are written as its text. -/
@[simp]
theorem written_clausePieces (keyword : String) (n : Option Nat) :
    written (clausePieces keyword n) = clauseText keyword n := by
  cases n <;> simp [clausePieces, clauseText, Piece.text, Operand.text]

/-- A selection is written piece by piece. -/
theorem Selection.written_pieces (s : Selection) : written s.pieces = s.text := by
  have hc : written ∘ Condition.pieces = Condition.text := funext Condition.written_pieces
  simp [pieces, text, written_intercalate, conditionsText, Piece.text, hc, String.append_assoc]

/-- The placeholders of a selection in the order of its text: those of its conditions, of the limit and of the
offset. -/
theorem Selection.numbers_pieces (s : Selection) :
    numbers s.pieces = s.conditions.flatMap (numbers ·.pieces) ++ s.limit.toList ++ s.offset.toList := by
  have hclause : ∀ keyword n, numbers (clausePieces keyword n) = n.toList := by
    intro keyword n
    cases n <;> rfl
  have hwords : ∀ s ps, numbers (.words s :: ps) = numbers ps := fun _ _ => rfl
  have hnil : numbers [] = [] := rfl
  simp [pieces, hwords, hnil, hclause, numbers_intercalate, List.flatMap_map]

/-- Whether the placeholders of a bound statement that selects are numbered from one on, in the order of its text, with
a parameter for each. -/
def Bound.Numbered (b : Bound) : Prop :=
  ∃ s, b.statement = .select s ∧ numbers s.pieces = List.range' 1 b.parameters.length

/-! ## What is sent -/

/-- A bound statement as it is sent, its parameters as the database keeps them. -/
def Bound.sent (b : Bound) : Bound :=
  { b with parameters := b.parameters.map Value.stored }

/-- Whether an instant is a whole number of microseconds. -/
def InMicros (t : Instant) : Prop :=
  t.cutToMicros = t

instance (t : Instant) : Decidable (InMicros t) := inferInstanceAs (Decidable (_ = _))

/-- Parameters without numbers are kept as they are when their instants are whole microseconds. -/
theorem Value.stored_eq {v : Value} (hn : ∀ n, v ≠ .numeric n) (ht : ∀ t, v = .instant t → InMicros t) : v.stored = v := by
  cases v with
  | numeric n => exact absurd rfl (hn n)
  | instant t => exact congrArg Value.instant (ht t rfl)
  | _ => rfl

/-- Whether all instants among the parameters of a bound statement are whole numbers of microseconds. -/
def Bound.InMicros (b : Bound) : Prop :=
  ∀ t, .instant t ∈ b.parameters → Sql.InMicros t

/-- Whether the database keeps the parameters of a bound statement as they are. -/
def Bound.Exact (b : Bound) : Prop :=
  ∀ v ∈ b.parameters, v.stored = v

/-- With whole microseconds and no numbers among them the parameters are kept as they are. -/
theorem Bound.InMicros.exact {b : Bound} (ht : b.InMicros) (hn : ∀ v ∈ b.parameters, ∀ n, v ≠ .numeric n) :
    b.Exact := by
  intro v hv
  refine Value.stored_eq (hn v hv) ?_
  rintro t rfl
  exact ht t hv

/-- With exact parameters what is sent is the statement itself. -/
theorem Bound.Exact.sent_eq {b : Bound} (h : b.Exact) : b.sent = b := by
  have hmap : b.parameters.map Value.stored = b.parameters :=
    (List.map_congr_left h).trans (List.map_id _)
  unfold sent
  rw [hmap]

/-- What an operand stands for is kept as it is. -/
theorem Bound.Exact.stored_value {b : Bound} (h : b.Exact) (o : Operand) :
    (o.value b.parameters).stored = o.value b.parameters := by
  cases o with
  | placeholder n =>
    cases n with
    | zero => rfl
    | succ n =>
      simp only [Operand.value]
      cases hv : b.parameters[n]? with
      | none => rfl
      | some v => exact h v (List.mem_of_getElem? hv)
  | truth c => rfl
  | number n => rfl

/-- A connection sends a bound statement as the database keeps its parameters. -/
theorem Connection.ask_log (c : Connection) (b : Bound) : (c.ask b).2.log = c.log ++ [.statement b.sent] := by
  unfold ask
  simp only
  split <;> rfl

end Circulation.Sql
