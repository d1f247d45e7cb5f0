import Circulation.Proofs.Sql.Content
import Circulation.Proofs.Sql.Layout
import Circulation.Sql.Query

/-!
# What updates do

An update alters a record when it hits the rows that show the record under an id, if a condition holds of it, and
nothing else (`Update.Alters`). It then changes one row or none, and the database keeps the altered table
(`Bound.Alters.updates`). Each update of the desk alters a record as the draft does, so both end with the same rows and
the same answer (`moveCopy_updated` and its like).
-/

namespace Circulation.Sql

variable {α : Type} [Recorded α] {db : Database} {t : Table α} {id : Int}

/-! ## Altering a record -/

/-- Changes the record under an id if a condition on it holds, and answers whether it did. -/
def alter (t : Table α) (id : Int) (holds : α → Bool) (change : α → α) : Bool × Table α :=
  match t.get? id with
  | some a => if holds a then (true, t.insert id (change a)) else (false, t)
  | none => (false, t)

/-- Whether an update alters the record under an id. -/
structure Update.Alters (u : Update) (db : Database) (ps : List Value) (id : Int) (holds : α → Bool) (change : α → α) :
    Prop where
  table : u.table = Recorded.table α
  meets : ∀ (r : Row) (a : α), r.Shows a → u.meets db ps r = (decide (Listed.id a = id) && holds a)
  shows : ∀ (r : Row) (a : α), r.Shows a → (u.change ps r).Shows (change a)
  same : ∀ a : α, Listed.id (change a) = Listed.id a

namespace Update

variable {u : Update} {ps : List Value} {holds : α → Bool} {change : α → α}

/-- A changed row shows a record when the fields set do, and the rest is as it was. -/
theorem change_shows {r : Row} {a b : α} (h : r.Shows a)
    (hb : ∀ p ∈ Recorded.columns b,
      match (u.sets ps).lookup p.1 with
      | some w => w.Same p.2
      | none => p ∈ Recorded.columns a) : (u.change ps r).Shows b := by
  intro column v hm
  have hcolumn := hb (column, v) hm
  rw [get_change]
  cases hset : (u.sets ps).lookup column with
  | none =>
    rw [hset] at hcolumn
    exact h column v hcolumn
  | some w =>
    rw [hset] at hcolumn
    exact hcolumn

namespace Alters

/-- The rows after an update show the records, those hit changed. -/
theorem mapped (hu : u.Alters db ps id holds change) (h : db.Keeps t) :
    ∃ rows, ((u.run db ps).1 (Recorded.table α)).Perm rows ∧
      List.Forall₂ Row.Shows rows (t.rows.map fun a => if Listed.id a = id ∧ holds a = true then change a else a) := by
  obtain ⟨rows, hperm, hshow⟩ := h.rows
  refine ⟨rows.map fun r => if u.meets db ps r then u.change ps r else r, ?_, ?_⟩
  · rw [← hu.table] at hperm ⊢
    rw [run_table]
    exact hperm.map _
  · rw [List.forall₂_map_left_iff, List.forall₂_map_right_iff]
    refine hshow.imp ?_
    intro r a hr
    rw [hu.meets r a hr]
    by_cases hit : Listed.id a = id ∧ holds a = true
    · simp only [hit, decide_true, Bool.and_self, if_true, and_self]
      exact hu.shows r a hr
    · rw [if_neg hit, if_neg (by simpa using hit)]
      exact hr

/-- An update that alters a record changes as many rows as it finds. -/
theorem count (hu : u.Alters db ps id holds change) (h : db.Keeps t) :
    (u.run db ps).2 = (t.rows.filter fun a => decide (Listed.id a = id) && holds a).length := by
  rw [run, hu.table, h.length_filter hu.meets]

/-- An update that hits a record puts the changed one in its place. -/
theorem run_hit (hu : u.Alters db ps id holds change) (h : db.Keeps t) {a : α} (ha : t.get? id = some a)
    (hit : holds a = true) : (u.run db ps).1.Keeps (t.insert id (change a)) ∧ (u.run db ps).2 = 1 := by
  have haid : Listed.id a = id := h.own id a ha
  constructor
  · obtain ⟨rows, hperm, hshow⟩ := hu.mapped h
    refine Database.keeps_of_perm (h.own.insert ((hu.same a).trans haid)) hperm hshow (.of_eq ?_)
    rw [Table.rows_insert_of_get? ha, Table.rows, List.map_map]
    refine List.map_congr_left fun e he => ?_
    have hget : t.get? e.1 = some e.2 := Table.mem_entries.1 he
    have hid : Listed.id e.2 = e.1 := h.own e.1 e.2 hget
    by_cases heq : e.1 = id
    · obtain rfl : a = e.2 := Option.some.inj (ha.symm.trans (heq ▸ hget))
      simp [heq, haid, hit]
    · simp [hid, heq]
  · have hmem : a ∈ t.rows.filter fun a => decide (Listed.id a = id) && holds a := by
      rw [List.mem_filter]
      exact ⟨Table.mem_rows.2 ⟨id, ha⟩, by simp [haid, hit]⟩
    have hle := Table.length_filter_rows_le (t := t) (p := fun a => decide (Listed.id a = id) && holds a)
      (u := (.empty : Table α)) (q := fun _ => false) [id] ?_
    · have hpos := List.length_pos_of_mem hmem
      change _ ≤ 0 + 1 at hle
      rw [hu.count h]
      omega
    · intro j b hb hp
      simp only [Bool.and_eq_true, decide_eq_true_eq] at hp
      left
      rw [List.mem_singleton, ← h.own j b hb, hp.1]

/-- An update that hits nothing leaves the rows as they are. -/
theorem run_miss (hu : u.Alters db ps id holds change) (h : db.Keeps t)
    (hmiss : ∀ a, t.get? id = some a → holds a = false) : (u.run db ps).1.Keeps t ∧ (u.run db ps).2 = 0 := by
  have hnone : ∀ j a, t.get? j = some a → ¬(Listed.id a = id ∧ holds a = true) := by
    intro j a ha hit
    have hj : j = id := (h.own j a ha).symm.trans hit.1
    rw [hmiss a (hj ▸ ha)] at hit
    exact Bool.false_ne_true hit.2
  constructor
  · obtain ⟨rows, hperm, hshow⟩ := hu.mapped h
    refine Database.keeps_of_perm h.own hperm hshow (.of_eq ?_)
    refine (List.map_congr_left fun a ha => ?_).trans (List.map_id _)
    obtain ⟨j, hj⟩ := Table.mem_rows.1 ha
    exact if_neg (hnone j a hj)
  · rw [hu.count h, Table.filter_rows_eq_nil]
    · rfl
    · intro j a ha
      simpa using hnone j a ha

/-- An update alters the table, and counts one row if it did. -/
theorem run_eq (hu : u.Alters db ps id holds change) (h : db.Keeps t) :
    (u.run db ps).1.Keeps (alter t id holds change).2 ∧
      (u.run db ps).2 = if (alter t id holds change).1 then 1 else 0 := by
  unfold alter
  cases hget : t.get? id with
  | none => exact hu.run_miss h fun a ha => by simp [hget] at ha
  | some a =>
    by_cases hit : holds a = true
    · simp only [hit, if_true]
      exact hu.run_hit h hget hit
    · have hmiss := hu.run_miss h fun b hb => by
        obtain rfl : a = b := Option.some.inj (hget.symm.trans hb)
        simpa using hit
      simpa [hit] using hmiss

end Alters

end Update

/-- Whether a bound statement is an update that alters the record under an id. -/
def Bound.Alters (b : Bound) (db : Database) (id : Int) (holds : α → Bool) (change : α → α) : Prop :=
  ∃ u, b.statement = .update u ∧ u.Alters db b.parameters id holds change

namespace Bound.Alters

variable {b : Bound} {holds : α → Bool} {change : α → α}

/-- An update with parameters that are kept as they are alters a record when its conditions are those on the record and
its fields those that are changed. -/
theorem of_fields {u : Update} (hb : b.statement = .update u) (hexact : b.Exact) (htable : u.table = Recorded.table α)
    (hk : ∀ f ∈ u.fields, kindOf? u.table f.1 ≠ some .cents)
    (hmeets : ∀ (r : Row) (a : α), r.Shows a → u.meets db b.parameters r = (decide (Listed.id a = id) && holds a))
    (hfields : ∀ a, ∀ p ∈ Recorded.columns (change a),
      match (u.fields.map fun (column, o) => (column, o.value b.parameters)).lookup p.1 with
      | some w => w.Same p.2
      | none => p ∈ Recorded.columns a)
    (hsame : ∀ a, Listed.id (change a) = Listed.id a) : b.Alters db id holds change := by
  refine ⟨u, hb, htable, hmeets, ?_, hsame⟩
  intro r a hr
  apply Update.change_shows hr
  rw [u.sets_eq b hexact hk]
  exact hfields a

/-- What comes of an update that alters a record: the altered table, one row changed if it was altered and none
otherwise, and the other tables as they were. -/
theorem updates (hb : b.Alters db id holds change) (hexact : b.Exact) (h : db.Keeps t) :
    ∃ db', b.sent.Updates db db' (if (alter t id holds change).1 then 1 else 0) ∧
      db'.Keeps (alter t id holds change).2 ∧ ∀ table, table ≠ Recorded.table α → db' table = db table := by
  rw [hexact.sent_eq]
  obtain ⟨u, hu, halters⟩ := hb
  obtain ⟨hkeeps, hcount⟩ := halters.run_eq h
  refine ⟨(u.run db b.parameters).1, ⟨u, hu, Prod.ext rfl hcount⟩, hkeeps, ?_⟩
  intro table hne
  exact u.run_other db b.parameters (halters.table ▸ hne)

end Bound.Alters

/-! ## The updates -/

namespace Value

/-- Integers are compared as they are. -/
@[simp]
theorem equals_int (m n : Int) : (Value.int m).equals (.int n) = decide (m = n) := by
  simp [equals, Same]

/-- Truth values are compared as they are. -/
@[simp]
theorem equals_bool (b c : Bool) : (Value.bool b).equals (.bool c) = decide (b = c) := by
  simp [equals, Same]

/-- Statuses are compared as they are. -/
@[simp]
theorem equals_coded {β : Type} [Coded β] [DecidableEq β] (a b : β) :
    (Value.coded a).equals (.coded b) = decide (a = b) := by
  have hnumber : Coded.number a = Coded.number b ↔ a = b := ⟨Coded.number_inj a b, congrArg _⟩
  simp [coded, hnumber]

/-- An instant is null when it is missing. -/
@[simp]
theorem ofOption_instant_eq_null_iff (o : Option Instant) : ofOption .instant o = .null ↔ o = none := by
  cases o <;> simp [ofOption]

/-- An instant, missing or not, is no number. -/
@[simp]
theorem ofOption_instant_ne_numeric (o : Option Instant) (n : Numeric) : ofOption .instant o ≠ .numeric n := by
  cases o <;> simp [ofOption]

/-- A status is no number. -/
@[simp]
theorem coded_ne_numeric {β : Type} [Coded β] (a : β) (n : Numeric) : coded a ≠ .numeric n := by
  simp [coded]

end Value

/-- The update of a copy's status alters a copy that is not withdrawn and has the status expected. -/
theorem moveCopy_alters {k : Int} {expected status : CopyStatus} {now : Instant}
    (hexact : (moveCopy k expected status now).Exact) :
    (moveCopy k expected status now).Alters db k (fun c : Copy => !c.isDeleted && c.status = expected)
      fun c => { c with status := status, updatedAt := now } := by
  refine .of_fields rfl hexact rfl (by decide) ?_ ?_ fun _ => rfl
  · intro r c hr
    have hid : r.get "id" = .int c.id := hr.get_id
    have hstatus : r.get "status" = .coded c.status := hr.get (by simp [Recorded.columns])
    have hdeleted : r.get "deleted_at" = .ofOption .instant c.deletedAt := hr.get (by simp [Recorded.columns])
    rw [Bool.eq_iff_iff]
    simp [Update.meets, Condition.holds, moveCopy, Operand.value, hid, hstatus, hdeleted, Listed.id, Copy.isDeleted]
    tauto
  · intro c
    simp [Recorded.columns, moveCopy, Operand.value, List.lookup_cons, Value.Same.refl]

/-- The update that withdraws a copy alters one that is on the shelf and not withdrawn. -/
theorem withdrawCopy_alters {k : Int} {now : Instant} (hexact : (withdrawCopy k now).Exact) :
    (withdrawCopy k now).Alters db k (fun c : Copy => !c.isDeleted && c.status = .available)
      fun c => { c with deletedAt := some now, updatedAt := now } := by
  refine .of_fields rfl hexact rfl (by decide) ?_ ?_ fun _ => rfl
  · intro r c hr
    have hid : r.get "id" = .int c.id := hr.get_id
    have hstatus : r.get "status" = .coded c.status := hr.get (by simp [Recorded.columns])
    have hdeleted : r.get "deleted_at" = .ofOption .instant c.deletedAt := hr.get (by simp [Recorded.columns])
    rw [Bool.eq_iff_iff]
    simp [Update.meets, Condition.holds, withdrawCopy, Operand.value, hid, hstatus, hdeleted, Listed.id, Copy.isDeleted]
    tauto
  · intro c
    simp [Recorded.columns, withdrawCopy, Operand.value, List.lookup_cons, Value.Same.refl, Value.ofOption]

/-- The update of a loan alters one that is out with the renewals expected. -/
theorem updateLoan_alters {l : Loan} {expected : Int} (hexact : (updateLoan l expected).Exact) :
    (updateLoan l expected).Alters db l.id (fun row : Loan => row.isBorrowed && row.renewCount = expected)
      fun row => { row with
        status := l.status, dueDate := l.dueDate, returnDate := l.returnDate, renewCount := l.renewCount,
        updatedAt := l.updatedAt } := by
  refine .of_fields rfl hexact rfl (by decide) ?_ ?_ fun _ => rfl
  · intro r row hr
    have hid : r.get "id" = .int row.id := hr.get_id
    have hstatus : r.get "status" = .coded row.status := hr.get (by simp [Recorded.columns])
    have hcount : r.get "renew_count" = .int row.renewCount := hr.get (by simp [Recorded.columns])
    simp [Update.meets, Condition.holds, updateLoan, Operand.value, hid, hstatus, hcount, Listed.id, Loan.isBorrowed]
  · intro row
    simp [Recorded.columns, updateLoan, Operand.value, List.lookup_cons, Value.Same.refl]

/-- The update of a reservation's status alters one that has the status expected. -/
theorem moveReservation_alters {k : Int} {expected status : ReservationStatus} {now : Instant}
    (hexact : (moveReservation k expected status now).Exact) :
    (moveReservation k expected status now).Alters db k (fun r : Reservation => r.status = expected)
      fun r => { r with status := status, updatedAt := now } := by
  refine .of_fields rfl hexact rfl (by decide) ?_ ?_ fun _ => rfl
  · intro r x hr
    have hid : r.get "id" = .int x.id := hr.get_id
    have hstatus : r.get "status" = .coded x.status := hr.get (by simp [Recorded.columns])
    simp [Update.meets, Condition.holds, moveReservation, Operand.value, hid, hstatus, Listed.id]
  · intro x
    simp [Recorded.columns, moveReservation, Operand.value, List.lookup_cons, Value.Same.refl]

/-- The update that settles a fine alters one that is not settled. -/
theorem settleFine_alters {k : Int} {now : Instant} (hexact : (settleFine k now).Exact) :
    (settleFine k now).Alters db k (fun f : Fine => !f.settled) fun f => { f with settled := true, updatedAt := now } := by
  refine .of_fields rfl hexact rfl (by decide) ?_ ?_ fun _ => rfl
  · intro r f hr
    have hid : r.get "id" = .int f.id := hr.get_id
    have hsettled : r.get "settled" = .bool f.settled := hr.get (by simp [Recorded.columns])
    simp [Update.meets, Condition.holds, settleFine, Operand.value, hid, hsettled, Listed.id]
  · intro f
    simp [Recorded.columns, settleFine, Operand.value, List.lookup_cons, Value.Same.refl]

/-! ## What a request writes -/

/-- Whether what is sent for a request changes a database as the request changes a draft, with the same answer read from
the number of rows changed. -/
def Updated (q : Request) (db : Database) (work : Work) : Prop :=
  ∃ db' n, (ofRequest q).sent.Updates db db' n ∧ db'.KeepsAll (Work.answer q work).2.draft.tables ∧
    (Reply.changed n).answer q = (Work.answer q work).1

/-- A change of a copy alters the table of copies. -/
theorem changeCopy_eq (d : Draft) (k : Int) (holds : Copy → Bool) (change : Copy → Copy) :
    (d.changeCopy k holds change).1 = (alter d.tables.copies k holds change).1 ∧
      (d.changeCopy k holds change).2.tables =
        { d.tables with copies := (alter d.tables.copies k holds change).2 } := by
  unfold Draft.changeCopy alter
  cases d.tables.copies.get? k with
  | none => exact ⟨rfl, rfl⟩
  | some c =>
    by_cases h : holds c = true
    · simp [h, Draft.putCopy]
    · simp [h]

/-- A change of a loan alters the table of loans. -/
theorem updateLoan_eq (d : Draft) (l : Loan) (expected : Int) :
    let altered := alter d.tables.loans l.id (fun row : Loan => row.isBorrowed && row.renewCount = expected) fun row =>
      { row with
        status := l.status, dueDate := l.dueDate, returnDate := l.returnDate, renewCount := l.renewCount,
        updatedAt := l.updatedAt }
    (d.updateLoan l expected).1 = altered.1 ∧
      (d.updateLoan l expected).2.tables = { d.tables with loans := altered.2 } := by
  unfold Draft.updateLoan alter
  cases d.tables.loans.get? l.id with
  | none => exact ⟨rfl, rfl⟩
  | some row =>
    by_cases h : (row.isBorrowed && decide (row.renewCount = expected)) = true
    · simp [h, Draft.putLoan, Draft.guard]
    · simp [h]

/-- A change of a reservation alters the table of reservations. -/
theorem moveReservation_eq (d : Draft) (k : Int) (expected status : ReservationStatus) (now : Instant) :
    let altered := alter d.tables.reservations k (fun r : Reservation => r.status = expected) fun r =>
      { r with status := status, updatedAt := now }
    (d.moveReservation k expected status now).1 = altered.1 ∧
      (d.moveReservation k expected status now).2.tables = { d.tables with reservations := altered.2 } := by
  unfold Draft.moveReservation alter
  cases d.tables.reservations.get? k with
  | none => exact ⟨rfl, rfl⟩
  | some r =>
    by_cases h : r.status = expected
    · simp [h, Draft.putReservation]
    · simp [h]

/-- A settlement alters the table of fines. -/
theorem settleFine_eq (d : Draft) (k : Int) (now : Instant) :
    let altered := alter d.tables.fines k (fun f : Fine => !f.settled) fun f =>
      { f with settled := true, updatedAt := now }
    (d.settleFine k now).1 = altered.1 ∧ (d.settleFine k now).2.tables = { d.tables with fines := altered.2 } := by
  unfold Draft.settleFine alter
  cases d.tables.fines.get? k with
  | none => exact ⟨rfl, rfl⟩
  | some f =>
    by_cases h : f.settled = true
    · simp [h]
    · simp [h, Draft.putFine]

/-- What is read from one row changed or none. -/
theorem changed_eq_one (b : Bool) : decide ((if b then 1 else 0 : Int) = 1) = b := by
  cases b <;> rfl

/-- A row was changed exactly when the condition held. -/
theorem zero_lt_changed (b : Bool) : decide (0 < (if b then 1 else 0 : Int)) = b := by
  cases b <;> rfl

section Updates

variable {work : Work} (h : db.KeepsAll work.draft.tables)
include h

/-- A copy is moved in the database as in the draft. -/
theorem moveCopy_updated {k : Int} {expected status : CopyStatus} {now : Instant}
    (hm : (ofRequest (.moveCopy k expected status now)).InMicros) : Updated (.moveCopy k expected status now) db work := by
  have hexact : (moveCopy k expected status now).Exact := Bound.InMicros.exact hm (by simp [moveCopy])
  obtain ⟨db', hup, hkeeps, hother⟩ := (moveCopy_alters hexact).updates hexact h.copies
  obtain ⟨hanswer, htables⟩ := changeCopy_eq work.draft k (fun c => !c.isDeleted && c.status = expected) fun c =>
    { c with status := status, updatedAt := now }
  refine ⟨db', _, hup, ?_, ?_⟩
  · change db'.KeepsAll (work.draft.moveCopy k expected status now).2.tables
    rw [Draft.moveCopy, htables]
    exact h.withCopies hkeeps hother
  · change Except.ok _ = Except.ok (work.draft.moveCopy k expected status now).1
    rw [Draft.moveCopy, hanswer]
    exact congrArg _ (changed_eq_one _)

/-- A copy is withdrawn in the database as in the draft. -/
theorem withdrawCopy_updated {k : Int} {now : Instant} (hm : (ofRequest (.withdrawCopy k now)).InMicros) :
    Updated (.withdrawCopy k now) db work := by
  have hexact : (withdrawCopy k now).Exact := Bound.InMicros.exact hm (by simp [withdrawCopy])
  obtain ⟨db', hup, hkeeps, hother⟩ := (withdrawCopy_alters hexact).updates hexact h.copies
  obtain ⟨hanswer, htables⟩ := changeCopy_eq work.draft k (fun c => !c.isDeleted && c.status = .available) fun c =>
    { c with deletedAt := some now, updatedAt := now }
  refine ⟨db', _, hup, ?_, ?_⟩
  · change db'.KeepsAll (work.draft.withdrawCopy k now).2.tables
    rw [Draft.withdrawCopy, htables]
    exact h.withCopies hkeeps hother
  · change Except.ok _ = Except.ok (work.draft.withdrawCopy k now).1
    rw [Draft.withdrawCopy, hanswer]
    exact congrArg _ (changed_eq_one _)

/-- A loan is updated in the database as in the draft. -/
theorem updateLoan_updated {l : Loan} {expected : Int} (hm : (ofRequest (.updateLoan l expected)).InMicros) :
    Updated (.updateLoan l expected) db work := by
  have hexact : (updateLoan l expected).Exact := Bound.InMicros.exact hm (by simp [updateLoan])
  obtain ⟨db', hup, hkeeps, hother⟩ := (updateLoan_alters hexact).updates hexact h.loans
  obtain ⟨hanswer, htables⟩ := updateLoan_eq work.draft l expected
  refine ⟨db', _, hup, ?_, ?_⟩
  · change db'.KeepsAll (work.draft.updateLoan l expected).2.tables
    rw [htables]
    exact h.withLoans hkeeps hother
  · change Except.ok _ = Except.ok (work.draft.updateLoan l expected).1
    rw [hanswer]
    exact congrArg _ (zero_lt_changed _)

/-- A reservation is moved in the database as in the draft. -/
theorem moveReservation_updated {k : Int} {expected status : ReservationStatus} {now : Instant}
    (hm : (ofRequest (.moveReservation k expected status now)).InMicros) :
    Updated (.moveReservation k expected status now) db work := by
  have hexact : (moveReservation k expected status now).Exact := Bound.InMicros.exact hm (by simp [moveReservation])
  obtain ⟨db', hup, hkeeps, hother⟩ := (moveReservation_alters hexact).updates hexact h.reservations
  obtain ⟨hanswer, htables⟩ := moveReservation_eq work.draft k expected status now
  refine ⟨db', _, hup, ?_, ?_⟩
  · change db'.KeepsAll (work.draft.moveReservation k expected status now).2.tables
    rw [htables]
    exact h.withReservations hkeeps hother
  · change Except.ok _ = Except.ok (work.draft.moveReservation k expected status now).1
    rw [hanswer]
    exact congrArg _ (changed_eq_one _)

/-- A fine is settled in the database as in the draft. -/
theorem settleFine_updated {k : Int} {now : Instant} (hm : (ofRequest (.settleFine k now)).InMicros) :
    Updated (.settleFine k now) db work := by
  have hexact : (settleFine k now).Exact := Bound.InMicros.exact hm (by simp [settleFine])
  obtain ⟨db', hup, hkeeps, hother⟩ := (settleFine_alters hexact).updates hexact h.fines
  obtain ⟨hanswer, htables⟩ := settleFine_eq work.draft k now
  refine ⟨db', _, hup, ?_, ?_⟩
  · change db'.KeepsAll (work.draft.settleFine k now).2.tables
    rw [htables]
    exact h.withFines hkeeps hother
  · change Except.ok _ = Except.ok (work.draft.settleFine k now).1
    rw [hanswer]
    exact congrArg _ (changed_eq_one _)

end Updates

end Circulation.Sql
