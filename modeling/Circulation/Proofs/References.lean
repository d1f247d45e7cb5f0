import Circulation.Proofs.LateReturns
import Circulation.Proofs.Serial

/-!
# References

Rows name each other by id: a copy its title, a loan and a reservation their copy, an entry of a history and a fine their
loan, and loans and reservations repeat the title of their copy. Main statement: whatever a row names is there, with the
title that is repeated, in the committed tables and in the view of every transaction at rest; so what the desk tells of a
loan, a reservation, a fine or a copy is never cut short for want of another row (`no_dangling_references`). Rows last,
with the ids that they name, so a name that once led to a row leads to it in every table that follows.
-/

namespace Circulation

/-! ## Rows that name others -/

namespace Tables

/-- Whether there is a copy with an id, of a title. -/
def HasCopy (t : Tables) (copyId bookId : Int) : Prop :=
  ∃ c, t.copies.get? copyId = some c ∧ c.bookId = bookId

/-- Whether every copy is of a title of the catalogue. -/
def Titled (t : Tables) : Prop :=
  t.copies.All fun c => t.books.contains c.bookId = true

/-- Whether loans and reservations are of copies that there are, of the title they repeat, and entries and fines of loans
that there are. -/
structure Linked (t : Tables) : Prop where
  loans : t.loans.All fun l => t.HasCopy l.copyId l.bookId
  reservations : t.reservations.All fun r => t.HasCopy r.copyId r.bookId
  entries : t.entries.All fun e => t.loans.contains e.loanId = true
  fines : t.fines.All fun f => t.loans.contains f.loanId = true

variable {t t' : Tables}

theorem Linked.empty : Linked {} where
  loans _ _ h := nomatch h
  reservations _ _ h := nomatch h
  entries _ _ h := nomatch h
  fines _ _ h := nomatch h

/-- A copy that lasts keeps its title. -/
theorem HasCopy.kept {c b : Int} (h : t.HasCopy c b) (hk : t.copies.Kept t'.copies) : t'.HasCopy c b := by
  obtain ⟨a, ha, hab⟩ := h
  obtain ⟨a', ha', hlast⟩ := hk c a ha
  exact ⟨a', ha', (congrArg Copy.bookId hlast).trans hab⟩

/-- Links speak of copies, loans, entries, reservations and fines alone. -/
theorem Linked.congr (h : t.Linked) (ht : t' = { t with books := t'.books, users := t'.users }) : t'.Linked := by
  rw [ht]
  exact ⟨h.loans, h.reservations, h.entries, h.fines⟩

end Tables

namespace Draft

variable {d : Draft}

/-- A copy that repeats what lasts of the one before it leaves the tables linked. -/
theorem linked_putCopy (h : d.tables.Linked) {id : Int} {c : Copy}
    (hc : ∀ b, d.tables.copies.get? id = some b → Lasting.lasting c = Lasting.lasting b) :
    (d.putCopy c id).tables.Linked where
  loans i l hl := (h.loans i l hl).kept (Table.kept_insert hc)
  reservations i r hr := (h.reservations i r hr).kept (Table.kept_insert hc)
  entries := h.entries
  fines := h.fines

/-- A loan of a copy that there is leaves the tables linked. -/
theorem linked_putLoan (h : d.tables.Linked) {id : Int} {l : Loan} (hl : d.tables.HasCopy l.copyId l.bookId) :
    (d.putLoan l id).tables.Linked where
  loans := h.loans.insert hl
  reservations := h.reservations
  entries i e he := by simp [putLoan, h.entries i e he]
  fines i f hf := by simp [putLoan, h.fines i f hf]

/-- An entry of a loan that there is leaves the tables linked. -/
theorem linked_putEntry (h : d.tables.Linked) {id : Int} {e : LoanEntry} (he : d.tables.loans.contains e.loanId = true) :
    (d.putEntry e id).tables.Linked :=
  ⟨h.loans, h.reservations, h.entries.insert he, h.fines⟩

/-- A reservation of a copy that there is leaves the tables linked. -/
theorem linked_putReservation (h : d.tables.Linked) {id : Int} {r : Reservation}
    (hr : d.tables.HasCopy r.copyId r.bookId) : (d.putReservation r id).tables.Linked :=
  ⟨h.loans, h.reservations.insert hr, h.entries, h.fines⟩

/-- A fine of a loan that there is leaves the tables linked. -/
theorem linked_putFine (h : d.tables.Linked) {id : Int} {f : Fine} (hf : d.tables.loans.contains f.loanId = true) :
    (d.putFine f id).tables.Linked :=
  ⟨h.loans, h.reservations, h.entries, h.fines.insert hf⟩

/-- A loan is kept with an entry of its own history. -/
theorem linked_record (h : d.tables.Linked) {l : Loan} {e : LoanEntry} (hl : d.tables.HasCopy l.copyId l.bookId)
    (he : e.loanId = l.id) : (d.record l e).tables.Linked := by
  refine linked_putEntry (linked_putLoan h hl) ?_
  simp [putLoan, he]

/-- A copy that is moved keeps its title. -/
theorem linked_moved (h : d.tables.Linked) {c : Copy} (hc : d.tables.copies.get? c.id = some c) (status : CopyStatus)
    (t : Instant) : (d.moved c status t).tables.Linked := by
  refine linked_putCopy h fun b hb => ?_
  cases hc.symm.trans hb
  rfl

/-- A hold that is fulfilled leaves the tables linked. -/
theorem linked_fulfilled (h : d.tables.Linked) {r : Reservation} (hr : d.tables.reservations.get? r.id = some r)
    (t : Instant) : (d.fulfilled r t).tables.Linked :=
  linked_putReservation (r := { r with status := .fulfilled, updatedAt := t }) h (h.reservations r.id r hr)

/-- A copy that a draft holds is there. -/
theorem Holding.hasCopy {c : Copy} (hc : d.Holding c) : d.tables.HasCopy c.id c.bookId :=
  ⟨c, hc.row, rfl⟩

end Draft

section

variable {rules : Rules} {policy : Policy} {base : Ledger} {d d' : Draft} {m m' : Moment} {c : Copy} {l : Loan}

/-- A loan that is opened is of a copy that there is, and its entry is of that loan. -/
theorem Opened.linked {userId : Int} (ho : Opened rules policy d m c userId l d' m') (h : d.tables.Linked)
    (hc : d.tables.HasCopy c.id c.bookId) : d'.tables.Linked := by
  cases ho
  exact Draft.linked_record h hc rfl

/-- A renewal leaves the tables linked. -/
theorem Renewed.linked (hr : Renewed rules policy d m l d' m') (h : d.tables.Linked) : d'.tables.Linked := by
  cases hr with
  | @intro t due _ _ _ hl => exact Draft.linked_record (l := l.extended due t) h (h.loans l.id l hl) rfl

/-- A fine that is charged is of a loan that there is. -/
theorem Charged.linked {t : Instant} {n n' : Int} (hf : Charged policy d n l t d' n') (h : d.tables.Linked)
    (hl : d.tables.loans.contains l.id = true) : d'.tables.Linked := by
  cases hf with
  | none => exact h
  | fine => exact Draft.linked_putFine h hl

/-- A return leaves the tables linked. -/
theorem Returned.linked (hr : Returned rules policy d m l d' m') (h : d.tables.Linked) : d'.tables.Linked := by
  cases hr with
  | @intro t d₁ _ _ _ _ hl _ _ _ hf =>
    have h₁ := hf.linked h (Table.contains_of_get? hl)
    have hl₁ : d₁.tables.loans.get? l.id = some l := by rw [hf.frame.2.loans]; exact hl
    exact Draft.linked_record (d := d₁.guard l.id l.renewCount) (l := l.closed t) h₁ (h₁.loans l.id l hl₁) rfl

/-- Making a copy ready leaves the tables linked. -/
theorem Released.linked {userId : Int} (hr : Released d c userId d') (h : d.tables.Linked) : d'.tables.Linked := by
  cases hr with
  | shelf => exact h
  | hold r t _ hrow => exact Draft.linked_fulfilled h hrow t

/-- A move names no row that is not there. -/
theorem Move.linked (hm : Move rules policy d m d' m') (hs : d.Stands base m.lastId) (h : d.tables.Linked) :
    d'.tables.Linked := by
  cases hm with
  | lock c _ => exact h
  | @borrow c _ _ d₁ d₂ _ t hc _ hr ho =>
    have hc₁ : d₁.tables.copies.get? c.id = some c := by rw [hr.frame.1]; exact hc.row
    have hc₂ : d₂.tables.copies.get? c.id = some c := by rw [ho.frame.copies]; exact hc₁
    exact Draft.linked_moved (ho.linked (hr.linked h) ⟨c, hc₁, rfl⟩) hc₂ .onLoan t
  | @takeBack c _ d₁ _ t hc _ _ hr =>
    have hc₁ : d₁.tables.copies.get? c.id = some c := by rw [hr.frame.copies]; exact hc.row
    exact Draft.linked_moved (hr.linked h) hc₁ .available t
  | renew _ _ _ hr => exact hr.linked h
  | reserve t' hc =>
    refine Draft.linked_moved (Draft.linked_putReservation h ?_) hc.row .onReserve t'
    exact hc.hasCopy
  | cancel t t' hc _ hr => exact Draft.linked_moved (Draft.linked_fulfilled h hr t) hc.row .available t'
  | @addCopy _ k _ _ _ _ hk _ =>
    refine Draft.linked_putCopy h fun b hb => ?_
    cases (hs.copies.keyed.none_of_lt hk).symm.trans hb
  | @withdraw c t hc =>
    refine Draft.linked_putCopy h fun b hb => ?_
    cases hc.row.symm.trans hb
    rfl
  | @settle f t hf => exact Draft.linked_putFine (f := { f with settled := true, updatedAt := t }) h (h.fines f.id f hf)

end

/-! ## Commits -/

/-- After a commit everything is linked that was linked in the draft and in the ledger. -/
theorem Committing.linked {l l' : Ledger} {x : Transaction} {committed : List Transaction}
    (h : Committing l x committed l') (hl : l.tables.Linked) (hd : x.draft.tables.Linked) : l'.tables.Linked := by
  have hledger := h.since'
  have hcopies : x.draft.tables.copies.Kept l'.tables.copies := by
    rw [h.eq]
    exact h.stands.copies.draft_kept h.since.copies
  have hloans : x.draft.tables.loans.Kept l'.tables.loans := by
    rw [h.eq]
    exact h.stands.loans.draft_kept h.since.loans
  refine ⟨fun i a ha => ?_, fun i a ha => ?_, fun i a ha => ?_, fun i a ha => ?_⟩
  · rw [h.loans] at ha
    split at ha
    · exact (hd.loans i a ha).kept hcopies
    · exact (hl.loans i a ha).kept hledger.copies
  · rw [h.reservations] at ha
    split at ha
    · exact (hd.reservations i a ha).kept hcopies
    · exact (hl.reservations i a ha).kept hledger.copies
  · rw [h.entries] at ha
    split at ha
    · exact hloans.contains (hd.entries i a ha)
    · exact hledger.loans.contains (hl.entries i a ha)
  · rw [h.fines] at ha
    split at ha
    · exact hloans.contains (hd.fines i a ha)
    · exact hledger.loans.contains (hl.fines i a ha)

/-- The discipline of linked tables, which transactions of desk operations keep. -/
def linking (policy : Policy) : Discipline (Rules.desk policy) where
  Good l _ _ := l.tables.Linked
  Fit _ d _ _ := d.tables.Linked
  Moved _ _ _ := True
  good_start _ _ := .empty
  good_grown hg h := h.congr hg.tables
  good_later _ h := h
  moved_grown _ := trivial
  moved_trans _ _ := trivial
  fit_begin _ h := h
  fit_later _ h := h
  fit_call := by
    rintro base d hand m p - hs - hfit ⟨o, rfl⟩
    refine (o.keeps (I := fun d _ => d.tables.Linked) hs hfit (fun _ _ _ _ h => h) ?_).mono
      (fun _ _ _ h => h.2) fun _ _ h _ => h
    intro d m d' m' hs hmove h
    exact hmove.linked hs h
  commit _ hcom hl _ _ hfit := ⟨hcom.linked hl hfit, trivial⟩

/-! ## Titles -/

/-- A change adds copies of titles of the catalogue only, and a copy keeps its title. -/
theorem Draft.Change.titled {d d' : Draft} {n n' : Int} (h : d.Change n d' n') (ht : d.tables.Titled) :
    d'.tables.Titled := by
  cases h with
  | newCopy c k _ hb => exact Table.All.insert ht hb
  | copy id c c' hc _ hlast =>
    have hbook := congrArg Copy.bookId hlast
    refine Table.All.insert ht ?_
    have hsame : c'.bookId = c.bookId := hbook
    rw [hsame]
    exact ht id c hc
  | _ => exact ht

/-- Every copy is of a title of the catalogue, whatever transactions ask for: in the committed tables, and in the tables that
an open transaction began with. -/
theorem Recorded.titled {rules : Rules} {b : Logbook} (h : Recorded rules b) :
    b.traffic.ledger.tables.Titled ∧ ∀ k x, b.traffic.opened k = some x → x.base.tables.Titled := by
  induction h with
  | start t _ =>
    refine ⟨fun _ _ hc => ?_, fun _ _ hx => ?_⟩
    · cases hc
    · cases hx
  | @act b a hb _ ih =>
    have hs := hb.reachable.sound
    have hkeeps := hb.reachable.keeps_act a
    refine ⟨fun i c hc => ?_, fun k x hx => ?_⟩
    · -- The title of a copy is in the ledger before the action, and the action changes no title.
      suffices hbook : b.traffic.ledger.tables.books.contains c.bookId = true by
        obtain ⟨book, hbook⟩ := Table.contains_iff.1 hbook
        exact Table.contains_of_get? (hkeeps.books _ book hbook)
      rcases b.traffic.act_ledger_cases a with ⟨-, hg⟩ | ⟨k, x, l, rfl, hx, -, hl, he⟩
      · have hc : (b.traffic.act a).ledger.tables.copies.get? i = some c := hc
        rw [hg.tables] at hc
        exact ih.1 i c hc
      · have hcom := hs.committing hx hl
        simp only [Logbook.act, he, hcom.copies] at hc
        split at hc
        · have hdraft : x.draft.tables.Titled := hb.reachable.draft_keeps hx (ih.2 k x hx) fun _ _ _ _ _ hc => hc.titled
          have hbook := hdraft i c hc
          rw [hcom.stands.books] at hbook
          obtain ⟨book, hbook⟩ := Table.contains_iff.1 hbook
          exact Table.contains_of_get? ((hb.keeps hx).books _ book hbook)
        · exact ih.1 i c hc
    · rcases b.act_turns a hx with ⟨rfl, -⟩ | ⟨y, ds, hy, hturns, -⟩
      · exact ih.1
      · rw [hturns.base.1]
        exact ih.2 k y hy

/-! ## What is told -/

namespace Procedure

variable {α β : Type} {d : Draft} {P : Except Stop α → Prop}

/-- Whether a procedure reads a draft without changing it and ends as a condition says, whatever the clock reads. -/
def Consults (p : Procedure α) (d : Draft) (P : Except Stop α → Prop) : Prop :=
  ∀ timeline n readings, ∃ r readings', p.run (Work.store timeline) ⟨d, n, readings⟩ = (r, ⟨d, n, readings'⟩) ∧ P r

/-- A result that is as it should be is one to end with. -/
theorem consults_done {a : α} (h : P (.ok a)) : (Procedure.done a).Consults d P :=
  fun _ _ readings => ⟨_, readings, rfl, h⟩

/-- A stop that is as it should be is one to end with. -/
theorem consults_stop {why : Stop} (h : P (.error why)) : (Procedure.stop why).Consults d P :=
  fun _ _ readings => ⟨_, readings, rfl, h⟩

/-- What consults a draft whatever the clock reads may read it. -/
theorem consults_now {f : Instant → Procedure α} (h : ∀ t, (f t).Consults d P) : (now.bind f).Consults d P :=
  fun timeline n readings => h (timeline readings) timeline n (readings + 1)

/-- What follows on a consultation that ends well consults the same draft. -/
theorem consults_bind {p : Procedure β} {f : β → Procedure α} {Q : Except Stop β → Prop} (h : p.Consults d Q)
    (hok : ∀ b, Q (.ok b) → (f b).Consults d P) (herror : ∀ why, Q (.error why) → P (.error why)) :
    (p.bind f).Consults d P := by
  intro timeline n readings
  obtain ⟨r, readings', hrun, hr⟩ := h timeline n readings
  simp only [run_bind, hrun]
  cases r with
  | ok b => exact hok b hr timeline n readings'
  | error why => exact ⟨_, readings', rfl, herror why hr⟩

/-- A request that is answered from the draft. -/
theorem consults_request {q : Request} {f : q.Answer → Procedure α} (a : q.Answer)
    (hq : ∀ n readings, Work.answer q ⟨d, n, readings⟩ = (.ok a, ⟨d, n, readings⟩)) (h : (f a).Consults d P) :
    ((request q).bind f).Consults d P := by
  refine consults_bind (Q := fun r => r = .ok a) (fun timeline n readings => ⟨.ok a, readings, ?_, rfl⟩) ?_ ?_
  · rw [run_request]
    exact hq n readings
  · rintro b hb
    cases hb
    exact h
  · intro why hwhy
    cases hwhy

/-- A request that is answered, whatever it is answered with. -/
theorem consults_read {q : Request} {f : q.Answer → Procedure α} {answer : Work → q.Answer}
    (hq : ∀ w, Work.answer q w = w.read (answer w)) (h : ∀ a, (f a).Consults d P) :
    ((request q).bind f).Consults d P := by
  intro timeline n readings
  obtain ⟨r, readings', hrun, hr⟩ := h (answer ⟨d, n, readings⟩) timeline n readings
  refine ⟨r, readings', ?_, hr⟩
  simp only [run_bind, run_request, Work.store, hq, Work.read]
  exact hrun

/-- What is there is gone on with. -/
theorem consults_require_some {b : β} {why : Refusal} {f : β → Procedure α} (h : (f b).Consults d P) :
    ((require (some b) why).bind f).Consults d P := h

/-- What is not there is refused. -/
theorem consults_require_none {why : Refusal} {f : β → Procedure α} (h : P (.error (.refused why))) :
    ((require none why).bind f).Consults d P := consults_stop h

/-- Whether a procedure gives what it is asked for when that is there, and otherwise says that it is not. -/
def Finds (p : Procedure α) (d : Draft) (there : Bool) (what : Missing) : Prop :=
  p.Consults d fun r => match there with
    | true => ∃ a, r = .ok a
    | false => r = .error (.refused (.notFound what))

end Procedure

open Procedure

section

variable {d : Draft}

/-- What a name leads to is a copy of a title of the catalogue. -/
theorem Tables.HasCopy.titled {t : Tables} {c b : Int} (h : t.HasCopy c b) (ht : t.Titled) :
    ∃ copy book, t.copies.get? c = some copy ∧ t.books.get? b = some book := by
  obtain ⟨copy, hcopy, rfl⟩ := h
  obtain ⟨book, hbook⟩ := Table.contains_iff.1 (ht c copy hcopy)
  exact ⟨copy, book, hcopy, hbook⟩

/-- A loan is shown with its details when it is there, and is not found otherwise. -/
theorem Lending.details_finds (h : d.tables.Linked) (ht : d.tables.Titled) (id : Int) :
    (details id).Finds d (d.tables.loans.contains id) (.loan id) := by
  simp only [details, get, entries, Charges.ofLoan, bind_eq, pure_eq, Procedure.bind_assoc]
  refine consults_request (d.tables.loans.get? id) (fun _ _ => rfl) ?_
  cases hl : d.tables.loans.get? id with
  | none =>
    simp only [Table.contains, hl]
    exact consults_require_none rfl
  | some l =>
    obtain ⟨copy, book, hcopy, hbook⟩ := (h.loans id l hl).titled ht
    rw [Table.contains_of_get? hl]
    refine consults_require_some (consults_request (d.tables.copies.get? l.copyId) (fun _ _ => rfl) ?_)
    rw [hcopy]
    refine consults_require_some (consults_request (d.tables.books.get? l.bookId) (fun _ _ => rfl) ?_)
    rw [hbook]
    refine consults_require_some (consults_read (fun _ => rfl) fun borrower => ?_)
    refine consults_read (fun _ => rfl) fun entries => consults_read (fun _ => rfl) fun fines => ?_
    exact consults_now fun t => consults_done ⟨_, rfl⟩

/-- A reservation is shown with its details when it is there, and is not found otherwise. -/
theorem Holds.details_finds (h : d.tables.Linked) (ht : d.tables.Titled) (id : Int) :
    (details id).Finds d (d.tables.reservations.contains id) (.reservation id) := by
  simp only [details, get, bind_eq, pure_eq, Procedure.bind_assoc]
  refine consults_request (d.tables.reservations.get? id) (fun _ _ => rfl) ?_
  cases hr : d.tables.reservations.get? id with
  | none =>
    simp only [Table.contains, hr]
    exact consults_require_none rfl
  | some r =>
    obtain ⟨copy, book, hcopy, hbook⟩ := (h.reservations id r hr).titled ht
    rw [Table.contains_of_get? hr]
    refine consults_require_some (consults_request (d.tables.copies.get? r.copyId) (fun _ _ => rfl) ?_)
    rw [hcopy]
    refine consults_require_some (consults_request (d.tables.books.get? r.bookId) (fun _ _ => rfl) ?_)
    rw [hbook]
    exact consults_require_some (consults_read (fun _ => rfl) fun user => consults_done ⟨_, rfl⟩)

/-- A fine is shown with its details when it is there, and is not found otherwise. -/
theorem Charges.details_finds (h : d.tables.Linked) (id : Int) :
    (details id).Finds d (d.tables.fines.contains id) (.fine id) := by
  simp only [details, get, bind_eq, pure_eq, Procedure.bind_assoc]
  refine consults_request (d.tables.fines.get? id) (fun _ _ => rfl) ?_
  cases hf : d.tables.fines.get? id with
  | none =>
    simp only [Table.contains, hf]
    exact consults_require_none rfl
  | some f =>
    obtain ⟨loan, hloan⟩ := Table.contains_iff.1 (h.fines id f hf)
    rw [Table.contains_of_get? hf]
    refine consults_require_some (consults_request (d.tables.loans.get? f.loanId) (fun _ _ => rfl) ?_)
    rw [hloan]
    exact consults_require_some (consults_done ⟨_, rfl⟩)

namespace Desk

/-- The records of loans are always given. -/
theorem loanRecords_consults (loans : List Loan) : (loanRecords loans).Consults d fun r => ∃ records, r = .ok records := by
  induction loans with
  | nil => exact consults_done ⟨_, rfl⟩
  | cons loan loans ih =>
    simp only [loanRecords, Lending.entries, Charges.ofLoan, bind_eq, pure_eq]
    refine consults_read (fun _ => rfl) fun entries => consults_read (fun _ => rfl) fun fines => ?_
    refine consults_bind ih (fun records _ => consults_done ⟨_, rfl⟩) fun why hwhy => ?_
    obtain ⟨_, hwhy⟩ := hwhy
    cases hwhy

/-- A copy is shown with its details when it is there and not withdrawn, and is not found otherwise. -/
theorem copyDetails_finds (ht : d.tables.Titled) (id : Int) :
    (copyDetails id).Finds d (d.liveCopy? id).isSome (.copy id) := by
  simp only [copyDetails, getCopy, Lending.list, Holds.list, bind_eq, pure_eq, Procedure.bind_assoc]
  refine consults_request (d.tables.copies.get? id) (fun _ _ => rfl) ?_
  have hlive : (d.tables.copies.get? id).filter (!·.isDeleted) = d.liveCopy? id := rfl
  rw [hlive]
  cases hc : d.liveCopy? id with
  | none => exact consults_require_none rfl
  | some c =>
    obtain ⟨book, hbook⟩ := Table.contains_iff.1 (ht id c (Option.filter_eq_some_iff.1 hc).1)
    refine consults_require_some (consults_request (d.tables.books.get? c.bookId) (fun _ _ => rfl) ?_)
    rw [hbook]
    refine consults_require_some (consults_read (fun _ => rfl) fun loans => ?_)
    refine consults_bind (loanRecords_consults _) (fun records _ => ?_) fun why hwhy => ?_
    · exact consults_read (fun _ => rfl) fun reservations => consults_done ⟨_, rfl⟩
    · obtain ⟨_, hwhy⟩ := hwhy
      cases hwhy

end Desk

end

/-! ## No dangling references -/

/-- Whether a draft is what a transaction sees: one that begins now, or one that is open and at rest. -/
def Traffic.Shows (s : Traffic) (d : Draft) : Prop :=
  d = s.ledger.draft ∨ ∃ k x, s.opened k = some x ∧ x.doing = none ∧ x.draft = d

namespace Traffic.Shows

variable {policy : Policy} {s : Traffic} {d : Draft}

/-- What desk operations show is linked. -/
theorem linked (h : s.Shows d) (hs : Reachable (Rules.desk policy) s) : d.tables.Linked := by
  have hholds := (linking policy).holds hs
  rcases h with rfl | ⟨k, x, hx, hd, rfl⟩
  · exact hholds.good
  · exact (hholds.opened k x hx).rest hd False.elim

/-- What any traffic shows has copies of titles of the catalogue only. -/
theorem titled {rules : Rules} (h : s.Shows d) (hs : Reachable rules s) : d.tables.Titled := by
  obtain ⟨b, hb, rfl⟩ := hs.recorded
  rcases h with rfl | ⟨k, x, hx, -, rfl⟩
  · exact hb.titled.1
  · exact hs.draft_keeps hx (hb.titled.2 k x hx) fun _ _ _ _ _ hc => hc.titled

end Traffic.Shows

/-- Whatever transactions of desk operations do, in the committed tables and in the view of every transaction at rest a loan
and a reservation are of a copy that there is, of the title they repeat, which is in the catalogue, and an entry and a fine are
of a loan that there is. So the details of a loan, a reservation, a fine and a copy are given whenever it is there, and
otherwise it is said that it is not: never is a row that it names missing. -/
theorem no_dangling_references {policy : Policy} {s : Traffic} (h : Reachable (Rules.desk policy) s) {d : Draft}
    (hd : s.Shows d) :
    (d.tables.loans.All fun l => d.tables.HasCopy l.copyId l.bookId ∧ d.tables.books.contains l.bookId = true) ∧
      (d.tables.reservations.All fun r => d.tables.HasCopy r.copyId r.bookId ∧ d.tables.books.contains r.bookId = true) ∧
      (d.tables.entries.All fun e => d.tables.loans.contains e.loanId = true) ∧
      (d.tables.fines.All fun f => d.tables.loans.contains f.loanId = true) ∧
      ∀ id, (Lending.details id).Finds d (d.tables.loans.contains id) (.loan id) ∧
        (Holds.details id).Finds d (d.tables.reservations.contains id) (.reservation id) ∧
        (Charges.details id).Finds d (d.tables.fines.contains id) (.fine id) ∧
        (Desk.copyDetails id).Finds d (d.liveCopy? id).isSome (.copy id) := by
  have hlinked := hd.linked h
  have htitled := hd.titled h
  have hbook : ∀ c b, d.tables.HasCopy c b → d.tables.books.contains b = true := by
    intro c b hcb
    obtain ⟨-, book, -, hbook⟩ := hcb.titled htitled
    exact Table.contains_of_get? hbook
  refine ⟨fun i l hl => ?_, fun i r hr => ?_, hlinked.entries, hlinked.fines, fun id => ⟨?_, ?_, ?_, ?_⟩⟩
  · exact ⟨hlinked.loans i l hl, hbook _ _ (hlinked.loans i l hl)⟩
  · exact ⟨hlinked.reservations i r hr, hbook _ _ (hlinked.reservations i r hr)⟩
  · exact Lending.details_finds hlinked htitled id
  · exact Holds.details_finds hlinked htitled id
  · exact Charges.details_finds hlinked id
  · exact Desk.copyDetails_finds htitled id

/-- A desk where one copy came back late, another is out, and the first is held in a transaction still open. -/
def heldAgain : Traffic :=
  (cameBackLate.act (.begin 1)).serve 1 (Operation.procedure {} (.reserve 4 2))

/-- What that transaction sees. -/
def heldAgainView : Draft :=
  ((heldAgain.opened 1).map (·.draft)).getD default

/-- The open transaction of that desk shows its view. -/
theorem heldAgain_shows : heldAgain.Shows heldAgainView := by
  obtain ⟨x, hx⟩ := Option.isSome_iff_exists.1 (show (heldAgain.opened 1).isSome = true by decide +kernel)
  have hrest : ((heldAgain.opened 1).all fun x => x.doing.isNone) = true := by decide +kernel
  refine .inr ⟨1, x, hx, ?_, ?_⟩
  · simpa [hx] using hrest
  · simp [heldAgainView, hx]

theorem heldAgain_reachable : Reachable (Rules.desk {}) heldAgain := by
  have hdesk : Reachable (Rules.desk {}) cameBackLate := by
    refine cameBackLate_reachable.relax (fun _ _ => trivial) fun s a ha => ?_
    cases a with
    | setClock t => exact ⟨trivial, ha.2⟩
    | call k p => exact fun x hx => ⟨(ha x hx).1, False.elim⟩
    | commit k => exact fun _ _ => False.elim
    | addBook | addUser | begin | advance | rollback => exact trivial
  exact (hdesk.act (.begin 1) trivial).perform 1 (.reserve 4 2) False.elim

/-- All rows of that view refer to rows of it, and all details are found there. -/
theorem heldAgain_references : Reachable (Rules.desk {}) heldAgain ∧ heldAgain.Shows heldAgainView ∧
    (heldAgainView.tables.loans.rows.length, heldAgainView.tables.entries.rows.length,
      heldAgainView.tables.reservations.rows.length, heldAgainView.tables.fines.rows.length) = (2, 4, 1, 1) ∧
    (heldAgainView.tables.loans.All fun l =>
      heldAgainView.tables.HasCopy l.copyId l.bookId ∧ heldAgainView.tables.books.contains l.bookId = true) ∧
    (heldAgainView.tables.reservations.All fun r =>
      heldAgainView.tables.HasCopy r.copyId r.bookId ∧ heldAgainView.tables.books.contains r.bookId = true) ∧
    (heldAgainView.tables.entries.All fun e => heldAgainView.tables.loans.contains e.loanId = true) ∧
    (heldAgainView.tables.fines.All fun f => heldAgainView.tables.loans.contains f.loanId = true) ∧
    (Lending.details 6).Finds heldAgainView true (.loan 6) ∧ (Desk.copyDetails 7).Finds heldAgainView false (.copy 7) :=
  have references := no_dangling_references heldAgain_reachable heldAgain_shows
  ⟨heldAgain_reachable, heldAgain_shows, by decide +kernel, references.1, references.2.1, references.2.2.1,
    references.2.2.2.1, (references.2.2.2.2 6).1, (references.2.2.2.2 7).2.2.2⟩

end Circulation
