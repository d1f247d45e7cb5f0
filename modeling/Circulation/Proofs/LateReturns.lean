import Circulation.Proofs.Discipline
import Circulation.Proofs.Operations
import Circulation.Proofs.Overdue
import Circulation.Proofs.Policy
import Mathlib.Logic.ExistsUnique

/-!
# Fines are the late returns

A loan that is out or came back in time has no fine, and one that came back late has exactly one, for the whole time it was
late (`fines_are_late_returns`). A fine is charged when its loan is closed, so it is new in a draft that wrote the loan
(`Draft.OwnFines`), and it is published by a commit only while the loan is still out in the ledger: a draft that wrote a
loan brings all the fines of it there are, and any other leaves them alone but for their settlement.
-/

namespace Circulation

open Lasting

/-- Whether a loan is out or came back by its due date. -/
def Loan.OnTime (l : Loan) : Prop :=
  l.isBorrowed = true ∨ ∃ t, l.returnDate = some t ∧ t ≤ l.dueDate

namespace Tables

/-- Whether a fine is of a loan, with its amount and the instant it was charged at. -/
def Fined (t : Tables) (loanId j : Int) (amount : Decimal) (chargedAt : Instant) : Prop :=
  ∃ f, t.fines.get? j = some f ∧ f.loanId = loanId ∧ f.amount = amount ∧ f.createdAt = chargedAt

/-- Whether the fines of a loan are what it owes: none if it is on time, and otherwise the one charge for returning it when
it was returned. -/
structure Owes (rate : Decimal) (t : Tables) (id : Int) (l : Loan) : Prop where
  nothing : l.OnTime → ∀ j amount chargedAt, ¬t.Fined id j amount chargedAt
  one : ¬l.OnTime → ∃! j, ∃ amount chargedAt, t.Fined id j amount chargedAt
  charge : ∀ j amount chargedAt, t.Fined id j amount chargedAt →
    l.returnDate = some chargedAt ∧ Overdue.charge l.dueDate chargedAt rate = .ok (some amount)

/-- Whether every loan has the fines it owes, and there are no others. -/
structure Reckoned (rate : Decimal) (t : Tables) : Prop where
  due : t.loans.All fun l => l.dueDate.isLeap = false
  owes : ∀ id l, t.loans.get? id = some l → t.Owes rate id l
  named : t.fines.All fun f => t.loans.contains f.loanId = true

variable {rate : Decimal} {t t' : Tables} {id : Int} {l : Loan}

/-- The fines of loans depend on what lasts of the rows. -/
theorem fined_congr (h : ∀ j, (t'.fines.get? j).map lasting = (t.fines.get? j).map lasting) (id j : Int)
    (amount : Decimal) (chargedAt : Instant) : t'.Fined id j amount chargedAt ↔ t.Fined id j amount chargedAt := by
  have half : ∀ u u' : Tables, (u'.fines.get? j).map lasting = (u.fines.get? j).map lasting →
      u.Fined id j amount chargedAt → u'.Fined id j amount chargedAt := by
    rintro u u' hj ⟨f, hf, hloan, hamount, hat⟩
    rw [hf, Option.map_some, Option.map_eq_some_iff] at hj
    obtain ⟨f', hf', hlast⟩ := hj
    obtain ⟨hloan', hamount', hat'⟩ := Fine.of_lasting hlast
    exact ⟨f', hf', hloan'.trans hloan, hamount'.trans hamount, hat'.trans hat⟩
  exact ⟨half t' t (h j).symm, half t t' (h j)⟩

/-- The fines of loans, after a fine that is new. -/
theorem fined_insert {k : Int} {f : Fine} (h : t'.fines = t.fines.insert k f) (hk : t.fines.get? k = none) (id j : Int)
    (amount : Decimal) (chargedAt : Instant) : t'.Fined id j amount chargedAt ↔ t.Fined id j amount chargedAt ∨
      j = k ∧ f.loanId = id ∧ f.amount = amount ∧ f.createdAt = chargedAt := by
  simp only [Fined, h, Table.get?_insert]
  split
  · rename_i hj
    simp [hj, hk]
  · rename_i hj
    simp [hj]

/-- What a loan owes depends on the fines of it. -/
theorem Owes.congr (h : t.Owes rate id l)
    (hf : ∀ j amount chargedAt, t'.Fined id j amount chargedAt ↔ t.Fined id j amount chargedAt) : t'.Owes rate id l where
  nothing hl j amount chargedAt := by
    rw [hf]
    exact h.nothing hl j amount chargedAt
  one hl := by
    simp only [hf]
    exact h.one hl
  charge j amount chargedAt := by
    rw [hf]
    exact h.charge j amount chargedAt

/-- A loan on time owes nothing. -/
theorem Owes.of_onTime (hl : l.OnTime) (hf : ∀ j amount chargedAt, ¬t.Fined id j amount chargedAt) : t.Owes rate id l :=
  ⟨fun _ => hf, fun hlate => absurd hl hlate, fun j amount chargedAt h => absurd h (hf j amount chargedAt)⟩

namespace Reckoned

theorem empty : Reckoned rate {} where
  due _ _ h := nomatch h
  owes _ _ h := nomatch h
  named _ _ h := nomatch h

theorem congr (h : t.Reckoned rate) (hloans : t'.loans = t.loans)
    (hfines : ∀ j, (t'.fines.get? j).map lasting = (t.fines.get? j).map lasting) : t'.Reckoned rate where
  due := by
    rw [hloans]
    exact h.due
  owes id l hl := (h.owes id l (hloans ▸ hl)).congr (fined_congr hfines id)
  named j f hf := by
    have hj := hfines j
    rw [hf, Option.map_some, eq_comm, Option.map_eq_some_iff] at hj
    obtain ⟨f₀, hf₀, hlast⟩ := hj
    show t'.loans.contains f.loanId = true
    rw [hloans, ← (Fine.of_lasting hlast).1]
    exact h.named j f₀ hf₀

/-- A loan that is not there, or is out, has no fine. -/
theorem not_fined (h : t.Reckoned rate) (hl : ∀ l, t.loans.get? id = some l → l.isBorrowed = true) (j : Int)
    (amount : Decimal) (chargedAt : Instant) : ¬t.Fined id j amount chargedAt := by
  rintro ⟨f, hf, rfl, hrest⟩
  obtain ⟨l, hrow⟩ := Table.contains_iff.1 (h.named j f hf)
  exact (h.owes _ l hrow).nothing (.inl (hl l hrow)) j amount chargedAt ⟨f, hf, rfl, hrest⟩

end Reckoned

end Tables

/-- Whether the fines that are new in a draft are of loans that it wrote. -/
def Draft.OwnFines (d : Draft) (base : Ledger) : Prop :=
  ∀ j f, d.tables.fines.get? j = some f → base.lastId < j → d.written.loans.contains f.loanId = true

/-- Whether a draft's loans have the fines they owe, those it added being its own loans'. -/
structure Draft.Reckoned (rate : Decimal) (d : Draft) (base : Ledger) : Prop where
  tables : d.tables.Reckoned rate
  own : d.OwnFines base

/-! ## What moves do -/

section

variable {rules : Rules} {policy : Policy} {base : Ledger} {d d' : Draft} {m m' : Moment} {c : Copy} {l : Loan}
  {userId : Int}

namespace Draft.Reckoned

/-- Nothing is changed of loans, and nothing that lasts of fines. -/
theorem congr (h : d.Reckoned policy.dailyFineRate base) (hloans : d'.tables.loans = d.tables.loans)
    (hwritten : d'.written.loans = d.written.loans)
    (hfines : ∀ j, (d'.tables.fines.get? j).map lasting = (d.tables.fines.get? j).map lasting) :
    d'.Reckoned policy.dailyFineRate base where
  tables := h.tables.congr hloans hfines
  own j f hf hj := by
    have hlast := hfines j
    rw [hf, Option.map_some, eq_comm, Option.map_eq_some_iff] at hlast
    obtain ⟨f₀, hf₀, hlast⟩ := hlast
    rw [hwritten, ← (Fine.of_lasting hlast).1]
    exact h.own j f₀ hf₀ hj

/-- A loan is recorded with the fines it owes, which are new if they were not there before. -/
theorem record (h : d.Reckoned policy.dailyFineRate base) {d₁ : Draft} {e : LoanEntry} (hframe : d.SameLoans d₁)
    (hdue : l.dueDate.isLeap = false) (howes : d₁.tables.Owes policy.dailyFineRate l.id l)
    (hothers : ∀ i j amount chargedAt, i ≠ l.id →
      (d₁.tables.Fined i j amount chargedAt ↔ d.tables.Fined i j amount chargedAt))
    (hfines : ∀ j f, d₁.tables.fines.get? j = some f → f.loanId = l.id ∨ d.tables.fines.get? j = some f) :
    (d₁.record l e).Reckoned policy.dailyFineRate base := by
  refine ⟨⟨fun i a ha => ?_, fun i a ha => ?_, fun j f hf => ?_⟩, fun j f hf hj => ?_⟩
  · rw [record_loan, hframe.loans] at ha
    split at ha
    · cases ha
      exact hdue
    · exact h.tables.due i a ha
  · rw [record_loan, hframe.loans] at ha
    split at ha
    · rename_i hi
      cases ha
      exact hi ▸ howes.congr fun _ _ _ => Iff.rfl
    · rename_i hi
      exact (h.tables.owes i a ha).congr fun j amount chargedAt => hothers i j amount chargedAt hi
  · show (d₁.tables.loans.insert l.id l).contains f.loanId = true
    rw [Table.contains_insert, hframe.loans, Bool.or_eq_true, decide_eq_true_eq]
    exact (hfines j f hf).imp_right (h.tables.named j f)
  · rw [record_writtenLoan, hframe.writtenLoans, Bool.or_eq_true, decide_eq_true_eq]
    exact (hfines j f hf).imp_right fun hf => h.own j f hf hj

/-- A loan is opened: it has no fine. -/
theorem opened (ho : Opened rules policy d m c userId l d' m') (hs : d.Stands base m.lastId)
    (hclock : ∀ t, rules.admits t → t.isLeap = false) (h : d.Reckoned policy.dailyFineRate base) :
    d'.Reckoned policy.dailyFineRate base := by
  cases ho with
  | @intro t due period k j m' hreads hperiod hdue hk hj hm =>
    have hnew : d.tables.loans.get? k = none := hs.loans.keyed.none_of_lt hk
    have hfree (j : Int) (amount : Decimal) (chargedAt : Instant) : ¬d.tables.Fined k j amount chargedAt :=
      h.tables.not_fined (fun a ha => by simp [hnew] at ha) j amount chargedAt
    exact h.record ⟨rfl, rfl, rfl, rfl⟩ (Instant.isLeap_of_after (hclock t hreads.admits) hdue)
      (.of_onTime (.inl rfl) hfree) (fun _ _ _ _ _ => Iff.rfl) fun j f hf => .inr hf

/-- A loan that is out has no fine. -/
theorem not_fined (h : d.Reckoned policy.dailyFineRate base) (hl : d.tables.loans.get? l.id = some l)
    (hb : l.isBorrowed = true) (j : Int) (amount : Decimal) (chargedAt : Instant) :
    ¬d.tables.Fined l.id j amount chargedAt := by
  refine h.tables.not_fined (fun a ha => ?_) j amount chargedAt
  cases hl.symm.trans ha
  exact hb

/-- A loan is extended: it is out before and after. -/
theorem renewed (hr : Renewed rules policy d m l d' m') (h : d.Reckoned policy.dailyFineRate base) :
    d'.Reckoned policy.dailyFineRate base := by
  cases hr with
  | @intro t due period j m' hl hb hmax hreads hperiod hdue hj hm =>
    have hfree := h.not_fined hl hb
    have hframe : d.SameLoans (d.guard l.id l.renewCount) := ⟨rfl, rfl, rfl, rfl⟩
    exact h.record hframe (Instant.isLeap_of_after (h.tables.due l.id l hl) hdue) (.of_onTime (.inl hb) hfree)
      (fun _ _ _ _ _ => Iff.rfl) fun j f hf => .inr hf

/-- A loan is closed: it had no fine, and has the one that is charged now if it is late. -/
theorem returned (hr : Returned rules policy d m l d' m') (hs : d.Stands base m.lastId)
    (hclock : ∀ t, rules.admits t → t.isLeap = false) (h : d.Reckoned policy.dailyFineRate base) :
    d'.Reckoned policy.dailyFineRate base := by
  cases hr with
  | @intro t d₁ n₀ n j m' hl hb hreads hn hf hj hm =>
    have hfree := h.not_fined hl hb
    have hdue : l.dueDate.isLeap = false := h.tables.due l.id l hl
    have ht : t.isLeap = false := hclock t hreads.admits
    cases hf with
    | none hnone =>
      have hin : (l.closed t).OnTime := .inr ⟨t, rfl, (Overdue.charge_eq_none_iff hdue ht).1 hnone⟩
      have hframe : d.SameLoans (d.guard l.id l.renewCount) := ⟨rfl, rfl, rfl, rfl⟩
      exact h.record hframe hdue (.of_onTime hin hfree) (fun _ _ _ _ _ => Iff.rfl) fun j f hf => .inr hf
    | @fine amount _ hcharge hk =>
      have hnew : d.tables.fines.get? n = none := hs.fines.keyed.none_of_lt (Int.lt_of_le_of_lt hn hk)
      have hlate : ¬(l.closed t).OnTime := by
        rintro (hout | ⟨u, hu, hle⟩)
        · simp [Loan.closed, Loan.isBorrowed] at hout
        · cases hu
          rw [(Overdue.charge_eq_none_iff hdue ht).2 hle] at hcharge
          cases hcharge
      have hput : (d.putFine (NewFine.toRow ⟨l.id, amount, t⟩ n) n).tables.fines =
          d.tables.fines.insert n (NewFine.toRow ⟨l.id, amount, t⟩ n) := rfl
      have hfined := Tables.fined_insert hput hnew
      have hof : ∀ j a u, (d.putFine (NewFine.toRow ⟨l.id, amount, t⟩ n) n).tables.Fined l.id j a u ↔
          j = n ∧ amount = a ∧ t = u := by
        intro j a u
        rw [hfined]
        simp [hfree, NewFine.toRow]
      have hframe : d.SameLoans ((d.putFine (NewFine.toRow ⟨l.id, amount, t⟩ n) n).guard l.id l.renewCount) :=
        ⟨rfl, rfl, rfl, rfl⟩
      refine h.record hframe hdue ?_ ?_ ?_
      · refine ⟨fun hin => absurd hin hlate, fun _ => ⟨n, ⟨amount, t, (hof n amount t).2 ⟨rfl, rfl, rfl⟩⟩, ?_⟩, ?_⟩
        · rintro j ⟨a, u, hj⟩
          exact ((hof j a u).1 hj).1
        · intro j a u hj
          obtain ⟨-, rfl, rfl⟩ := (hof j a u).1 hj
          exact ⟨rfl, hcharge⟩
      · intro i j a u hi
        refine (hfined i j a u).trans ⟨fun h => h.resolve_right fun h => hi h.2.1.symm, .inl⟩
      · intro j f hf
        simp only [guard_tables, putFine, Table.get?_insert] at hf
        split at hf
        · cases hf
          exact .inl rfl
        · exact .inr hf

/-- A move leaves every loan with the fines it owes. -/
theorem move (hm : Move rules policy d m d' m') (hs : d.Stands base m.lastId)
    (hclock : ∀ t, rules.admits t → t.isLeap = false) (h : d.Reckoned policy.dailyFineRate base) :
    d'.Reckoned policy.dailyFineRate base := by
  cases hm with
  | lock c _ => exact h.congr rfl rfl fun _ => rfl
  | borrow t hc _ hr ho =>
    have h₁ := h.congr hr.frame.2.2.loans hr.frame.2.2.writtenLoans fun j => by rw [hr.fines]
    exact (opened ho (hr.stands hs) hclock h₁).congr rfl rfl fun _ => rfl
  | takeBack t hc _ hlc hr => exact (returned hr hs hclock h).congr rfl rfl fun _ => rfl
  | renew hc _ hlc hr => exact renewed hr h
  | reserve | cancel | addCopy | withdraw => exact h.congr rfl rfl fun _ => rfl
  | @settle f t hf hn =>
    refine h.congr rfl rfl fun j => ?_
    simp only [settling, putFine, Table.get?_insert]
    split
    · rename_i hj
      rw [hj, hf]
      rfl
    · rfl

end Draft.Reckoned

end

/-! ## What commits do -/

namespace Committing

variable {l l' : Ledger} {x : Transaction} {committed : List Transaction} {rate : Decimal} {id : Int}

/-- The fines of a loan that a draft wrote are published as the draft has them: neither the base nor the ledger had one. -/
theorem fined_draft (h : Committing l x committed l') (hbase : x.base.tables.Reckoned rate)
    (hl : l.tables.Reckoned rate) (hw : x.draft.written.loans.contains id = true) (j : Int) (amount : Decimal)
    (chargedAt : Instant) : l'.tables.Fined id j amount chargedAt ↔ x.draft.tables.Fined id j amount chargedAt := by
  have hnone : ∀ j f, f.loanId = id → (x.base.tables.fines.get? j = some f ↔ l.tables.fines.get? j = some f) := by
    rintro j f rfl
    refine ⟨fun hf => ?_, fun hf => ?_⟩
    · exact absurd ⟨f, hf, rfl, rfl, rfl⟩ (hbase.not_fined (fun a => h.stands.base_open hw) j f.amount f.createdAt)
    · exact absurd ⟨f, hf, rfl, rfl, rfl⟩ (hl.not_fined (fun a => h.loan_open hw) j f.amount f.createdAt)
  have hsame : ∀ j f, f.loanId = id → (x.draft.tables.fines.get? j = some f ↔ l'.tables.fines.get? j = some f) := by
    rw [h.eq]
    exact h.stands.fines.publish_draft hnone
  refine exists_congr fun f => ⟨fun ⟨hf, hrest⟩ => ⟨?_, hrest⟩, fun ⟨hf, hrest⟩ => ⟨?_, hrest⟩⟩
  · exact (hsame j f hrest.1).2 hf
  · exact (hsame j f hrest.1).1 hf

/-- The fines of a loan that a draft did not write are left alone, but for their settlement. -/
theorem fined_ledger (h : Committing l x committed l') (hown : x.draft.OwnFines x.base)
    (hw : ¬x.draft.written.loans.contains id = true) (j : Int) (amount : Decimal) (chargedAt : Instant) :
    l'.tables.Fined id j amount chargedAt ↔ l.tables.Fined id j amount chargedAt := by
  constructor
  · rintro ⟨f, hf, rfl, rfl, rfl⟩
    have hf' := hf
    rw [h.fines] at hf
    split at hf
    · -- A fine of a loan that the draft did not write was there when the draft began.
      have hj : j ≤ x.base.lastId := Int.not_lt.1 fun hlt => hw (hown j f hf hlt)
      obtain ⟨b, hb, hfb⟩ := h.stands.fines.exists_base hf hj
      obtain ⟨g, hg, hgb⟩ := h.since.fines j b hb
      obtain ⟨hloan, hamount, hat⟩ := Fine.of_lasting (hgb.trans hfb.symm)
      exact ⟨g, hg, hloan, hamount, hat⟩
    · exact ⟨f, hf, rfl, rfl, rfl⟩
  · rintro ⟨f, hf, rfl, rfl, rfl⟩
    obtain ⟨g, hg, hgf⟩ := h.since'.fines j f hf
    obtain ⟨hloan, hamount, hat⟩ := Fine.of_lasting hgf
    exact ⟨g, hg, hloan, hamount, hat⟩

/-- A commit of a draft whose loans have the fines they owe leaves all loans with those they owe. -/
theorem reckoned (h : Committing l x committed l') (hbase : x.base.tables.Reckoned rate) (hl : l.tables.Reckoned rate)
    (hd : x.draft.Reckoned rate x.base) : l'.tables.Reckoned rate := by
  refine ⟨fun id a ha => ?_, fun id a ha => ?_, fun j f hf => ?_⟩
  · rw [h.loans] at ha
    split at ha
    · exact hd.tables.due id a ha
    · exact hl.due id a ha
  · rw [h.loans] at ha
    split at ha
    · rename_i hw
      exact (hd.tables.owes id a ha).congr (h.fined_draft hbase hl hw)
    · rename_i hw
      exact (hl.owes id a ha).congr (h.fined_ledger hd.own hw)
  · rw [h.fines] at hf
    split at hf
    · rw [h.eq]
      exact h.stands.loans.contains_publish_of_draft h.since.loans (hd.tables.named j f hf)
    · obtain ⟨a, ha⟩ := Table.contains_iff.1 (hl.named j f hf)
      obtain ⟨b, hb, -⟩ := h.since'.loans _ a ha
      exact Table.contains_of_get? hb

end Committing

/-! ## The discipline -/

/-- Transactions of desk operations under a clock that is never read in a leap second. -/
def Rules.offLeap (policy : Policy) (strict : Prop) : Rules :=
  { Rules.desk policy strict with admits := fun t => t.isLeap = false }

/-- The discipline of loans that have the fines they owe. -/
def reckoning (policy : Policy) (strict : Prop) : Discipline (Rules.offLeap policy strict) where
  Good l _ _ := l.tables.Reckoned policy.dailyFineRate
  Fit base d _ _ := d.Reckoned policy.dailyFineRate base
  Moved _ _ _ := True
  good_start _ _ := .empty
  good_grown hg h := by
    rw [hg.tables]
    exact h.congr rfl fun _ => rfl
  good_later _ h := h
  moved_grown _ := trivial
  moved_trans _ _ := trivial
  fit_begin hs h := ⟨h, fun j f hf hj => absurd (hs.fines j f hf).2 (Int.not_le.2 hj)⟩
  fit_later _ h := h
  fit_call := by
    rintro base d hand m p - hs - hfit ⟨o, rfl⟩
    refine (o.keeps (I := fun d _ => d.Reckoned policy.dailyFineRate base) hs hfit (fun _ _ _ _ h => h) ?_).mono
      (fun _ _ _ h => h.2) fun _ _ h _ => h
    intro d m d' m' hs hmove h
    exact h.move hmove hs fun _ ht => ht
  commit _ hcom hl hbase _ hfit := ⟨hcom.reckoned hbase hl hfit, trivial⟩

/-- In every committed state that transactions of desk operations lead to, a loan that is out or came back by its due date has
no fine, any other has exactly one, and every fine is of a loan; its amount is the charge for that due date and that return,
and it was created at the return. From then on the amount, the loan and the instant of a fine never change. -/
theorem fines_are_late_returns {policy : Policy} {strict : Prop} {s s' : Traffic}
    (h : Reachable (Rules.offLeap policy strict) s) (hl : Leads (Rules.offLeap policy strict) s s') :
    (∀ id l, s.ledger.tables.loans.get? id = some l → s.ledger.tables.Owes policy.dailyFineRate id l) ∧
      ∀ j f, s.ledger.tables.fines.get? j = some f → s.ledger.tables.loans.contains f.loanId = true ∧
        ∃ f', s'.ledger.tables.fines.get? j = some f' ∧ f'.loanId = f.loanId ∧ f'.amount = f.amount ∧
          f'.createdAt = f.createdAt := by
  have hgood := ((reckoning policy strict).holds h).good
  obtain ⟨js, -, hsince⟩ := hl.since h
  refine ⟨hgood.owes, fun j f hf => ⟨hgood.named j f hf, ?_⟩⟩
  obtain ⟨f', hf', hlast⟩ := hsince.fines j f hf
  exact ⟨f', hf', Fine.of_lasting hlast⟩

/-- A desk where one loan was renewed and came back a month late, and another is out. -/
def cameBackLate : Traffic :=
  let s : Traffic := { clock := .epoch }
  let s := ((s.act (.addBook "Emma")).act (.addUser "ann")).act (.addUser "ben")
  let s := (s.act (.begin 0)).serve 0 (Operation.procedure {} (.addCopies 1 2))
  let s := (s.serve 0 (Operation.procedure {} (.borrow 4 2))).serve 0 (Operation.procedure {} (.borrow 5 3))
  let s := (s.serve 0 (Operation.procedure {} (.renew 6))).act (.commit 0)
  let s := (s.act (.setClock ((Instant.epoch.add? ⟨60 * Span.day⟩).getD .epoch))).act (.begin 0)
  (s.serve 0 (Operation.procedure {} (.returnLoan 6))).act (.commit 0)

/-- The same desk after the fine is settled. -/
def fineSettled : Traffic :=
  ((cameBackLate.act (.begin 0)).serve 0 (Operation.procedure {} (.settleFine 11))).act (.commit 0)

theorem cameBackLate_reachable : Reachable (Rules.offLeap {} True) cameBackLate := by
  have start : Reachable (Rules.offLeap {} True) { clock := .epoch } := .start .epoch rfl
  have users := ((start.act (.addBook "Emma") trivial).act (.addUser "ann") trivial).act (.addUser "ben") trivial
  have copies := (users.act (.begin 0) trivial).serve (k := 0) (fun _ _ => ⟨.addCopies 1 2, rfl⟩)
    fun _ => by decide +kernel
  have lent := copies.serve (k := 0) (fun _ _ => ⟨.borrow 4 2, rfl⟩) fun _ => by decide +kernel
  have both := lent.serve (k := 0) (fun _ _ => ⟨.borrow 5 3, rfl⟩) fun _ => by decide +kernel
  have renewed := both.serve (k := 0) (fun _ _ => ⟨.renew 6, rfl⟩) fun _ => by decide +kernel
  have offLeap : ((Instant.epoch.add? ⟨60 * Span.day⟩).getD .epoch).isLeap = false := by decide +kernel
  have later := (renewed.commit 0 fun _ => by decide +kernel).act
    (.setClock ((Instant.epoch.add? ⟨60 * Span.day⟩).getD .epoch)) ⟨offLeap, False.elim⟩
  have returned := (later.act (.begin 0) trivial).serve (k := 0) (fun _ _ => ⟨.returnLoan 6, rfl⟩)
    fun _ => by decide +kernel
  exact returned.commit 0 fun _ => by decide +kernel

/-- The settlement of the fine leads on from there. -/
theorem cameBackLate_leads : Leads (Rules.offLeap {} True) cameBackLate fineSettled := by
  have begun : Leads (Rules.offLeap {} True) cameBackLate (cameBackLate.act (.begin 0)) := Leads.refl.act _ trivial
  have settled := begun.serve (k := 0) (fun _ _ => ⟨.settleFine 11, rfl⟩) fun _ => by decide +kernel
  exact settled.commit 0 fun _ => by decide +kernel

/-- The fine that was charged. -/
def lateFine : Fine :=
  (cameBackLate.ledger.tables.fines.get? 11).get (by decide +kernel)

/-- The late loan owes the one fine it was charged, which is settled later, and the loan that is out owes none. -/
theorem fineSettled_fines : lateFine.loanId = 6 ∧ (lateFine.amount.magnitude, lateFine.amount.scale) = (1600, 2) ∧
    (cameBackLate.ledger.tables.loans.get? 8).map (·.isBorrowed) = some true ∧
    (fineSettled.ledger.tables.fines.get? 11).map (·.settled) = some true ∧
    (∀ id l, cameBackLate.ledger.tables.loans.get? id = some l →
      cameBackLate.ledger.tables.Owes ({} : Policy).dailyFineRate id l) ∧
    ∃ f, fineSettled.ledger.tables.fines.get? 11 = some f ∧ f.loanId = lateFine.loanId ∧ f.amount = lateFine.amount ∧
      f.createdAt = lateFine.createdAt :=
  have fines := fines_are_late_returns cameBackLate_reachable cameBackLate_leads
  ⟨by decide +kernel, by decide +kernel, by decide +kernel, by decide +kernel, fines.1,
    (fines.2 11 lateFine (Option.some_get _).symm).2⟩

end Circulation
