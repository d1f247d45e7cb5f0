import Circulation.Proofs.Moves
import Circulation.Proofs.Policy

/-!
# Chronicles

The history of one loan: the entry of its borrowing, an entry for every renewal, and the entry of its return. `Chain` is
what the first two come to, with the number of renewals and the due date they lead to, and `Chronicle` is the history
that agrees with a loan. A loan is renewed far less often than its count could hold, since every renewal moves the due
date on by a day or more (`Chain.nextRenewCount`).
-/

namespace Circulation

/-- Whether the due date of a loan is past a second by a day or more for the borrowing and for each renewal. -/
structure Loan.WithinTerms (floor : Int) (l : Loan) : Prop where
  count : 0 ≤ l.renewCount
  days : floor + 86_400 * (l.renewCount + 1) ≤ l.dueDate.second

namespace Loan.WithinTerms

variable {policy : Policy} {floor : Int} {l : Loan} {due : Instant} {period : Span}

/-- Time is too short for more renewals, by a day each. -/
theorem renewCount_le (h : l.WithinTerms floor) (hfloor : -8_334_601_228_800 ≤ floor) : l.renewCount ≤ 191_491_527 := by
  have hdays := h.days
  have hlast := l.dueDate.le_last
  omega

/-- The count of one more renewal does not wrap. -/
theorem nextRenewCount (h : l.WithinTerms floor) (hfloor : -8_334_601_228_800 ≤ floor) :
    l.nextRenewCount = l.renewCount + 1 := by
  have hsmall := h.renewCount_le hfloor
  have hcount := h.count
  exact Int.bmod_eq_of_le (by omega) (by omega)

/-- A loan that is renewed stays within its terms. -/
theorem extended (h : l.WithinTerms floor) (hfloor : -8_334_601_228_800 ≤ floor) (hvalid : policy.isValid = true)
    (hp : policy.renewalPeriod = .ok period) (hd : l.dueDate.after period = .ok due) (t : Instant) :
    (l.extended due t).WithinTerms floor := by
  have hcount : (l.extended due t).renewCount = l.renewCount + 1 := h.nextRenewCount hfloor
  have hday := Policy.one_le_renewalPeriodDays hvalid
  have hsecond := Instant.second_of_after hp hday hd
  have hnonneg := h.count
  have hdays := h.days
  have hdue : (l.extended due t).dueDate = due := rfl
  constructor
  · omega
  · rw [hcount, hdue]
    omega

end Loan.WithinTerms

/-- The entries of a borrowing and of renewals, each by one renewal period from the due date before it, with the number of
renewals and the due date they lead to. -/
inductive Chain (policy : Policy) (start : Instant) : List LoanEntry → Int → Instant → Prop where
  | borrowed {e : LoanEntry} {period : Span} : e.event = .borrowed → e.previousDueDate = none →
    policy.loanPeriod = .ok period → start.after period = .ok e.dueDate → Chain policy start [e] 0 e.dueDate
  | renewed {es : List LoanEntry} {n : Int} {due : Instant} {e : LoanEntry} {period : Span} :
    Chain policy start es n due → e.event = .renewed → e.previousDueDate = some due →
    policy.renewalPeriod = .ok period → due.after period = .ok e.dueDate → Chain policy start (es ++ [e]) (n + 1) e.dueDate

namespace Chain

variable {policy : Policy} {start due : Instant} {es : List LoanEntry} {n : Int}

/-- The due date of the last entry is the one the chain leads to. -/
theorem last (h : Chain policy start es n due) : es.getLast?.map (·.dueDate) = some due := by
  cases h with
  | borrowed => rfl
  | renewed => simp

/-- Every entry moves the due date on by a day or more. -/
theorem days_le (hvalid : policy.isValid = true) (h : Chain policy start es n due) :
    0 ≤ n ∧ start.second + 86_400 * (n + 1) ≤ due.second := by
  induction h with
  | borrowed _ _ hp hd =>
    have hdays := Policy.one_le_loanPeriodDays hvalid
    have hsecond := Instant.second_of_after hp hdays hd
    omega
  | renewed _ _ _ hp hd ih =>
    have hdays := Policy.one_le_renewalPeriodDays hvalid
    have hsecond := Instant.second_of_after hp hdays hd
    omega

/-- The count of a loan that can be renewed once more does not wrap. -/
theorem nextRenewCount {l : Loan} (hvalid : policy.isValid = true)
    (h : Chain policy l.borrowDate es l.renewCount l.dueDate) : l.nextRenewCount = l.renewCount + 1 :=
  have hterms : l.WithinTerms l.borrowDate.second := ⟨(h.days_le hvalid).1, (h.days_le hvalid).2⟩
  hterms.nextRenewCount l.borrowDate.first_le

end Chain

/-- How the history of a loan goes on after its renewals: not at all while it is out, and with its return. -/
inductive Ending (l : Loan) (es : List LoanEntry) : List LoanEntry → Prop where
  | out : l.status = .borrowed → l.returnDate = none → Ending l es es
  | back {e : LoanEntry} : l.status = .returned → l.returnDate = some e.createdAt → e.event = .returned →
    e.dueDate = l.dueDate → e.previousDueDate = none → Ending l es (es ++ [e])

/-- Whether entries are the history of a loan: its borrowing, as many renewals as it counts, none too many, and its return
if it is returned. -/
structure Chronicle (policy : Policy) (l : Loan) (es : List LoanEntry) : Prop where
  entries : ∃ chain, Chain policy l.borrowDate chain l.renewCount l.dueDate ∧ Ending l chain es
  renewable : ∀ max, policy.maxRenewals = some max → l.renewCount ≤ max

namespace Chronicle

variable {policy : Policy} {l : Loan} {es : List LoanEntry} {t due : Instant} {period : Span}

/-- The history of a loan that is out is a chain. -/
theorem chain (h : Chronicle policy l es) (hb : l.isBorrowed = true) :
    Chain policy l.borrowDate es l.renewCount l.dueDate := by
  obtain ⟨chain, hchain, hend⟩ := h.entries
  cases hend with
  | out => exact hchain
  | back hs => simp [Loan.isBorrowed, hs] at hb

/-- The last entry has the due date of the loan. -/
theorem last (h : Chronicle policy l es) : es.getLast?.map (·.dueDate) = some l.dueDate := by
  obtain ⟨chain, hchain, hend⟩ := h.entries
  cases hend with
  | out => exact hchain.last
  | back _ _ _ hdue => simp [hdue]

/-- A loan has a return date exactly when it is returned. -/
theorem returnDate_isSome (h : Chronicle policy l es) : l.returnDate.isSome = true ↔ l.status = .returned := by
  obtain ⟨chain, -, hend⟩ := h.entries
  cases hend with
  | out hs hr => simp [hs, hr]
  | back hs hr => simp [hs, hr]

/-- A loan that is lent begins its history with the entry of the borrowing. -/
theorem opened (hvalid : policy.isValid = true) (n : NewLoan) (k j : Int) (hp : policy.loanPeriod = .ok period)
    (hd : n.borrowDate.after period = .ok n.dueDate) :
    Chronicle policy (n.toRow k) [NewLoanEntry.toRow ⟨k, .borrowed, n.dueDate, none, n.borrowDate⟩ j] where
  entries := ⟨_, .borrowed rfl rfl hp hd, .out rfl rfl⟩
  renewable _ hmax := Policy.maxRenewals_nonneg hvalid hmax

/-- A loan that is renewed, with renewals left, goes on with the entry of the renewal. -/
theorem extended (h : Chronicle policy l es) (hvalid : policy.isValid = true) (hb : l.isBorrowed = true)
    (hmax : ∀ max, policy.maxRenewals = some max → l.renewCount < max) (hp : policy.renewalPeriod = .ok period)
    (hd : l.dueDate.after period = .ok due) (j : Int) :
    Chronicle policy (l.extended due t) (es ++ [NewLoanEntry.toRow ⟨l.id, .renewed, due, some l.dueDate, t⟩ j]) := by
  have hcount : (l.extended due t).renewCount = l.renewCount + 1 := (h.chain hb).nextRenewCount hvalid
  obtain ⟨chain, hchain, hend⟩ := h.entries
  cases hend with
  | out hs hr =>
    refine ⟨⟨_, ?_, .out hs hr⟩, fun max hm => ?_⟩
    · rw [hcount]
      exact hchain.renewed rfl rfl hp hd
    · have hlt := hmax max hm
      omega
  | back hs => simp [Loan.isBorrowed, hs] at hb

/-- A loan that is returned ends its history with the entry of the return. -/
theorem closed (h : Chronicle policy l es) (hb : l.isBorrowed = true) (j : Int) :
    Chronicle policy (l.closed t) (es ++ [NewLoanEntry.toRow ⟨l.id, .returned, l.dueDate, none, t⟩ j]) where
  entries := ⟨es, h.chain hb, .back rfl rfl rfl rfl rfl⟩
  renewable := h.renewable

end Chronicle

/-! ## What becomes of a loan -/

/-- Whether a loan that was out has been returned since, or renewed more often. -/
def Loan.OvertakenBy (b l : Loan) : Prop :=
  b.isBorrowed = true ∧ (l.isBorrowed = false ∨ b.renewCount < l.renewCount)

namespace Loan.OvertakenBy

variable {a b c : Loan}

theorem trans (h : a.OvertakenBy b) (h' : b.OvertakenBy c) : a.OvertakenBy c := by
  obtain ⟨ha, hab⟩ := h
  obtain ⟨hb, hbc⟩ := h'
  have hlt : a.renewCount < b.renewCount := hab.resolve_left fun hf => by simp [hb] at hf
  exact ⟨ha, hbc.imp_right fun hlt' => Int.lt_trans hlt hlt'⟩

/-- A loan that was overtaken is told from what it became by being out and by its count. -/
theorem not_same (h : a.OvertakenBy b) (hb : b.isBorrowed = true) : b.renewCount ≠ a.renewCount := by
  rcases h.2 with hf | hlt
  · simp [hb] at hf
  · omega

/-- A return overtakes a loan that was out. -/
theorem closed (h : a.isBorrowed = true) (t : Instant) : a.OvertakenBy (a.closed t) :=
  ⟨h, .inl rfl⟩

/-- A renewal that counts overtakes a loan that was out. -/
theorem extended (h : a.isBorrowed = true) (hcount : a.nextRenewCount = a.renewCount + 1) (due t : Instant) :
    a.OvertakenBy (a.extended due t) := by
  refine ⟨h, .inr ?_⟩
  have heq : (a.extended due t).renewCount = a.renewCount + 1 := hcount
  omega

end Loan.OvertakenBy

/-! ## Entries in time -/

/-- Whether entries were written one after the other, none of them after an instant. -/
structure InTime (now : Instant) (es : List LoanEntry) : Prop where
  ordered : es.Pairwise fun a b => a.createdAt ≤ b.createdAt
  past : ∀ e ∈ es, e.createdAt ≤ now

namespace InTime

variable {now now' : Instant} {es : List LoanEntry}

theorem nil (now : Instant) : InTime now [] :=
  ⟨.nil, fun _ he => nomatch he⟩

theorem mono (h : InTime now es) (hle : now ≤ now') : InTime now' es :=
  ⟨h.ordered, fun e he => Int.le_trans (h.past e he) hle⟩

theorem append {e : LoanEntry} (h : InTime now es) (hnow : now ≤ e.createdAt) (hle : e.createdAt ≤ now') :
    InTime now' (es ++ [e]) where
  ordered := by
    refine List.pairwise_append.2 ⟨h.ordered, List.pairwise_singleton _ _, fun a ha b hb => ?_⟩
    obtain rfl := List.mem_singleton.1 hb
    exact Int.le_trans (h.past a ha) hnow
  past a ha := by
    rcases List.mem_append.1 ha with ha | ha
    · exact Int.le_trans (h.past a ha) (Int.le_trans hnow hle)
    · obtain rfl := List.mem_singleton.1 ha
      exact hle

/-- Entries in time and in the order of their ids are in listing order. -/
theorem sort_eq (h : InTime now es) (hids : es.Pairwise fun a b => a.id < b.id) : Listed.sort es = es := by
  refine List.mergeSort_of_pairwise ((h.ordered.and hids).imp fun {a b} ⟨htime, hid⟩ => ?_)
  simp only [Listed.notAfter, Bool.or_eq_true, Bool.and_eq_true, decide_eq_true_eq]
  by_cases heq : a.createdAt.rank = b.createdAt.rank
  · exact .inr ⟨Instant.eq_of_rank_eq heq, Int.le_of_lt hid⟩
  · exact .inl (Int.lt_iff_le_and_ne.2 ⟨htime, heq⟩)

end InTime

end Circulation
