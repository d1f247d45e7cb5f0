import Circulation.Proofs.Chronicle
import Circulation.Proofs.Discipline
import Circulation.Proofs.Operations

/-!
# Histories

Every loan agrees with its history, whether it is renewed and returned at the desk, under the lock on its copy, or
directly on a row that was read before. A draft records a loan together with the entry that tells of it
(`Draft.Chronicled.record`), and a commit publishes both or neither: the loan it was recorded for is guarded, so nobody
else has recorded anything for it meanwhile (`Committing.sameLoan_draft`).
-/

namespace Circulation

/-- Whether two sets of tables have the same row and the same history for a loan. -/
structure Tables.SameLoan (t t' : Tables) (id : Int) : Prop where
  loan : t'.loans.get? id = t.loans.get? id
  entries : ∀ j e, e.loanId = id → (t.entries.get? j = some e ↔ t'.entries.get? j = some e)

/-- Whether the loans of some tables agree with the history, which is in time if the clock never goes back. -/
structure Tables.Chronicled (policy : Policy) (steady : Prop) (now : Instant) (t : Tables) : Prop where
  loans : ∀ id l, t.loans.get? id = some l → Chronicle policy l (t.entriesOf id)
  named : t.entries.All fun e => t.loans.contains e.loanId = true
  inTime : steady → ∀ id, InTime now (t.entriesOf id)

namespace Tables

variable {policy : Policy} {steady : Prop} {now now' : Instant} {t t' : Tables} {id : Int}

theorem SameLoan.trans {t'' : Tables} (h : t.SameLoan t' id) (h' : t'.SameLoan t'' id) : t.SameLoan t'' id :=
  ⟨h'.loan.trans h.loan, fun j e he => (h.entries j e he).trans (h'.entries j e he)⟩

theorem SameLoan.of_eq (hl : t'.loans = t.loans) (he : t'.entries = t.entries) : t.SameLoan t' id :=
  ⟨by rw [hl], fun j e _ => by rw [he]⟩

/-- What is the same of a loan includes its history, entry by entry. -/
theorem SameLoan.entriesOf (h : t.SameLoan t' id) : t'.entriesOf id = t.entriesOf id :=
  Table.filter_rows_congr fun j e he => (h.entries j e (of_decide_eq_true he)).symm

/-- A history is listed in the order of its ids. -/
theorem entriesOf_ids {n : Int} (h : t.entries.Keyed n) (id : Int) :
    (t.entriesOf id).Pairwise fun a b => a.id < b.id :=
  h.rows_ids.filter _

namespace Chronicled

theorem empty : ({} : Tables).Chronicled policy steady now where
  loans _ _ h := nomatch h
  named _ _ h := nomatch h
  inTime _ _ := .nil now

theorem congr (h : t.Chronicled policy steady now) (hl : t'.loans = t.loans) (he : t'.entries = t.entries) :
    t'.Chronicled policy steady now := by
  have hof : ∀ id, t'.entriesOf id = t.entriesOf id := fun id => by rw [entriesOf, entriesOf, he]
  constructor
  · intro id l hget
    rw [hof]
    exact h.loans id l (hl ▸ hget)
  · rw [he, hl]
    exact h.named
  · intro hs id
    rw [hof]
    exact h.inTime hs id

theorem later (h : t.Chronicled policy steady now) (hle : steady → now ≤ now') : t.Chronicled policy steady now' :=
  ⟨h.loans, h.named, fun hs id => (h.inTime hs id).mono (hle hs)⟩

/-- A loan that is not there has no history. -/
theorem entriesOf_eq_nil (h : t.Chronicled policy steady now) (hid : ¬t.loans.contains id = true) :
    t.entriesOf id = [] :=
  Table.filter_rows_eq_nil fun j e he hp => hid (of_decide_eq_true hp ▸ h.named j e he)

end Chronicled

end Tables

/-! ## Recording in a draft -/

/-- What a draft owes its base in loans and history, given the loans in hand: they agree, an entry was written only for a
loan that was written, a loan of the base was written only to renew or return it, and so was one in hand. -/
structure Draft.Chronicled (rules : Rules) (policy : Policy) (base : Ledger) (d : Draft) (hand : List Loan) (m : Moment) :
    Prop where
  tables : d.tables.Chronicled policy rules.steady m.clock
  written : ∀ j e, d.written.entries.contains j = true → d.tables.entries.get? j = some e →
    d.written.loans.contains e.loanId = true
  overtaken : ∀ id b l, base.tables.loans.get? id = some b → d.written.loans.contains id = true →
    d.tables.loans.get? id = some l → b.OvertakenBy l
  inHand : ∀ l ∈ hand, ∃ row, d.tables.loans.get? l.id = some row ∧ (row = l ∨ l.OvertakenBy row)

/-- A recorded entry comes last in the history of its loan and leaves all others as they are. -/
theorem Draft.entriesOf_record {d : Draft} {n : Int} (h : d.tables.entries.Keyed n) (l : Loan) {e : LoanEntry}
    (hn : n < e.id) (id : Int) :
    (d.record l e).tables.entriesOf id = d.tables.entriesOf id ++ if e.loanId = id then [e] else [] := by
  have hlast : ∀ j b, d.tables.entries.get? j = some b → j < e.id := fun j b hb => Int.lt_of_le_of_lt (h j b hb).2 hn
  simp only [Tables.entriesOf, Draft.record, Draft.putEntry, Draft.putLoan, Table.rows_insert_last e hlast,
    List.filter_append]
  by_cases he : e.loanId = id
  · simp [he]
  · simp [he]

/-- The tables agree after a loan is recorded with the next entry of its history. -/
theorem Tables.Chronicled.record {policy : Policy} {steady : Prop} {now now' : Instant} {d : Draft} {l : Loan} {e : LoanEntry}
    {n : Int} (h : d.tables.Chronicled policy steady now) (hentries : d.tables.entries.Keyed n) (hn : n < e.id)
    (hid : e.loanId = l.id) (hnow : steady → now ≤ e.createdAt) (hlater : steady → e.createdAt ≤ now')
    (hstory : Chronicle policy l (d.tables.entriesOf l.id ++ [e])) : (d.record l e).tables.Chronicled policy steady now' where
  loans id a ha := by
    rw [d.entriesOf_record hentries l hn]
    rw [Draft.record_loan] at ha
    split at ha
    · rename_i heq
      cases ha
      rw [if_pos (hid.trans heq.symm), heq]
      exact hstory
    · rename_i hne
      rw [if_neg fun hc => hne (hc.symm.trans hid), List.append_nil]
      exact h.loans id a ha
  named j a ha := by
    rw [Draft.record_entry] at ha
    split at ha
    · cases ha
      exact Table.contains_iff.2 ⟨l, by rw [Draft.record_loan, if_pos hid]⟩
    · obtain ⟨row, hrow⟩ := Table.contains_iff.1 (h.named j a ha)
      rw [Table.contains, Draft.record_loan]
      split
      · rfl
      · rw [hrow]
        rfl
  inTime hs id := by
    rw [d.entriesOf_record hentries l hn]
    split
    · exact (h.inTime hs id).append (hnow hs) (hlater hs)
    · rw [List.append_nil]
      exact (h.inTime hs id).mono (Int.le_trans (hnow hs) (hlater hs))

namespace Draft.Chronicled

variable {rules : Rules} {policy : Policy} {base : Ledger} {d d' : Draft} {hand : List Loan} {m m' : Moment}

/-- A draft begins with loans that agree with their history. -/
theorem begin {l : Ledger} {t : Instant} (h : l.tables.Chronicled policy rules.steady t) :
    l.draft.Chronicled rules policy l [] ⟨l.lastId, t⟩ where
  tables := h
  written _ _ hw := nomatch hw
  overtaken _ _ _ _ hw := nomatch hw
  inHand _ hl := nomatch hl

theorem later (h : d.Chronicled rules policy base hand m) (hl : rules.Later m m') :
    d.Chronicled rules policy base hand m' :=
  { h with tables := h.tables.later hl.steady }

theorem congr (h : d.Chronicled rules policy base hand m) (hd : d.SameLoans d') :
    d'.Chronicled rules policy base hand m where
  tables := h.tables.congr hd.loans hd.entries
  written := by
    rw [hd.writtenEntries, hd.entries, hd.writtenLoans]
    exact h.written
  overtaken := by
    rw [hd.writtenLoans, hd.loans]
    exact h.overtaken
  inHand := by
    rw [hd.loans]
    exact h.inHand

/-- A loan is recorded with an entry that tells of it, and was not recorded before or is overtaken. -/
theorem record {l : Loan} {e : LoanEntry} {n : Int} (h : d.Chronicled rules policy base hand m)
    (hloans : base.tables.loans.Follows base.lastId d.tables.loans d.written.loans n) (hentries : d.tables.entries.Keyed n)
    (hn : n < e.id) (hid : e.loanId = l.id) (ht : rules.Reads m e.createdAt m')
    (hold : ∀ b, d.tables.loans.get? l.id = some b → b.OvertakenBy l)
    (hstory : Chronicle policy l (d.tables.entriesOf l.id ++ [e])) :
    (d.record l e).Chronicled rules policy base hand m' where
  tables := by
    obtain ⟨m₀, h₀, h₁, htime⟩ := ht
    exact h.tables.record hentries hn hid (htime ▸ h₀.steady) (htime ▸ h₁.steady) hstory
  written j a hw ha := by
    simp only [record_writtenEntry, record_entry, record_writtenLoan, Bool.or_eq_true, decide_eq_true_eq] at hw ha ⊢
    split at ha
    · cases ha
      exact .inl hid
    · rename_i hne
      exact .inr (h.written j a (hw.resolve_left hne) ha)
  overtaken id b a hb hw ha := by
    simp only [record_loan, record_writtenLoan, Bool.or_eq_true, decide_eq_true_eq] at hw ha
    split at ha
    · rename_i heq
      cases ha
      subst heq
      -- What was written before had overtaken the base already; what was not is the base itself.
      obtain ⟨r, hr, -⟩ := hloans.kept l.id b hb
      cases hwritten : d.written.loans.contains l.id with
      | true => exact (h.overtaken l.id b r hb hwritten hr).trans (hold r hr)
      | false =>
        cases (hloans.base_of_unwritten hr hwritten).symm.trans hb
        exact hold b hr
    · rename_i hne
      exact h.overtaken id b a hb (hw.resolve_left hne) ha
  inHand a ha := by
    obtain ⟨row, hrow, hover⟩ := h.inHand a ha
    rw [record_loan]
    split
    · rename_i heq
      have hnew := hold row (heq ▸ hrow)
      refine ⟨l, rfl, .inr ?_⟩
      rcases hover with rfl | hover
      · exact hnew
      · exact hover.trans hnew
    · exact ⟨row, hrow, hover⟩

variable {c : Copy} {l : Loan} {userId : Int}

/-- A loan that is opened agrees with the entry of its borrowing. -/
theorem opened (h : d.Chronicled rules policy base hand m) (hvalid : policy.isValid = true) (hs : d.Stands base m.lastId)
    (ho : Opened rules policy d m c userId l d' m') : d'.Chronicled rules policy base hand m' := by
  cases ho with
  | @intro t due period k j _ ht hp hd hk hkj hj =>
    have hnone := hs.loans.keyed.none_of_lt hk
    have hnil : d.tables.entriesOf k = [] := h.tables.entriesOf_eq_nil (Table.not_contains_iff.2 hnone)
    have hj : m.lastId < j := Int.lt_trans hk hkj
    refine h.record hs.loans hs.entries.keyed hj rfl ht (fun b hb => nomatch hnone.symm.trans hb) ?_
    have hstory := Chronicle.opened hvalid ⟨c.id, c.bookId, userId, t, due⟩ k j hp hd
    rw [show (NewLoan.toRow ⟨c.id, c.bookId, userId, t, due⟩ k).id = k from rfl, hnil]
    exact hstory

/-- A loan that is renewed agrees with its history and the entry of the renewal. -/
theorem renewed (h : d.Chronicled rules policy base hand m) (hvalid : policy.isValid = true) (hs : d.Stands base m.lastId)
    (hr : Renewed rules policy d m l d' m') : d'.Chronicled rules policy base hand m' := by
  cases hr with
  | @intro t due period j _ hl hb hmax ht hp hd hj =>
    have hstory := h.tables.loans l.id l hl
    have hcount := (hstory.chain hb).nextRenewCount hvalid
    have hguard : (d.guard l.id l.renewCount).Chronicled rules policy base hand m := h.congr ⟨rfl, rfl, rfl, rfl⟩
    refine hguard.record hs.loans hs.entries.keyed hj rfl ht (fun b hb' => ?_) ?_
    · cases hl.symm.trans hb'
      exact .extended hb hcount due t
    · exact hstory.extended hvalid hb hmax hp hd j

/-- A loan that is returned agrees with its history and the entry of the return. -/
theorem returned (h : d.Chronicled rules policy base hand m) (hs : d.Stands base m.lastId)
    (hr : Returned rules policy d m l d' m') : d'.Chronicled rules policy base hand m' := by
  cases hr with
  | @intro t d₁ n₀ n j _ hl hb ht hn hf hj =>
    have hsame := hf.frame.2
    have hs₁ := hf.stands (hs.mono hn)
    have hl₁ : d₁.tables.loans.get? l.id = some l := by rw [hsame.loans]; exact hl
    have h₁ : d₁.Chronicled rules policy base hand m := h.congr hsame
    have hguard : (d₁.guard l.id l.renewCount).Chronicled rules policy base hand m := h₁.congr ⟨rfl, rfl, rfl, rfl⟩
    refine hguard.record hs₁.loans hs₁.entries.keyed hj rfl ht (fun b hb' => ?_) ?_
    · cases hl₁.symm.trans hb'
      exact .closed hb t
    · exact (h₁.tables.loans l.id l hl₁).closed hb j

/-- Loans and history agree after a move of a desk operation. -/
theorem move (h : d.Chronicled rules policy base hand m) (hvalid : policy.isValid = true) (hs : d.Stands base m.lastId)
    (hm : Move rules policy d m d' m') : d'.Chronicled rules policy base hand m' := by
  cases hm with
  | lock | cancel | withdraw | settle => exact h.congr ⟨rfl, rfl, rfl, rfl⟩
  | borrow t _ _ hr ho => exact ((h.congr hr.frame.2.2).opened hvalid (hr.stands hs) ho).congr ⟨rfl, rfl, rfl, rfl⟩
  | takeBack t _ _ _ hr => exact (h.returned hs hr).congr ⟨rfl, rfl, rfl, rfl⟩
  | renew _ _ _ hr => exact h.renewed hvalid hs hr
  | reserve t _ _ _ hr => exact (h.later hr.later).congr ⟨rfl, rfl, rfl, rfl⟩
  | addCopy _ hl => exact (h.later hl).congr ⟨rfl, rfl, rfl, rfl⟩

end Draft.Chronicled

/-! ## Publishing -/

/-- Whether each loan of a ledger is as it was, with its history, or has been overtaken. -/
def Ledger.LoansMoved (base l : Ledger) : Prop :=
  ∀ id b, base.tables.loans.get? id = some b →
    base.tables.SameLoan l.tables id ∨ ∃ row, l.tables.loans.get? id = some row ∧ b.OvertakenBy row

theorem Ledger.LoansMoved.trans {base l l' : Ledger} (h : base.LoansMoved l) (h' : l.LoansMoved l') :
    base.LoansMoved l' := by
  intro id b hb
  rcases h id b hb with hsame | ⟨row, hrow, hover⟩
  · have hl : l.tables.loans.get? id = some b := hsame.loan.trans hb
    exact (h' id b hl).imp_left hsame.trans
  · rcases h' id row hrow with hsame | ⟨row', hrow', hover'⟩
    · exact .inr ⟨row, hsame.loan.trans hrow, hover⟩
    · exact .inr ⟨row', hrow', hover.trans hover'⟩

namespace Committing

variable {l l' : Ledger} {x : Transaction} {committed : List Transaction} {rules : Rules} {policy : Policy}
  {t : Instant} {id : Int}

/-- The loan that a draft wrote, and that was there when it began, has not been touched since: it is guarded. -/
theorem loan_untouched (h : Committing l x committed l') (hmoved : x.base.LoansMoved l)
    (hw : x.draft.written.loans.contains id = true) {b : Loan} (hb : x.base.tables.loans.get? id = some b) :
    x.base.tables.SameLoan l.tables id := by
  obtain ⟨n, hn⟩ := Table.contains_iff.1 (h.stands.guarded id hw (Table.contains_of_get? hb))
  obtain ⟨-, hguard⟩ := h.stands.guards id n hn
  rcases hmoved id b hb with hsame | ⟨row, hrow, hover⟩
  · exact hsame
  · obtain ⟨hout, hcount⟩ := h.clear.guards id n row hn hrow
    exact absurd (hcount.trans (hguard b hb).2.symm) (hover.not_same hout)

/-- What a draft recorded of a loan is published as it is. -/
theorem sameLoan_draft (h : Committing l x committed l') (hbase : x.base.tables.Chronicled policy rules.steady t)
    (hl : l.tables.Chronicled policy rules.steady t) (hmoved : x.base.LoansMoved l)
    (hw : x.draft.written.loans.contains id = true) : x.draft.tables.SameLoan l'.tables id where
  loan := by rw [h.loans, if_pos hw]
  entries := by
    have hsame : ∀ j e, e.loanId = id → (x.base.tables.entries.get? j = some e ↔ l.tables.entries.get? j = some e) := by
      cases hb : x.base.tables.loans.get? id with
      | some b => exact (h.loan_untouched hmoved hw hb).entries
      | none =>
        -- The loan is new, so neither the base nor the ledger tells of it.
        have hd := h.stands.loans.held id hw
        have hnew : ¬l.tables.loans.contains id = true := fun hc =>
          Table.not_contains_iff.2 hb (h.stands.loans.old id hd (h.apart.old (.inr (.inl hd)) (.inr (.inl hc))))
        intro j e he
        subst he
        exact ⟨fun he => absurd (hbase.named j e he) (Table.not_contains_iff.2 hb),
          fun he => absurd (hl.named j e he) hnew⟩
    intro j e he
    rw [h.eq]
    exact h.stands.entries.publish_draft hsame j e he

/-- Of a loan that a draft did not write the ledger goes on to tell what it told. -/
theorem sameLoan_ledger (h : Committing l x committed l')
    (hwritten : ∀ j e, x.draft.written.entries.contains j = true → x.draft.tables.entries.get? j = some e →
      x.draft.written.loans.contains e.loanId = true)
    (hw : ¬x.draft.written.loans.contains id = true) : l.tables.SameLoan l'.tables id where
  loan := by rw [h.loans, if_neg hw]
  entries := by
    intro j e he
    rw [h.eq]
    refine h.stands.entries.publish_ledger (P := fun e => e.loanId = id) h.since.entries ?_ ?_ ?_ j e he
    · exact fun j hd hl => h.apart.old (.inr (.inr (.inl hd))) (.inr (.inr (.inl hl)))
    · intro a b hab ha
      exact (congrArg LoanEntry.loanId hab).symm.trans ha
    · exact fun j a hwj ha hid => hw (hid ▸ hwritten j a hwj ha)

/-- A commit of a draft that keeps its loans and history together leaves them so. -/
theorem chronicled (h : Committing l x committed l') (hbase : x.base.tables.Chronicled policy rules.steady t)
    (hl : l.tables.Chronicled policy rules.steady t) (hmoved : x.base.LoansMoved l)
    (hd : x.draft.Chronicled rules policy x.base x.inHand ⟨l.lastId, t⟩) :
    l'.tables.Chronicled policy rules.steady t ∧ l.LoansMoved l' := by
  have hdraft {id : Int} (hw : x.draft.written.loans.contains id = true) := h.sameLoan_draft hbase hl hmoved hw
  have hledger {id : Int} (hw : ¬x.draft.written.loans.contains id = true) := h.sameLoan_ledger hd.written hw
  refine ⟨⟨fun id a ha => ?_, fun j e he => ?_, fun hs id => ?_⟩, fun id a ha => ?_⟩
  · by_cases hw : x.draft.written.loans.contains id = true
    · rw [(hdraft hw).entriesOf]
      exact hd.tables.loans id a ((hdraft hw).loan ▸ ha)
    · rw [(hledger hw).entriesOf]
      exact hl.loans id a ((hledger hw).loan ▸ ha)
  · by_cases hw : x.draft.written.loans.contains e.loanId = true
    · obtain ⟨a, ha⟩ := Table.contains_iff.1 (hd.tables.named j e (((hdraft hw).entries j e rfl).2 he))
      exact Table.contains_of_get? ((hdraft hw).loan.trans ha)
    · obtain ⟨a, ha⟩ := Table.contains_iff.1 (hl.named j e (((hledger hw).entries j e rfl).2 he))
      exact Table.contains_of_get? ((hledger hw).loan.trans ha)
  · by_cases hw : x.draft.written.loans.contains id = true
    · rw [(hdraft hw).entriesOf]
      exact hd.tables.inTime hs id
    · rw [(hledger hw).entriesOf]
      exact hl.inTime hs id
  · by_cases hw : x.draft.written.loans.contains id = true
    · obtain ⟨row, hrow⟩ := Table.contains_iff.1 (h.stands.loans.held id hw)
      have hid := h.apart.old (.inr (.inl (Table.contains_of_get? hrow))) (.inr (.inl (Table.contains_of_get? ha)))
      obtain ⟨b, hb⟩ := Table.contains_iff.1 (h.stands.loans.old id (Table.contains_of_get? hrow) hid)
      have hab : some a = some b := ha.symm.trans ((h.loan_untouched hmoved hw hb).loan.trans hb)
      cases hab
      exact .inr ⟨row, (hdraft hw).loan.trans hrow, hd.overtaken id a row hb hw hrow⟩
    · exact .inl (hledger hw)

end Committing

/-- Transactions of desk operations and of direct renewals and returns of loans that were read before, none of which goes on
after a refusal. -/
def Rules.counter (policy : Policy) (steady : Prop) : Rules where
  allows hand p := (∃ o : Operation, p = o.procedure policy) ∨
    (∃ id, p = (Lending.get id).bind fun l => .done [l]) ∨
    ∃ l ∈ hand, p = (Lending.renew policy l).quietly ∨ p = (Lending.takeBack policy l).quietly
  strict := True
  steady := steady

namespace Draft.Chronicled

variable {policy : Policy} {steady : Prop} {base : Ledger} {d d' : Draft} {hand : List Loan} {m m' : Moment}

/-- Loans and history agree after everything that is done at the counter. -/
theorem call {p : Procedure (List Loan)} (h : d.Chronicled (Rules.counter policy steady) policy base hand m)
    (hvalid : policy.isValid = true) (hs : d.Stands base m.lastId) (hp : (Rules.counter policy steady).allows hand p) :
    p.Ensures (Rules.counter policy steady)
      (fun loans d' m' => d'.Chronicled (Rules.counter policy steady) policy base (loans ++ hand) m')
      (fun d' m' => ¬(Rules.counter policy steady).strict →
        d'.Chronicled (Rules.counter policy steady) policy base hand m') d m := by
  rcases hp with ⟨o, rfl⟩ | ⟨id, rfl⟩ | ⟨l, hl, hp⟩
  · refine (o.keeps (I := fun d m => d.Chronicled (Rules.counter policy steady) policy base hand m) hs h
      (fun _ _ _ hl h => h.later hl) fun _ _ _ _ hs hmove h => h.move hvalid hs hmove).mono
      (fun loans d' m' hkept => ?_) fun _ _ hkept _ => hkept
    rw [hkept.1]
    exact hkept.2
  · rw [Procedure.ensures_bind]
    refine Lending.get_ensures (fun l m' hl hget => ?_) fun m' hl hs => absurd trivial hs
    refine { h.later hl with inHand := fun a ha => ?_ }
    rcases List.mem_cons.1 ha with rfl | ha
    · have hid : a.id = id := (hs.loans.keyed id a hget).1
      exact ⟨a, hid ▸ hget, .inl rfl⟩
    · exact h.inHand a ha
  · obtain ⟨row, hrow, hover⟩ := h.inHand l hl
    have hfresh : row.isBorrowed = true → row.renewCount = l.renewCount → row = l := fun hb hn =>
      hover.resolve_right fun hover => hover.not_same hb hn
    rcases hp with rfl | rfl
    · rw [Procedure.quietly, Procedure.ensures_bind]
      refine Lending.renew_ensures hrow hfresh (fun _ d' m' hr => h.renewed hvalid hs hr) ?_ ?_
      · exact fun hs => absurd trivial hs
      · exact fun _ _ _ hs => absurd trivial hs
    · rw [Procedure.quietly, Procedure.ensures_bind]
      refine Lending.takeBack_ensures hrow hfresh (fun _ d' m' hr => h.returned hs hr) ?_ ?_
      · exact fun hs => absurd trivial hs
      · exact fun _ _ _ hs => absurd trivial hs

end Draft.Chronicled

/-- The discipline of loans that agree with their history. -/
def bookkeeping (policy : Policy) (steady : Prop) (hvalid : policy.isValid = true) :
    Discipline (Rules.counter policy steady) where
  Good l t _ := l.tables.Chronicled policy steady t
  Fit base d hand m := d.Chronicled (Rules.counter policy steady) policy base hand m
  Moved base l _ := base.LoansMoved l
  good_start _ _ := .empty
  good_grown hg h := by
    rw [hg.tables]
    exact h.congr rfl rfl
  good_later hle h := h.later hle
  moved_grown hg id b _ := by
    rw [hg.tables]
    exact .inl (.of_eq rfl rfl)
  moved_trans := .trans
  fit_begin _ h := .begin h
  fit_later hl h := h.later hl
  fit_call _ hs _ hfit hp := hfit.call hvalid hs hp
  commit _ hcom hl hbase hmoved hfit := hcom.chronicled hbase hl hmoved hfit

/-- In every committed state each loan agrees with its history, listed by id: a borrowing, as many renewals as it counts and
none too many, and a return exactly if it is returned. If the clock never goes back, whoever asks for the history gets it
in that order. -/
theorem history_agrees {policy : Policy} {steady : Prop} {s : Traffic} (hvalid : policy.isValid = true)
    (h : Reachable (Rules.counter policy steady) s) {id : Int} {l : Loan} (hl : s.ledger.tables.loans.get? id = some l) :
    Chronicle policy l (s.ledger.tables.entriesOf id) ∧
      ((s.ledger.tables.entriesOf id).Pairwise fun a b => a.id < b.id) ∧
      (s.ledger.tables.entriesOf id).getLast?.map (·.dueDate) = some l.dueDate ∧
      (l.returnDate.isSome = true ↔ l.status = .returned) ∧
      (steady → ∀ timeline readings,
        (Lending.entries id).run (Work.store timeline) ⟨s.ledger.draft, s.ledger.lastId, readings⟩ =
          (.ok (s.ledger.tables.entriesOf id), ⟨s.ledger.draft, s.ledger.lastId, readings⟩)) := by
  have hgood : s.ledger.tables.Chronicled policy steady s.clock := ((bookkeeping policy steady hvalid).holds h).good
  have hstory := hgood.loans id l hl
  have hids := Tables.entriesOf_ids h.sound.ledger.entries id
  refine ⟨hstory, hids, hstory.last, hstory.returnDate_isSome, fun hs timeline readings => ?_⟩
  have hsort := (hgood.inTime hs id).sort_eq hids
  have hlisted : Window.ascending.apply (Listed.sort (s.ledger.tables.entriesOf id)) = s.ledger.tables.entriesOf id := by
    rw [hsort]
    rfl
  exact congrArg (fun es => (Except.ok es, (⟨s.ledger.draft, s.ledger.lastId, readings⟩ : Work))) hlisted

/-- A desk where one loan is out. -/
def lentOnce : Traffic :=
  let s : Traffic := { clock := .epoch }
  let s := ((s.act (.addBook "Emma")).act (.addUser "ann")).act (.begin 0)
  let s := (s.serve 0 (Operation.procedure {} (.addCopy 1))).serve 0 (Operation.procedure {} (.borrow 3 2))
  s.act (.commit 0)

theorem lentOnce_reachable : Reachable (Rules.counter {} True) lentOnce := by
  have start : Reachable (Rules.counter {} True) { clock := .epoch } := .start .epoch trivial
  have opened := ((start.act (.addBook "Emma") trivial).act (.addUser "ann") trivial).act (.begin 0) trivial
  have added := opened.serve (k := 0) (fun _ _ => .inl ⟨.addCopy 1, rfl⟩) fun _ => by decide +kernel
  have lent := added.serve (k := 0) (fun _ _ => .inl ⟨.borrow 3 2, rfl⟩) fun _ => by decide +kernel
  exact lent.commit 0 fun _ => by decide +kernel

/-- The loan as it is before anybody renews it. -/
def firstLoan : Loan :=
  (lentOnce.ledger.tables.loans.get? 4).get (by decide +kernel)

/-- A day later somebody has read the loan. -/
def loanRead : Traffic :=
  let s := lentOnce.act (.setClock ((Instant.epoch.add? ⟨Span.day⟩).getD .epoch))
  (s.act (.begin 0)).serve 0 ((Lending.get 4).bind fun l => .done [l])

/-- The loan that was read is renewed without the lock on its copy, and returned at the desk. -/
def renewedAndReturned : Traffic :=
  let s := (loanRead.serve 0 (Lending.renew {} firstLoan).quietly).act (.commit 0)
  ((s.act (.begin 0)).serve 0 (Operation.procedure {} (.returnLoan 4))).act (.commit 0)

theorem renewedAndReturned_reachable : Reachable (Rules.counter {} True) renewedAndReturned := by
  have later := lentOnce_reachable.act (.setClock ((Instant.epoch.add? ⟨Span.day⟩).getD .epoch))
    ⟨trivial, fun _ => by decide +kernel⟩
  have read : Reachable (Rules.counter {} True) loanRead :=
    (later.act (.begin 0) trivial).serve (fun _ _ => .inr (.inl ⟨4, rfl⟩)) fun _ => by decide +kernel
  have inHand : ∀ x, loanRead.opened 0 = some x → firstLoan ∈ x.inHand := by decide +kernel
  have renewed := read.serve (k := 0) (fun x hx => .inr (.inr ⟨firstLoan, inHand x hx, .inl rfl⟩))
    fun _ => by decide +kernel
  have begun := (renewed.commit 0 fun _ => by decide +kernel).act (.begin 0) trivial
  have returned := begun.serve (k := 0) (fun _ _ => .inl ⟨.returnLoan 4, rfl⟩) fun _ => by decide +kernel
  exact returned.commit 0 fun _ => by decide +kernel

/-- The loan once it was returned. -/
def lastLoan : Loan :=
  (renewedAndReturned.ledger.tables.loans.get? 4).get (by decide +kernel)

/-- The loan has the entries of its borrowing, its renewal and its return there, and they are listed so. -/
theorem renewedAndReturned_history :
    (renewedAndReturned.ledger.tables.entriesOf 4).map (·.event) = [.borrowed, .renewed, .returned] ∧
      lastLoan.renewCount = 1 ∧ Chronicle {} lastLoan (renewedAndReturned.ledger.tables.entriesOf 4) ∧
      ∀ timeline readings, ((Lending.entries 4).run (Work.store timeline)
        ⟨renewedAndReturned.ledger.draft, renewedAndReturned.ledger.lastId, readings⟩).1 =
          .ok (renewedAndReturned.ledger.tables.entriesOf 4) :=
  have agrees := history_agrees (by decide) renewedAndReturned_reachable
    (Option.some_get _).symm (l := lastLoan)
  ⟨by decide +kernel, by decide +kernel, agrees.1, fun timeline readings => by rw [agrees.2.2.2.2 trivial]⟩

end Circulation
