import Circulation.Proofs.Account

/-!
# Renaming

The operations without limits name copies, entries and fines by ids that they do not look at: with the ids renamed that they
are given, that their requests name and that the answers tell of, they do the same and end with the same outcome
(`Operation.carryOut_parallel`). What they read is guarded on their page: a loan or a reservation by the lock on its copy, and
a fine by its settlement (`Deed.Parallel`).
-/

namespace Circulation

variable (ρ : Int → Int)

/-- The copy under its new id. -/
def Copy.rename (c : Copy) : Copy :=
  { c with id := ρ c.id }

/-- The loan with the new id of its copy. -/
def Loan.rename (l : Loan) : Loan :=
  { l with copyId := ρ l.copyId }

/-- The entry under its new id. -/
def LoanEntry.rename (e : LoanEntry) : LoanEntry :=
  { e with id := ρ e.id }

/-- The reservation with the new id of its copy. -/
def Reservation.rename (r : Reservation) : Reservation :=
  { r with copyId := ρ r.copyId }

/-- The fine under its new id. -/
def Fine.rename (f : Fine) : Fine :=
  { f with id := ρ f.id }

/-- The outcome with new ids. -/
def Outcome.rename : Outcome → Outcome
  | .loan l => .loan (l.rename ρ)
  | .reservation r => .reservation (r.rename ρ)
  | .copy c => .copy (c.rename ρ)
  | .copies cs => .copies (cs.map (·.rename ρ))
  | .fine f => .fine (f.rename ρ)

namespace Operation

/-- The operation on the copy or the fine with the new id. -/
def rename : Operation → Operation
  | .borrow copyId userId => .borrow (ρ copyId) userId
  | .returnCopy copyId => .returnCopy (ρ copyId)
  | .reserve copyId userId => .reserve (ρ copyId) userId
  | .removeCopy copyId => .removeCopy (ρ copyId)
  | .settleFine fineId => .settleFine (ρ fineId)
  | .returnLoan loanId => .returnLoan loanId
  | .renew loanId => .renew loanId
  | .cancelReservation reservationId => .cancelReservation reservationId
  | .addCopy bookId => .addCopy bookId
  | .addCopies bookId count => .addCopies bookId count

/-- Whether an operation is held to the limits of a user. -/
def limited : Operation → Bool
  | .borrow _ _ | .reserve _ _ => true
  | _ => false

end Operation

/-- A deed of an operation without limits, and the same deed with new ids. What was read is guarded by other deeds of the
page. -/
inductive Deed.Parallel (page : List Deed) : Deed → Deed → Prop where
  | read (t : Instant) : Parallel page (.read t) (.read t)
  | getBook (id : Int) (b : Book) :
    Parallel page (.asked (.getBook id) (.ok (some b))) (.asked (.getBook id) (.ok (some b)))
  | lockCopy (id : Int) (c : Copy) :
    Parallel page (.asked (.lockCopy id) (.ok (some c))) (.asked (.lockCopy (ρ id)) (.ok (some (c.rename ρ))))
  | insertCopy (bookId : Int) (t : Instant) (c : Copy) :
    Parallel page (.asked (.insertCopy bookId t) (.ok c)) (.asked (.insertCopy bookId t) (.ok (c.rename ρ)))
  | moveCopy (id : Int) (expected status : CopyStatus) (t : Instant) :
    Parallel page (.asked (.moveCopy id expected status t) (.ok true))
      (.asked (.moveCopy (ρ id) expected status t) (.ok true))
  | withdrawCopy (id : Int) (t : Instant) :
    Parallel page (.asked (.withdrawCopy id t) (.ok true)) (.asked (.withdrawCopy (ρ id) t) (.ok true))
  | getLoan (id : Int) (l l' : Loan) : .asked (.getLoan id) (.ok (some l')) ∈ page →
    page.any (Deed.locks l'.copyId) = true →
    Parallel page (.asked (.getLoan id) (.ok (some l))) (.asked (.getLoan id) (.ok (some (l.rename ρ))))
  | activeLoan (id : Int) (c : Copy) (l : Loan) : .asked (.lockCopy id) (.ok (some c)) ∈ page →
    Parallel page (.asked (.activeLoan c.id) (.ok (some l))) (.asked (.activeLoan (ρ c.id)) (.ok (some (l.rename ρ))))
  | updateLoan (l : Loan) (expected : Int) :
    Parallel page (.asked (.updateLoan l expected) (.ok true)) (.asked (.updateLoan (l.rename ρ) expected) (.ok true))
  | insertEntry (e : NewLoanEntry) (row : LoanEntry) :
    Parallel page (.asked (.insertEntry e) (.ok row)) (.asked (.insertEntry e) (.ok (row.rename ρ)))
  | getReservation (id : Int) (r : Reservation) : page.any (Deed.locks r.copyId) = true →
    Parallel page (.asked (.getReservation id) (.ok (some r))) (.asked (.getReservation id) (.ok (some (r.rename ρ))))
  | fulfil (id : Int) (t : Instant) :
    Parallel page (.asked (.moveReservation id .pending .fulfilled t) (.ok true))
      (.asked (.moveReservation id .pending .fulfilled t) (.ok true))
  | getFine (id : Int) (f : Fine) (t : Instant) : .asked (.settleFine id t) (.ok true) ∈ page →
    Parallel page (.asked (.getFine id) (.ok (some f))) (.asked (.getFine (ρ id)) (.ok (some (f.rename ρ))))
  | insertFine (f : NewFine) (row : Fine) :
    Parallel page (.asked (.insertFine f) (.ok row)) (.asked (.insertFine f) (.ok (row.rename ρ)))
  | settleFine (id : Int) (t : Instant) :
    Parallel page (.asked (.settleFine id t) (.ok true)) (.asked (.settleFine (ρ id) t) (.ok true))

/-- Whether a procedure whose deeds are on a page has one beside it that does the same with new ids. -/
def Procedure.Parallel {α β : Type} (page : List Deed) (f : α → β) (p : Procedure α) (p' : Procedure β) : Prop :=
  ∀ ds a, p.Tells ds a → ds ⊆ page → ∃ ds', List.Forall₂ (Deed.Parallel ρ page) ds ds' ∧ p'.Tells ds' (f a)

variable {ρ : Int → Int} {page : List Deed}

namespace Procedure

variable {α β γ δ : Type}

/-- Results with new ids are parallel. -/
theorem parallel_done {f : α → β} {a : α} {b : β} (h : f a = b) : Parallel ρ page f (.done a) (.done b) := by
  rintro ds c ⟨rfl, rfl⟩ -
  exact ⟨[], .nil, rfl, h.symm⟩

/-- A refusal has nothing to be parallel to. -/
theorem parallel_refuse {f : α → β} {why : Refusal} {p' : Procedure β} : Parallel ρ page f (refuse why) p' :=
  fun _ _ h => h.elim

/-- One procedure after another. The first may count on the deeds of the second being on the page, and the second on those
of the first. -/
theorem parallel_bind_on {f : α → β} {g : γ → δ} {p : Procedure α} {p' : Procedure β} {k : α → Procedure γ}
    {k' : β → Procedure δ}
    (hp : ∀ ds a, p.Tells ds a → ds ⊆ page → (∃ fs b, (k a).Tells fs b ∧ fs ⊆ page) →
      ∃ ds', List.Forall₂ (Deed.Parallel ρ page) ds ds' ∧ p'.Tells ds' (f a))
    (hk : ∀ ds a, p.Tells ds a → ds ⊆ page → Parallel ρ page g (k a) (k' (f a))) :
    Parallel ρ page g (p.bind k) (p'.bind k') := by
  intro ds c h hds
  obtain ⟨es, fs, a, rfl, ha, hc⟩ := tells_bind.1 h
  obtain ⟨hes, hfs⟩ := List.append_subset.1 hds
  obtain ⟨es', hpar, ha'⟩ := hp es a ha hes ⟨fs, c, hc, hfs⟩
  obtain ⟨fs', hpar', hc'⟩ := hk es a ha hes fs c hc hfs
  exact ⟨es' ++ fs', List.rel_append hpar hpar', tells_bind.2 ⟨es', fs', f a, rfl, ha', hc'⟩⟩

/-- Procedures are parallel when what follows on their results is. -/
theorem parallel_bind {f : α → β} {g : γ → δ} {p : Procedure α} {p' : Procedure β} {k : α → Procedure γ}
    {k' : β → Procedure δ} (hp : Parallel ρ page f p p') (hk : ∀ a, Parallel ρ page g (k a) (k' (f a))) :
    Parallel ρ page g (p.bind k) (p'.bind k') :=
  parallel_bind_on (fun ds a ha hds _ => hp ds a ha hds) fun _ a _ _ => hk a

/-- Readings of the clock are parallel. -/
theorem parallel_now : Parallel ρ page id now now := by
  intro ds t h _
  obtain rfl := tells_now.1 h
  exact ⟨_, .cons (.read t) .nil, tells_now.2 rfl⟩

/-- Arithmetic is parallel, with no id in it. -/
theorem parallel_checked (e : Except Overflow α) : Parallel ρ page id (checked e) (checked e) := by
  intro ds a h _
  obtain ⟨rfl, ha⟩ := tells_checked.1 h
  exact ⟨[], .nil, tells_checked.2 ⟨rfl, ha⟩⟩

/-- What is ensured is parallel, whatever it is refused with. -/
theorem parallel_ensure (condition : Bool) (why why' : Refusal) :
    Parallel ρ page id (ensure condition why) (ensure condition why') := by
  intro ds u h _
  obtain ⟨rfl, hc⟩ := tells_ensure.1 h
  exact ⟨[], .nil, tells_ensure.2 ⟨rfl, hc⟩⟩

/-- A request whose deed has one beside it. -/
theorem parallel_request {q q' : Request} {f : q.Answer → q'.Answer}
    (h : ∀ a, .asked q (.ok a) ∈ page → Deed.Parallel ρ page (.asked q (.ok a)) (.asked q' (.ok (f a)))) :
    Parallel ρ page f (request q) (request q') := by
  intro ds a ha hds
  obtain rfl := tells_request.1 ha
  exact ⟨_, .cons (h a (hds (List.mem_singleton_self _))) .nil, tells_request.2 rfl⟩

/-- A write whose condition held, with one beside it whose condition holds too. -/
theorem parallel_written {q q' : Request} {held : q.Answer → Bool} {held' : q'.Answer → Bool} {why why' : Refusal}
    (h : ∀ o, held o = true → ∃ o', held' o' = true ∧ Deed.Parallel ρ page (.asked q (.ok o)) (.asked q' (.ok o'))) :
    Parallel ρ page id ((request q).bind fun o => ensure (held o) why)
      ((request q').bind fun o => ensure (held' o) why') := by
  intro ds u hu _
  obtain ⟨o, rfl, hheld⟩ := tells_written.1 hu
  obtain ⟨o', hheld', hpar⟩ := h o hheld
  exact ⟨_, .cons hpar .nil, tells_written.2 ⟨o', rfl, hheld'⟩⟩

end Procedure

open Procedure

/-! ## Loans, reservations and fines -/

namespace Lending

/-- Loans are written in parallel. -/
theorem write_parallel (l : Loan) (expected : Int) :
    Parallel ρ page id (write l expected) (write (l.rename ρ) expected) := by
  refine parallel_written ?_
  rintro _ rfl
  exact ⟨true, rfl, .updateLoan l expected⟩

/-- Returns are charged in parallel. -/
theorem charge_parallel (policy : Policy) (l : Loan) (t : Instant) :
    Parallel ρ page (Option.map (Fine.rename ρ)) (Charges.charge policy l t) (Charges.charge policy (l.rename ρ) t) := by
  simp only [Charges.charge, bind_eq, pure_eq]
  refine parallel_bind (parallel_checked _) fun charge => ?_
  cases charge with
  | none => exact parallel_done rfl
  | some amount =>
    exact parallel_bind (parallel_request fun row _ => .insertFine ⟨l.id, amount, t⟩ row) fun _ => parallel_done rfl

/-- Loans are taken back in parallel. -/
theorem takeBack_parallel (policy : Policy) (l : Loan) :
    Parallel ρ page (Loan.rename ρ) (takeBack policy l) (takeBack policy (l.rename ρ)) := by
  simp only [takeBack, bind_eq, pure_eq]
  refine parallel_bind (parallel_ensure _ _ _) fun _ => parallel_bind parallel_now fun t => ?_
  refine parallel_bind (charge_parallel policy l t) fun _ => parallel_bind (write_parallel _ _) fun _ => ?_
  exact parallel_bind (parallel_request fun row _ => .insertEntry _ row) fun _ => parallel_done rfl

/-- Whether a loan may be renewed does not depend on ids. -/
theorem ensureRenewable_parallel (policy : Policy) (l : Loan) :
    Parallel ρ page id (ensureRenewable policy l) (ensureRenewable policy (l.rename ρ)) := by
  unfold ensureRenewable
  split
  · exact parallel_done rfl
  · exact parallel_ensure _ _ _

/-- Loans are renewed in parallel. -/
theorem renew_parallel (policy : Policy) (l : Loan) :
    Parallel ρ page (Loan.rename ρ) (renew policy l) (renew policy (l.rename ρ)) := by
  simp only [renew, bind_eq, pure_eq]
  refine parallel_bind (parallel_ensure _ _ _) fun _ => parallel_bind (ensureRenewable_parallel policy l) fun _ => ?_
  refine parallel_bind parallel_now fun t => parallel_bind (parallel_checked _) fun period => ?_
  refine parallel_bind (parallel_checked _) fun due => parallel_bind (write_parallel _ _) fun _ => ?_
  exact parallel_bind (parallel_request fun row _ => .insertEntry _ row) fun _ => parallel_done rfl

end Lending

/-- Holds are fulfilled in parallel. -/
theorem Holds.fulfil_parallel (r : Reservation) :
    Parallel ρ page (Reservation.rename ρ) (fulfil r) (fulfil (r.rename ρ)) := by
  simp only [fulfil, bind_eq, pure_eq]
  refine parallel_bind (parallel_ensure _ _ _) fun _ => parallel_bind parallel_now fun t => ?_
  rw [← bind_assoc, ← bind_assoc]
  refine parallel_bind (parallel_written ?_) fun _ => parallel_done rfl
  rintro _ rfl
  exact ⟨true, rfl, .fulfil r.id t⟩

/-! ## Copies -/

namespace Desk

/-- A copy that was locked is locked on the page. -/
theorem any_locks_of_tells {id : Int} {ds : List Deed} {c : Copy} (h : (lockCopy id).Tells ds c) (hds : ds ⊆ page) :
    page.any (Deed.locks id) = true := by
  obtain rfl := lockCopy_tells.1 h
  exact List.any_eq_true.2 ⟨_, hds (List.mem_singleton_self _), by simp [Deed.locks]⟩

/-- Copies are locked in parallel, by their new ids. -/
theorem lockCopy_parallel (id : Int) : Parallel ρ page (Copy.rename ρ) (lockCopy id) (lockCopy (ρ id)) := by
  intro ds c h _
  obtain rfl := lockCopy_tells.1 h
  exact ⟨_, .cons (.lockCopy id c) .nil, lockCopy_tells.2 rfl⟩

/-- Copies are moved in parallel. -/
theorem moveCopy_parallel (c : Copy) (status : CopyStatus) :
    Parallel ρ page id (moveCopy c status) (moveCopy (c.rename ρ) status) := by
  simp only [moveCopy, bind_eq]
  refine parallel_bind parallel_now fun t => parallel_written ?_
  rintro _ rfl
  exact ⟨true, rfl, .moveCopy c.id c.status status t⟩

/-- Whether a copy is on the shelf does not depend on ids. -/
theorem ensureAvailable_parallel (c : Copy) : Parallel ρ page id (ensureAvailable c) (ensureAvailable (c.rename ρ)) := by
  have hsame : ensureAvailable (c.rename ρ) = ensureAvailable c := rfl
  rw [hsame]
  unfold ensureAvailable
  cases c.status with
  | available => exact parallel_done rfl
  | onLoan => exact parallel_refuse
  | onReserve => exact parallel_refuse

/-- Loans are closed in parallel, with their copies. -/
theorem closeLoan_parallel (policy : Policy) (c : Copy) (l : Loan) :
    Parallel ρ page (Loan.rename ρ) (closeLoan policy c l) (closeLoan policy (c.rename ρ) (l.rename ρ)) := by
  simp only [closeLoan, bind_eq, pure_eq]
  refine parallel_bind (parallel_ensure _ _ _) fun _ => parallel_bind (Lending.takeBack_parallel policy l) fun _ => ?_
  exact parallel_bind (moveCopy_parallel c _) fun _ => parallel_done rfl

/-- A loan that is read, locked by its copy and read again is guarded both times by that lock. -/
theorem lockLoan_parallel (loanId : Int) :
    Parallel ρ page (Prod.map (Copy.rename ρ) (Loan.rename ρ)) (lockLoan loanId) (lockLoan loanId) := by
  simp only [lockLoan, bind_eq, pure_eq]
  refine parallel_bind_on (f := Loan.rename ρ) (fun ds l hl hds hrest => ?_) fun ds l hl hds => ?_
  · obtain rfl := Lending.get_tells.1 hl
    obtain ⟨fs, b, hb, hfs⟩ := hrest
    obtain ⟨es, _, c, rfl, hc, -⟩ := tells_bind.1 hb
    have hlock := any_locks_of_tells hc fun e he => hfs (List.mem_append_left _ he)
    exact ⟨_, .cons (.getLoan loanId l l (hds (List.mem_singleton_self _)) hlock) .nil, Lending.get_tells.2 rfl⟩
  · obtain rfl := Lending.get_tells.1 hl
    refine parallel_bind_on (fun es c hc hes _ => lockCopy_parallel l.copyId es c hc hes) fun es c hc hes => ?_
    refine parallel_bind (f := Loan.rename ρ) (fun fs l' hl' _ => ?_) fun l' => parallel_done rfl
    obtain rfl := Lending.get_tells.1 hl'
    have hlock := any_locks_of_tells hc hes
    exact ⟨_, .cons (.getLoan loanId l' l (hds (List.mem_singleton_self _)) hlock) .nil, Lending.get_tells.2 rfl⟩

/-- Loans are returned in parallel, by their own ids. -/
theorem returnLoan_parallel (policy : Policy) (loanId : Int) :
    Parallel ρ page (Loan.rename ρ) (returnLoan policy loanId) (returnLoan policy loanId) :=
  parallel_bind (lockLoan_parallel loanId) fun p => closeLoan_parallel policy p.1 p.2

/-- Loans are renewed at the desk in parallel, by their own ids. -/
theorem renew_parallel (policy : Policy) (loanId : Int) :
    Parallel ρ page (Loan.rename ρ) (renew policy loanId) (renew policy loanId) :=
  parallel_bind (lockLoan_parallel loanId) fun p =>
    parallel_bind (parallel_ensure _ _ _) fun _ => Lending.renew_parallel policy p.2

/-- Copies are brought back in parallel, by their new ids. -/
theorem returnCopy_parallel (policy : Policy) (copyId : Int) :
    Parallel ρ page (Loan.rename ρ) (returnCopy policy copyId) (returnCopy policy (ρ copyId)) := by
  simp only [returnCopy, bind_eq]
  refine parallel_bind_on (fun ds c hc hds _ => lockCopy_parallel copyId ds c hc hds) fun ds c hc hds => ?_
  rw [← bind_assoc, ← bind_assoc]
  refine parallel_bind (f := Loan.rename ρ) (fun es l hl _ => ?_) fun l => closeLoan_parallel policy c l
  obtain rfl := lockCopy_tells.1 hc
  obtain ⟨o, rfl, rfl⟩ := tells_found.1 hl
  exact ⟨_, .cons (.activeLoan copyId c l (hds (List.mem_singleton_self _))) .nil, tells_found.2 ⟨_, rfl, rfl⟩⟩

/-- Reservations are cancelled in parallel, by their own ids. -/
theorem cancelReservation_parallel (id : Int) :
    Parallel ρ page (Reservation.rename ρ) (cancelReservation id) (cancelReservation id) := by
  simp only [cancelReservation, bind_eq, pure_eq]
  refine parallel_bind_on (f := Reservation.rename ρ) (fun ds r hr hds hrest => ?_) fun ds r hr hds => ?_
  · obtain rfl := Holds.get_tells.1 hr
    obtain ⟨fs, b, hb, hfs⟩ := hrest
    obtain ⟨es, _, c, rfl, hc, -⟩ := tells_bind.1 hb
    have hlock := any_locks_of_tells hc fun e he => hfs (List.mem_append_left _ he)
    exact ⟨_, .cons (.getReservation id r hlock) .nil, Holds.get_tells.2 rfl⟩
  · refine parallel_bind (lockCopy_parallel r.copyId) fun c => parallel_bind (parallel_ensure _ _ _) fun _ => ?_
    refine parallel_bind (Holds.fulfil_parallel r) fun _ => ?_
    exact parallel_bind (moveCopy_parallel c _) fun _ => parallel_done rfl

/-- Titles are looked up in parallel, by their own ids. -/
theorem ensureBook_parallel (bookId : Int) : Parallel ρ page id (ensureBook bookId) (ensureBook bookId) := by
  simp only [ensureBook, bind_eq]
  refine parallel_written fun o ho => ?_
  obtain ⟨b, rfl⟩ := Option.isSome_iff_exists.1 ho
  exact ⟨some b, rfl, .getBook bookId b⟩

/-- Copies are inserted in parallel. -/
theorem insertCopy_parallel (bookId : Int) (t : Instant) :
    Parallel ρ page (Copy.rename ρ) (request (.insertCopy bookId t)) (request (.insertCopy bookId t)) :=
  @parallel_request ρ page (.insertCopy bookId t) (.insertCopy bookId t) (Copy.rename ρ)
    fun c _ => .insertCopy bookId t c

/-- Copies are added in parallel, one by one. -/
theorem addCopy_parallel (bookId : Int) : Parallel ρ page (Copy.rename ρ) (addCopy bookId) (addCopy bookId) := by
  simp only [addCopy, bind_eq]
  refine parallel_bind (ensureBook_parallel bookId) fun _ => parallel_bind parallel_now fun t => ?_
  exact insertCopy_parallel bookId t

/-- Copies are inserted one after the other, each with one beside it. -/
theorem insertCopies_parallel (bookId : Int) (t : Instant) (n : Nat) :
    Parallel ρ page (List.map (Copy.rename ρ)) (insertCopies bookId t n) (insertCopies bookId t n) := by
  induction n with
  | zero => exact parallel_done rfl
  | succ n ih =>
    simp only [insertCopies, bind_eq, pure_eq]
    refine parallel_bind (insertCopy_parallel bookId t) fun c => ?_
    exact parallel_bind ih fun cs => parallel_done rfl

/-- Copies are added in parallel, some at a time. -/
theorem addCopies_parallel (bookId count : Int) :
    Parallel ρ page (List.map (Copy.rename ρ)) (addCopies bookId count) (addCopies bookId count) := by
  simp only [addCopies, bind_eq]
  refine parallel_bind (parallel_ensure _ _ _) fun _ => parallel_bind (ensureBook_parallel bookId) fun _ => ?_
  exact parallel_bind parallel_now fun t => insertCopies_parallel bookId t count.toNat

/-- Copies are removed in parallel, by their new ids. -/
theorem removeCopy_parallel (copyId : Int) :
    Parallel ρ page (Copy.rename ρ) (removeCopy copyId) (removeCopy (ρ copyId)) := by
  simp only [removeCopy, bind_eq, pure_eq]
  refine parallel_bind (lockCopy_parallel copyId) fun c => parallel_bind (ensureAvailable_parallel c) fun _ => ?_
  refine parallel_bind parallel_now fun t => ?_
  rw [← bind_assoc, ← bind_assoc]
  refine parallel_bind (parallel_written ?_) fun _ => parallel_done rfl
  rintro _ rfl
  exact ⟨true, rfl, .withdrawCopy copyId t⟩

/-- Fines are settled in parallel, by their new ids. -/
theorem settleFine_parallel (fineId : Int) :
    Parallel ρ page (Fine.rename ρ) (settleFine fineId) (settleFine (ρ fineId)) := by
  simp only [settleFine, Charges.settle, bind_eq, pure_eq]
  refine parallel_bind_on (f := Fine.rename ρ) (fun ds f hf hds hrest => ?_) fun ds f hf hds => ?_
  · obtain rfl := Charges.get_tells.1 hf
    obtain ⟨fs, b, hb, hfs⟩ := hrest
    obtain ⟨_, _, _, rfl, -, hb⟩ := tells_bind.1 hb
    obtain ⟨_, _, t, rfl, -, hb⟩ := tells_bind.1 hb
    obtain ⟨_, _, o, rfl, ho, hb⟩ := tells_bind.1 hb
    obtain ⟨_, _, _, rfl, hu, -⟩ := tells_bind.1 hb
    obtain rfl := tells_request.1 ho
    obtain ⟨-, rfl⟩ := tells_ensure.1 hu
    exact ⟨_, .cons (.getFine fineId f t (hfs (by simp))) .nil, Charges.get_tells.2 rfl⟩
  · refine parallel_bind (parallel_ensure _ _ _) fun _ => parallel_bind parallel_now fun t => ?_
    rw [← bind_assoc, ← bind_assoc]
    refine parallel_bind (parallel_written ?_) fun _ => parallel_done rfl
    rintro _ rfl
    exact ⟨true, rfl, .settleFine fineId t⟩

end Desk

/-! ## Operations -/

/-- An operation without limits does the same with new ids and ends with the same outcome. -/
theorem Operation.carryOut_parallel (policy : Policy) {o : Operation} (ho : o.limited = false) :
    Parallel ρ page (Outcome.rename ρ) (o.carryOut policy) ((o.rename ρ).carryOut policy) := by
  cases o with
  | borrow | reserve => nomatch ho
  | returnLoan loanId => exact parallel_bind (Desk.returnLoan_parallel policy loanId) fun _ => parallel_done rfl
  | returnCopy copyId => exact parallel_bind (Desk.returnCopy_parallel policy copyId) fun _ => parallel_done rfl
  | renew loanId => exact parallel_bind (Desk.renew_parallel policy loanId) fun _ => parallel_done rfl
  | cancelReservation id => exact parallel_bind (Desk.cancelReservation_parallel id) fun _ => parallel_done rfl
  | addCopy bookId => exact parallel_bind (Desk.addCopy_parallel bookId) fun _ => parallel_done rfl
  | addCopies bookId count => exact parallel_bind (Desk.addCopies_parallel bookId count) fun _ => parallel_done rfl
  | removeCopy copyId => exact parallel_bind (Desk.removeCopy_parallel copyId) fun _ => parallel_done rfl
  | settleFine fineId => exact parallel_bind (Desk.settleFine_parallel fineId) fun _ => parallel_done rfl

/-- And so do any number of them, one after the other. -/
theorem Operation.all_parallel (policy : Policy) {os : List Operation} (hos : ∀ o ∈ os, o.limited = false) :
    Parallel ρ page (List.map (Outcome.rename ρ)) (all policy os) (all policy (os.map (·.rename ρ))) := by
  induction os with
  | nil => exact parallel_done rfl
  | cons o os ih =>
    obtain ⟨ho, hos⟩ := List.forall_mem_cons.1 hos
    refine parallel_bind (carryOut_parallel policy ho) fun a => ?_
    exact parallel_bind (ih hos) fun as => parallel_done rfl

end Circulation
