import Circulation.Proofs.Conflicts
import Circulation.Proofs.Mirror

/-!
# Serial runs

A transaction does its work on the ledger that it began on and is committed to another one. When its operations were held to
no limits and its commit goes through, it might as well have begun on the ledger that the commit met: the same operations,
with the same readings of the clock, then end with the same outcomes and leave the same rows, but for the new ids
(`replay_at_commit`). What the transaction locked, or settled, is on that ledger as it was (`Mirror.begin`), and the rest is
the simulation of one draft by another.
-/

namespace Circulation

/-! ## What a ledger keeps -/

/-- What a ledger keeps of an earlier one besides the lasting parts of its rows: titles, and fines until they are settled. -/
structure Ledger.Keeps (base l : Ledger) : Prop where
  books : ∀ i b, base.tables.books.get? i = some b → l.tables.books.get? i = some b
  fines : ∀ i f, base.tables.fines.get? i = some f → ∃ f', l.tables.fines.get? i = some f' ∧ (f' = f ∨ f'.settled = true)

namespace Ledger.Keeps

variable {l l' l'' : Ledger}

theorem trans (h : l.Keeps l') (h' : l'.Keeps l'') : l.Keeps l'' := by
  refine ⟨fun i b hb => h'.books i b (h.books i b hb), fun i f hf => ?_⟩
  obtain ⟨f', hf', heq⟩ := h.fines i f hf
  obtain ⟨f'', hf'', heq'⟩ := h'.fines i f' hf'
  refine ⟨f'', hf'', ?_⟩
  rcases heq' with rfl | hset
  · exact heq
  · exact .inr hset

end Ledger.Keeps

/-- An action leaves the titles as they are, or adds one. -/
theorem Traffic.books_act (s : Traffic) (a : Action) :
    (s.act a).ledger.tables.books = s.ledger.tables.books ∨ ∃ title, (s.act a).ledger = (s.ledger.addBook title).2 := by
  cases a with
  | addBook title => exact .inr ⟨title, rfl⟩
  | addUser | setClock | begin | rollback => exact .inl rfl
  | call k p =>
    left
    rcases s.act_call_cases k p with he | ⟨x, -, -, he⟩
    · rw [he]
    · rw [he]
      rfl
  | advance k =>
    left
    simp only [act]
    split
    · rename_i x _
      rcases s.advance_cases k x with he | he | ⟨x', n, -, -, -, he⟩
      · rw [he]
      · rw [he]
        rfl
      · rw [he]
        rfl
    · rfl
  | commit k =>
    left
    rcases s.act_commit_cases k with he | he | ⟨x, l, -, -, hl, he⟩
    · rw [he]
    · rw [he]
      rfl
    · rw [he, (Ledger.commit_eq_ok_iff.1 hl).2]
      rfl

namespace Reachable

variable {rules : Rules} {s : Traffic}

/-- No title is under an id beyond the last one given out. -/
theorem book_le (h : Reachable rules s) : ∀ i, s.ledger.tables.books.contains i = true → i ≤ s.ledger.lastId := by
  induction h with
  | start t _ => exact fun i hi => nomatch hi
  | @act s a _ _ ih =>
    intro i hi
    have hle := s.lastId_le_act a
    rcases s.books_act a with he | ⟨title, he⟩
    · rw [he] at hi
      exact Int.le_trans (ih i hi) hle
    · rw [he] at hi ⊢
      simp only [Ledger.addBook, Table.contains_insert, Bool.or_eq_true, decide_eq_true_eq] at hi ⊢
      rcases hi with rfl | hi
      · exact Int.le_refl _
      · exact Int.le_trans (ih i hi) (Int.le_of_lt (Int.lt_succ _))

/-- An action changes no title, and no fine but one that it settles. -/
theorem keeps_act (h : Reachable rules s) (a : Action) : s.ledger.Keeps (s.act a).ledger := by
  refine ⟨fun i b hb => ?_, fun i f hf => ?_⟩
  · rcases s.books_act a with he | ⟨title, he⟩
    · rw [he, hb]
    · have hle := h.book_le i (Table.contains_of_get? hb)
      rw [he]
      simp only [Ledger.addBook, Table.get?_insert]
      rw [if_neg (by omega), hb]
  · rcases s.act_ledger_cases a with ⟨-, hg⟩ | ⟨k, x, l, -, hx, -, hl, he⟩
    · rw [hg.tables]
      exact ⟨f, hf, .inl rfl⟩
    · have hcom := h.sound.committing hx hl
      have hledger : (s.act a).ledger = l := congrArg Traffic.ledger he
      rw [hledger]
      cases hw : x.draft.written.fines.contains i with
      | false => exact ⟨f, by rw [hcom.fines, hw, if_neg Bool.false_ne_true, hf], .inl rfl⟩
      | true =>
        -- The fine was there when the transaction began, which can have changed it by settling it only.
        have hheld := hcom.stands.fines.held i hw
        have hid := hcom.apart.old (.inr (.inr (.inr (.inr hheld)))) (.inr (.inr (.inr (.inr (Table.contains_of_get? hf)))))
        obtain ⟨f', hf'⟩ := Table.contains_iff.1 hheld
        have hset := hcom.stands.unsettled i hw (hcom.stands.fines.old i hheld hid)
        exact ⟨f', by rw [hcom.fines, if_pos hw, hf'], .inr (h.settled_rows hx i f' hset hf')⟩

end Reachable

/-- The ledger keeps what there was when an open transaction began. -/
theorem Recorded.keeps {rules : Rules} {b : Logbook} (h : Recorded rules b) {k : Nat} {x : Transaction}
    (hx : b.traffic.opened k = some x) : x.base.Keeps b.traffic.ledger := by
  induction h generalizing x with
  | start t _ => cases hx
  | @act b a hb _ ih =>
    have hact := hb.reachable.keeps_act a
    rcases b.act_turns a hx with ⟨rfl, -⟩ | ⟨y, ds, hy, hturns, -⟩
    · exact hact
    · obtain ⟨n, hn, -⟩ := hb.did hy
      rw [(hturns.did hn).1]
      exact (ih hy).trans hact

/-- The entries that a transaction wrote are its own. -/
theorem Reachable.new_of_written_entry {rules : Rules} {s : Traffic} (h : Reachable rules s) {k : Nat} {x : Transaction}
    (hx : s.opened k = some x) : ∀ i, x.draft.written.entries.contains i = true → x.base.lastId < i := by
  refine h.draft_keeps (I := fun d => ∀ i, d.written.entries.contains i = true → x.base.lastId < i) hx
    (fun _ hi => by cases hi) fun d n d' n' hs hc hI i hi => ?_
  cases hc with
  | newEntry e _ hk =>
    simp only [Draft.putEntry, Table.contains_add, Bool.or_eq_true, decide_eq_true_eq] at hi
    rcases hi with rfl | hi
    · exact Int.lt_of_le_of_lt hs.le hk
    · exact hI i hi
  | _ => exact hI i hi

/-! ## The ledger met -/

/-- What is known of a page is so with the ids renumbered that the deeds gave out. -/
theorem Facing.of_did {base : Ledger} {final : Draft} {page : List Deed} {n last : Int}
    (h : base.draft.Did base.lastId page final n) (hbase : base.Sound) (hn : n ≤ last) (hcov : final.Covered base) :
    Facing (renumber (page.filterMap Deed.newId?) last) base final page := by
  have hbegin := Draft.Stands.begin hbase
  have hfinal := h.stands hbegin
  obtain ⟨-, hnew⟩ := h.newIds hbegin
  constructor
  · exact fun i hi => renumber_of_not_mem fun hmem => absurd hi (Int.not_le.2 (hnew i hmem).1)
  · intro i j hi hj
    exact renumber_inj (Int.le_trans (hfinal.le_of_holds hi) hn) (Int.le_trans (hfinal.le_of_holds hj) hn)
  · exact hcov
  · exact fun c hc => h.locked_of_locks hc
  · intro id c hmem
    obtain ⟨d, m, w, hs, hw, -⟩ := h.of_asked hbegin hmem
    simp only [Work.answer] at hw
    split at hw
    · rename_i c' hlive
      cases hw
      exact (hs.copies.keyed id c (Option.filter_eq_some_iff.1 hlive).1).1
    · cases hw
  · intro id l hmem
    obtain ⟨d, m, w, -, hw, hgrow⟩ := h.of_asked hbegin hmem
    simp only [Work.answer, Work.read, Prod.mk.injEq, Except.ok.injEq] at hw
    obtain ⟨hl, rfl⟩ := hw
    obtain ⟨row, hrow, hlast⟩ := hgrow.loans id l hl
    exact ⟨row, hrow, (Loan.of_lasting hlast).1⟩
  · intro id t hmem
    obtain ⟨d, m, w, -, hw, hgrow⟩ := h.of_asked hbegin hmem
    have hw' : Work.write ⟨d, m, 0⟩ (d.settleFine id t) = (.ok true, w) := hw
    refine hgrow.settled id ?_
    unfold Draft.settleFine at hw'
    split at hw'
    · split at hw'
      · cases hw'
      · cases hw'
        simp
    · cases hw'

namespace Mirror

variable {ρ : Int → Int} {base l l' : Ledger} {x : Transaction} {committed : List Transaction} {final e : Draft} {n m : Int}

/-- A draft of the ledger that a commit meets is a mirror of the one that the transaction began with: what the transaction
locked or settled is there as it was. -/
theorem begin (h : Committing l x committed l') (hask : Asking l x committed) (hl : l.tables.Consistent)
    (hkeeps : x.base.Keeps l) (hfix : ∀ i, i ≤ x.base.lastId → ρ i = i) :
    Mirror ρ x.base x.draft x.base.draft l.draft where
  books := hkeeps.books
  copies.rows i c hi hc := by
    obtain ⟨rfl, hle⟩ := h.base.copies i c hc
    have hsame := h.sameOn_of_locked hask.base hl hask.unmoved (hi.resolve_right (Int.not_lt.2 hle))
    show l.tables.copies.get? (ρ c.id) = some { c with id := ρ c.id }
    rw [hfix c.id hle]
    exact hsame.copy.trans hc
  copies.written j := ⟨fun hj => (nomatch hj), fun ⟨i, hi, _⟩ => nomatch hi⟩
  loans i a ha := (h.sameOn_of_locked hask.base hl hask.unmoved ha).loans i a rfl
  entries.rows i a hi ha := absurd (h.base.entries i a ha).2 (Int.not_le.2 hi)
  entries.written j := ⟨fun hj => (nomatch hj), fun ⟨i, hi, _⟩ => nomatch hi⟩
  reservations i r hr := (h.sameOn_of_locked hask.base hl hask.unmoved hr).reservations i r rfl
  fines.rows i f hi hf := by
    obtain ⟨rfl, hle⟩ := h.base.fines i f hf
    have hset := hi.resolve_right (Int.not_lt.2 hle)
    obtain ⟨f', hf', heq⟩ := hkeeps.fines f.id f hf
    have hopen := h.clear.settled f.id f' hset hf'
    rcases heq with rfl | hset'
    · show l.tables.fines.get? (ρ f'.id) = some { f' with id := ρ f'.id }
      rw [hfix f'.id hle]
      exact hf'
    · simp [hopen] at hset'
  fines.written j := ⟨fun hj => (nomatch hj), fun ⟨i, hi, _⟩ => nomatch hi⟩
  writtenLoans := rfl
  writtenReservations := rfl
  oldLoans i a ha := h.base.le_lastId (.inl (hask.base.loans i a ha))
  oldReservations i r hr := h.base.le_lastId (.inl (hask.base.reservations i r hr))
  fulfilled i r hi := nomatch hi

/-- Nothing stands against the commit of a mirror to the ledger that it was made on: it left no reservation pending. -/
theorem clear (h : Mirror ρ base final final e) (hs : final.Stands base n) (hcov : final.Covered base)
    (he : e.Stands l m) : l.Clear e where
  locked id v hv := (he.locked id v hv).1.symm
  guards id c row hc hrow := (he.guards id c hc).2 row hrow
  settled id f hset hf := (he.settled id hset).2 f hf
  pending i r j s hw hr hrp hs' := by
    rw [h.writtenReservations] at hw
    obtain ⟨r', hr'⟩ := Table.contains_iff.1 (hs.reservations.held i hw)
    cases ((h.reservations i r' (hcov.reservations i r' hw hr')).1 hr').symm.trans hr
    have hdone := h.fulfilled i r hw hr'
    simp [hrp] at hdone

end Mirror

/-! ## What is published -/

/-- Drafts that wrote the same rows publish the same. -/
theorem Table.Follows.publish_congr {α : Type} [Lasting α] {base base' t u l : Table α} {written : IdSet}
    {first first' last last' : Int} (ht : base.Follows first t written last) (hu : base'.Follows first' u written last')
    (hrows : ∀ i a, written.contains i = true → t.get? i = some a → u.get? i = some a) :
    Ledger.publish written u l = Ledger.publish written t l := by
  ext1 i
  rw [ht.get?_publish, hu.get?_publish]
  split
  · rename_i hw
    obtain ⟨a, ha⟩ := contains_iff.1 (ht.held i hw)
    rw [ha, hrows i a hw ha]
  · rfl

/-- Whether tables are others with new ids for copies, entries and fines. -/
structure Tables.Renamed (ρ : Int → Int) (t u : Tables) : Prop where
  books : u.books = t.books
  users : u.users = t.users
  copies : t.copies.Renamed ρ (Copy.rename ρ) u.copies
  loans : u.loans = t.loans
  entries : t.entries.Renamed ρ (LoanEntry.rename ρ) u.entries
  reservations : u.reservations = t.reservations
  fines : t.fines.Renamed ρ (Fine.rename ρ) u.fines

/-- What is published from a mirror, on the ledger that it was made on, are the tables that the commit leaves, with new ids. -/
theorem Mirror.renamed {ρ : Int → Int} {l l' : Ledger} {x : Transaction} {committed : List Transaction} {e : Draft} {m : Int}
    (h : Mirror ρ x.base x.draft x.draft e) (hcom : Committing l x committed l') (hcov : x.draft.Covered x.base)
    (hentries : ∀ i, x.draft.written.entries.contains i = true → x.base.lastId < i) (he : e.Stands l m)
    (hfix : ∀ i, l.tables.Holds i → ρ i = i) (hinj : ∀ i j, i ≤ l.lastId → j ≤ l.lastId → ρ i = ρ j → i = j) :
    l'.tables.Renamed ρ (Ledger.publishAll l.tables e) := by
  rw [hcom.eq]
  refine ⟨rfl, rfl, ?_, ?_, ?_, ?_, ?_⟩
  · refine h.copies.publish hcom.stands.copies he.copies hcom.sound.copies hcov.copies (fun i hi => hfix i (.inl hi)) hinj
      fun c hc => ?_
    rw [Copy.rename, show ρ c.id = c.id from hc]
  · show Ledger.publish e.written.loans _ _ = _
    rw [h.writtenLoans]
    refine hcom.stands.loans.publish_congr (h.writtenLoans ▸ he.loans) fun i a hw ha => ?_
    exact (h.loans i a (hcov.loans i a hw ha)).1 ha
  · refine h.entries.publish hcom.stands.entries he.entries hcom.sound.entries hentries
      (fun i hi => hfix i (.inr (.inr (.inl hi)))) hinj fun a ha => ?_
    rw [LoanEntry.rename, show ρ a.id = a.id from ha]
  · show Ledger.publish e.written.reservations _ _ = _
    rw [h.writtenReservations]
    refine hcom.stands.reservations.publish_congr (h.writtenReservations ▸ he.reservations) fun i r hw hr => ?_
    exact (h.reservations i r (hcov.reservations i r hw hr)).1 hr
  · refine h.fines.publish hcom.stands.fines he.fines hcom.sound.fines (fun i hw => ?_)
      (fun i hi => hfix i (.inr (.inr (.inr (.inr hi))))) hinj fun f hf => ?_
    · by_cases hid : i ≤ x.base.lastId
      · exact .inl (hcom.stands.unsettled i hw (hcom.stands.fines.old i (hcom.stands.fines.held i hw) hid))
      · exact .inr (Int.not_le.1 hid)
    · rw [Fine.rename, show ρ f.id = f.id from hf]

/-! ## The operations done again -/

/-- A transaction that was refused nothing performed some operations, each with its outcome. When they were held to no limits
and the commit of the transaction goes through, it might have begun on the ledger that the commit meets: there the same
operations, with the same readings of the clock, end with the same outcomes, nothing stands against their commit, and it
leaves the same rows, all of this but for the ids of the rows that the transaction made. -/
theorem replay_at_commit {policy : Policy} {b : Logbook} (h : Recorded (Rules.desk policy) b) {k : Nat} {x : Transaction}
    (hx : b.traffic.opened k = some x) (hd : x.doing = none) :
    (x.refused = false → ∃ os as, Performed policy os as (b.pages k)) ∧
    ∀ (os : List Operation) (as : List Outcome) (timeline : Nat → Instant) (l' : Ledger),
      Performed policy os as (b.pages k) → (∀ o ∈ os, o.limited = false) →
      (∀ i t, ((b.pages k).filterMap Deed.reading?)[i]? = some t → timeline i = t) →
      b.traffic.ledger.commit x.draft = .ok l' →
      let ρ := renumber ((b.pages k).filterMap Deed.newId?) b.traffic.ledger.lastId
      ∃ w l'', (Operation.all policy (os.map (·.rename ρ))).run (Work.store timeline)
          ⟨b.traffic.ledger.draft, b.traffic.ledger.lastId, 0⟩ = (.ok (as.map (·.rename ρ)), w) ∧
        ({ b.traffic.ledger with lastId := w.lastId } : Ledger).commit w.draft = .ok l'' ∧
        l'.tables.Renamed ρ l''.tables := by
  refine ⟨fun hr => h.performed hx hd hr, fun os as timeline l' hp hos ht hc => ?_⟩
  intro ρ
  have hreach := h.reachable
  have hcom := hreach.sound.committing hx hc
  have hask := Asking.of_reachable hreach hx hd
  have hgood : b.traffic.ledger.tables.Consistent := ((agreement policy).holds hreach).good
  obtain ⟨n, hn, hdid⟩ := h.did hx
  have hbegin := Draft.Stands.begin hcom.base
  obtain ⟨hsorted, hnew⟩ := hdid.newIds hbegin
  have hfacing : Facing ρ x.base x.draft (b.pages k) := Facing.of_did hdid hcom.base hn hask.covered
  -- The deeds of the page are done again on the ledger met, with new ids.
  have hparallel : Procedure.Parallel ρ (b.pages k) (List.map (Outcome.rename ρ)) (Operation.all policy os)
    (Operation.all policy (os.map (·.rename ρ))) := Operation.all_parallel policy hos
  obtain ⟨es, hpar, htells⟩ := hparallel _ _ hp.tells (List.filter_subset_self _)
  have hids : ∀ (i : Nat) j, ((b.pages k).filterMap Deed.newId?)[i]? = some j → ρ j = b.traffic.ledger.lastId + 1 + i :=
    fun i j hj => renumber_getElem (hsorted.imp Int.ne_of_lt) hj
  have hreads : ∀ i t, ((b.pages k).filterMap Deed.reading?)[i]? = some t → timeline (0 + i) = t := fun i t hi => by
    rw [Nat.zero_add, ht i t hi]
  have hmirror := Mirror.begin hcom hask hgood (h.keeps hx) hfacing.fixed
  obtain ⟨w, hdoes, hmirror⟩ := hmirror.does hfacing hdid hbegin hpar hids hreads
  have hstands := hdoes.stands (Draft.Stands.begin hcom.sound)
  have hclear : b.traffic.ledger.Clear w.draft := hmirror.clear hcom.stands hask.covered hstands
  have hfixed : ∀ i, b.traffic.ledger.tables.Holds i → ρ i = i := fun i hi =>
    renumber_of_not_mem fun hmem => hcom.apart i (hnew i hmem).1 (hnew i hmem).2 hi
  have hrenamed := hmirror.renamed hcom hask.covered (hreach.new_of_written_entry hx) hstands hfixed
    fun i j hi hj => renumber_inj hi hj
  exact ⟨w, _, Procedure.run_of_tells htells hdoes, Ledger.commit_eq_ok_iff.2 ⟨{ hclear with }, rfl⟩, hrenamed⟩

/-- A desk with an open transaction that added a copy and, after another transaction had held a copy and the clock had moved on,
took back a copy that was late, settled the fine and withdrew the copy it had added. -/
def closedOut : Logbook :=
  let b : Logbook := { traffic := { clock := .epoch } }
  let b := ((b.act (.addBook "Emma")).act (.addUser "ann")).act (.addUser "ben")
  let b := (b.act (.begin 0)).serve 0 (Operation.procedure {} (.addCopies 1 2)) 5
  let b := (b.serve 0 (Operation.procedure {} (.borrow 4 2)) 9).act (.commit 0)
  let b := ((b.act (.begin 0)).serve 0 (Operation.procedure {} (.addCopy 1)) 4).act (.begin 1)
  let b := (b.serve 1 (Operation.procedure {} (.reserve 5 3)) 9).act (.commit 1)
  let b := b.act (.setClock ((Instant.epoch.add? ⟨60 * Span.day⟩).getD .epoch))
  let b := b.serve 0 (Operation.procedure {} (.returnCopy 4)) 9
  (b.serve 0 (Operation.procedure {} (.settleFine 10)) 4).serve 0 (Operation.procedure {} (.removeCopy 8)) 4

theorem closedOut_recorded : Recorded (Rules.desk {}) closedOut := by
  have start : Recorded (Rules.desk {}) { traffic := { clock := .epoch } } := .start .epoch trivial
  have users := ((start.act (.addBook "Emma") trivial).act (.addUser "ann") trivial).act (.addUser "ben") trivial
  have copies := (users.act (.begin 0) trivial).perform 0 (.addCopies 1 2) 5
  have lent := (copies.perform 0 (.borrow 4 2) 9).act (.commit 0) fun _ _ => False.elim
  have begun := ((lent.act (.begin 0) trivial).perform 0 (.addCopy 1) 4).act (.begin 1) trivial
  have held := (begun.perform 1 (.reserve 5 3) 9).act (.commit 1) fun _ _ => False.elim
  have later := held.act (.setClock ((Instant.epoch.add? ⟨60 * Span.day⟩).getD .epoch)) ⟨trivial, False.elim⟩
  exact ((later.perform 0 (.returnCopy 4) 9).perform 0 (.settleFine 10) 4).perform 0 (.removeCopy 8) 4

/-- What the page of that transaction is the account of. -/
theorem closedOut_performed : ∃ as,
    Performed {} [.addCopy 1, .returnCopy 4, .settleFine 10, .removeCopy 8] as (closedOut.pages 0) := by
  let part (i n : Nat) : List Deed := ((closedOut.pages 0).drop i).take n
  have added : ∃ c, ((Operation.addCopy 1).carryOut {}).Tells (part 1 3) (.copy c) :=
    ⟨_, _, _, rfl, _, _, rfl, _, _, rfl, rfl, rfl⟩
  have returned : ∃ l, ((Operation.returnCopy 4).carryOut {}).Tells (part 5 8) (.loan l) :=
    ⟨_, _, _, rfl, _, _, rfl, _, _, rfl, _, _, rfl, _, _, rfl, _, _, rfl, _, _, rfl, _, _, rfl, rfl, rfl⟩
  have settled : ∃ f, ((Operation.settleFine 10).carryOut {}).Tells (part 14 3) (.fine f) :=
    ⟨_, _, _, rfl, _, _, rfl, _, _, rfl, rfl, rfl⟩
  have removed : ∃ c, ((Operation.removeCopy 8).carryOut {}).Tells (part 18 3) (.copy c) :=
    ⟨_, _, _, rfl, _, _, rfl, _, _, rfl, rfl, rfl⟩
  have page : closedOut.pages 0 = .called (Operation.procedure {} (.addCopy 1)) :: (part 1 3 ++
    .called (Operation.procedure {} (.returnCopy 4)) :: (part 5 8 ++
    .called (Operation.procedure {} (.settleFine 10)) :: (part 14 3 ++
    .called (Operation.procedure {} (.removeCopy 8)) :: (part 18 3 ++ [])))) := rfl
  obtain ⟨c, hadded⟩ := added
  obtain ⟨l, hreturned⟩ := returned
  obtain ⟨f, hsettled⟩ := settled
  obtain ⟨c', hremoved⟩ := removed
  rw [page]
  exact ⟨_, .cons hadded (.cons hreturned (.cons hsettled (.cons hremoved .nil)))⟩

/-- The transaction that is still open. -/
def closingOut : Transaction :=
  (closedOut.traffic.opened 0).get (by decide +kernel)

/-- Its operations might have been done on the ledger that the hold left, where other ids come next. -/
theorem closedOut_replays : closedOut.traffic.opened 0 = some closingOut ∧ closingOut.doing = none ∧
    closingOut.refused = false ∧ ∃ as l' w l'',
    Performed {} [.addCopy 1, .returnCopy 4, .settleFine 10, .removeCopy 8] as (closedOut.pages 0) ∧
    closedOut.traffic.ledger.commit closingOut.draft = .ok l' ∧
    (Operation.all {} [.addCopy 1, .returnCopy 4, .settleFine 13, .removeCopy 12]).run
        (Work.store fun i => ((closedOut.pages 0).filterMap Deed.reading?).getD i .epoch)
        ⟨closedOut.traffic.ledger.draft, 11, 0⟩ = (.ok (as.map (·.rename (renumber [8, 10, 11] 11))), w) ∧
    ({ closedOut.traffic.ledger with lastId := w.lastId } : Ledger).commit w.draft = .ok l'' ∧
    l'.tables.Renamed (renumber [8, 10, 11] 11) l''.tables := by
  have hx : closedOut.traffic.opened 0 = some closingOut := (Option.some_get _).symm
  have hd : closingOut.doing = none := Option.isNone_iff_eq_none.1 (by decide +kernel)
  have hok : (closedOut.traffic.ledger.commit closingOut.draft).isOk = true := by decide +kernel
  have hreads : ∀ i t, ((closedOut.pages 0).filterMap Deed.reading?)[i]? = some t →
      ((closedOut.pages 0).filterMap Deed.reading?).getD i .epoch = t := fun i t ht => by
    rw [List.getD_eq_getElem?_getD, ht, Option.getD_some]
  obtain ⟨as, hp⟩ := closedOut_performed
  cases hc : closedOut.traffic.ledger.commit closingOut.draft with
  | error why => simp [hc, Except.isOk, Except.toBool] at hok
  | ok l' =>
    obtain ⟨w, l'', hrun, hcommit, hrenamed⟩ :=
      (replay_at_commit closedOut_recorded hx hd).2 _ as _ l' hp (by decide) hreads hc
    exact ⟨hx, hd, by decide +kernel, as, l', w, l'', hp, rfl, hrun, hcommit, hrenamed⟩

end Circulation
