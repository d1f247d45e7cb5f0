import Circulation.Proofs.Discipline
import Circulation.Proofs.Operations
import Circulation.Proofs.Standing
import Mathlib.Logic.ExistsUnique

/-!
# Status agreement

Each copy's status agrees with the loans and reservations that name it, in every committed ledger and in the view of
every transaction at rest, however transactions of desk operations are interleaved (`status_agrees`). Tables are kept
consistent by every operation; that they stay so when drafts are published is due to the locks. A draft writes rows of
copies it holds the lock on (`Draft.Covered`), so a ledger that nobody locked a copy of still says the same of it
(`Ledger.Unmoved`), and a commit leaves every copy as the draft or as the ledger had it (`Committing.sameOn`).
-/

namespace Circulation

/-- Whether what a draft wrote is covered by its locks: it wrote copies that it locked or added, and loans and
reservations of copies that it locked. -/
structure Draft.Covered (d : Draft) (base : Ledger) : Prop where
  copies : ∀ id, d.written.copies.contains id = true → d.locked.contains id = true ∨ base.lastId < id
  loans : ∀ i l, d.written.loans.contains i = true → d.tables.loans.get? i = some l →
    d.locked.contains l.copyId = true
  reservations : ∀ i r, d.written.reservations.contains i = true → d.tables.reservations.get? i = some r →
    d.locked.contains r.copyId = true

/-- Whether a ledger still says the same of the copies it had that no transaction committed since then locked. -/
def Ledger.Unmoved (base l : Ledger) (committed : List Transaction) : Prop :=
  ∀ c, base.tables.copies.contains c = true → (∀ e ∈ committed, e.draft.locked.contains c = false) →
    base.tables.SameOn l.tables c

namespace Draft.Covered

variable {rules : Rules} {policy : Policy} {base : Ledger} {d d' : Draft} {m m' : Moment} {c : Copy}

/-- A draft that begins has written nothing that its locks would have to cover. -/
theorem begin (l : Ledger) : l.draft.Covered l where
  copies _ h := by cases h
  loans _ _ h := by cases h
  reservations _ _ h := by cases h

/-- Rows of locked copies, after one more is kept. -/
theorem insert {α : Type} {t : Table α} {written : IdSet} {locked : Table Nat} {copyOf : α → Int} {k : Int} {a : α}
    (h : ∀ i b, written.contains i = true → t.get? i = some b → locked.contains (copyOf b) = true)
    (ha : locked.contains (copyOf a) = true) (i : Int) (b : α) (hi : (written.add k).contains i = true)
    (hb : (t.insert k a).get? i = some b) : locked.contains (copyOf b) = true := by
  rw [Table.get?_insert] at hb
  split at hb
  · cases hb
    exact ha
  · rename_i hik
    exact h i b (by simpa [hik] using hi) hb

/-- A lock more covers no less. -/
theorem lock (h : d.Covered base) (id : Int) : (d.lock id).Covered base where
  copies i hi := by
    simp only [Draft.lock, Table.contains_insertNew, Bool.or_eq_true, decide_eq_true_eq]
    exact (h.copies i hi).imp_left .inr
  loans i l hi hl := by
    simp only [Draft.lock, Table.contains_insertNew, Bool.or_eq_true, decide_eq_true_eq]
    exact .inr (h.loans i l hi hl)
  reservations i r hi hr := by
    simp only [Draft.lock, Table.contains_insertNew, Bool.or_eq_true, decide_eq_true_eq]
    exact .inr (h.reservations i r hi hr)

/-- A loan of a locked copy is covered, with its entry. -/
theorem record (h : d.Covered base) (l : Loan) (e : LoanEntry) (hl : d.locked.contains l.copyId = true) :
    (d.record l e).Covered base :=
  ⟨h.copies, insert h.loans hl, h.reservations⟩

/-- A guard is not a write. -/
theorem guard (h : d.Covered base) (id expected : Int) : (d.guard id expected).Covered base :=
  ⟨h.copies, h.loans, h.reservations⟩

/-- A fine has no copy to lock. -/
theorem putFine (h : d.Covered base) (f : Fine) (id : Int) : (d.putFine f id).Covered base :=
  ⟨h.copies, h.loans, h.reservations⟩

/-- A reservation of a locked copy is covered. -/
theorem putReservation (h : d.Covered base) {id : Int} {r : Reservation} (hr : d.locked.contains r.copyId = true) :
    (d.putReservation r id).Covered base :=
  ⟨h.copies, h.loans, insert h.reservations hr⟩

/-- A copy is covered that was locked, or added by the draft. -/
theorem putCopy (h : d.Covered base) {id : Int} {c : Copy} (hid : d.locked.contains id = true ∨ base.lastId < id) :
    (d.putCopy c id).Covered base := by
  refine ⟨fun i hi => ?_, h.loans, h.reservations⟩
  simp only [Draft.putCopy, Table.contains_add, Bool.or_eq_true, decide_eq_true_eq] at hi
  rcases hi with rfl | hi
  · exact hid
  · exact h.copies i hi

/-- A hold that is fulfilled is covered by the lock on its copy. -/
theorem fulfilled (h : d.Covered base) {r : Reservation} (hr : d.locked.contains r.copyId = true) (t : Instant) :
    (d.fulfilled r t).Covered base :=
  h.putReservation hr

/-- A loan that is opened is covered by the lock on the copy it lends. -/
theorem opened {userId : Int} {l : Loan} (ho : Opened rules policy d m c userId l d' m') (h : d.Covered base)
    (hc : d.locked.contains c.id = true) : d'.Covered base := by
  cases ho
  exact h.record _ _ hc

/-- A loan that is renewed is covered by the lock on its copy. -/
theorem renewed {l : Loan} (hr : Renewed rules policy d m l d' m') (h : d.Covered base)
    (hl : d.locked.contains l.copyId = true) : d'.Covered base := by
  cases hr with
  | intro => exact (h.guard l.id l.renewCount).record _ _ hl

/-- A loan that is returned is covered by the lock on its copy, and its fine needs none. -/
theorem returned {l : Loan} (hr : Returned rules policy d m l d' m') (h : d.Covered base)
    (hl : d.locked.contains l.copyId = true) : d'.Covered base := by
  cases hr with
  | intro _ _ _ _ hf =>
    cases hf with
    | none => exact (h.guard l.id l.renewCount).record _ _ hl
    | fine => exact ((h.putFine _ _).guard l.id l.renewCount).record _ _ hl

/-- A copy that is made ready is covered by its lock, and so is the hold that ends. -/
theorem released {userId : Int} (hr : Released d c userId d') (h : d.Covered base) (hc : d.locked.contains c.id = true) :
    d'.Covered base := by
  cases hr with
  | shelf => exact h
  | hold r t _ _ _ hrc => exact h.fulfilled (hrc ▸ hc) t

/-- A move writes what its locks cover. -/
theorem move (hm : Move rules policy d m d' m') (hle : base.lastId ≤ m.lastId) (h : d.Covered base) :
    d'.Covered base := by
  cases hm with
  | lock c _ => exact h.lock c.id
  | borrow t hc _ hr ho =>
    have hc₁ : _ := hr.frame.2.1 ▸ hc.locked
    have hc₂ : _ := ho.frame.locked ▸ hc₁
    exact (opened ho (released hr h hc.locked) hc₁).putCopy (.inl hc₂)
  | takeBack t hc _ hlc hr =>
    have hc₁ : _ := hr.frame.locked ▸ hc.locked
    exact (returned hr h (hlc ▸ hc.locked)).putCopy (.inl hc₁)
  | renew hc _ hlc hr => exact renewed hr h (hlc ▸ hc.locked)
  | reserve t' hc => exact (h.putReservation hc.locked).putCopy (.inl hc.locked)
  | cancel t t' hc _ _ _ hrc => exact (h.fulfilled (hrc ▸ hc.locked) t).putCopy (.inl hc.locked)
  | addCopy _ _ hk _ => exact h.putCopy (.inr (Int.lt_of_le_of_lt hle hk))
  | withdraw t hc => exact h.putCopy (.inl hc.locked)
  | settle t => exact ⟨h.copies, h.loans, h.reservations⟩

end Draft.Covered

namespace Ledger.Unmoved

variable {l l' l'' : Ledger} {committed more : List Transaction}

/-- A ledger that only grew says the same of every copy it had. -/
theorem grown (h : l.Grown l') : l.Unmoved l' [] := by
  intro c _ _
  rw [h.tables]
  exact ⟨rfl, fun _ _ _ => Iff.rfl, fun _ _ _ => Iff.rfl⟩

theorem trans (h : l.Unmoved l' committed) (h' : l'.Unmoved l'' more) : l.Unmoved l'' (committed ++ more) := by
  intro c hc hall
  have hsame := h c hc fun e he => hall e (List.mem_append_left _ he)
  refine hsame.trans (h' c ?_ fun e he => hall e (List.mem_append_right _ he))
  rwa [Table.contains, hsame.copy]

end Ledger.Unmoved

namespace Committing

variable {l l' : Ledger} {x : Transaction} {committed : List Transaction}

/-- Of a copy that a draft added, base and ledger both say nothing. -/
theorem sameOn_new (h : Committing l x committed l') (hbase : x.base.tables.Consistent) (hl : l.tables.Consistent) {c : Int}
    (hc : x.draft.tables.copies.contains c = true) (hnew : x.base.tables.copies.contains c = false) :
    x.base.tables.SameOn l.tables c := by
  have hlnew : l.tables.copies.contains c = false := by
    cases hlc : l.tables.copies.contains c with
    | false => rfl
    | true =>
      have hold := h.stands.copies.old c hc (h.apart.old (.inl hc) (.inl hlc))
      simp [hnew] at hold
  refine ⟨?_, fun i a ha => ⟨fun hi => ?_, fun hi => ?_⟩, fun i a ha => ⟨fun hi => ?_, fun hi => ?_⟩⟩
  · rw [Table.not_contains_iff.1 (by simp [hlnew]), Table.not_contains_iff.1 (by simp [hnew])]
  · subst ha
    exact absurd (hbase.loans i a hi) (by simp [hnew])
  · subst ha
    exact absurd (hl.loans i a hi) (by simp [hlnew])
  · subst ha
    exact absurd (hbase.reservations i a hi) (by simp [hnew])
  · subst ha
    exact absurd (hl.reservations i a hi) (by simp [hlnew])

/-- A copy of which base and ledger say the same is as the draft has it, after the commit. -/
theorem sameOn_draft (h : Committing l x committed l') {c : Int} (hsame : x.base.tables.SameOn l.tables c) :
    x.draft.tables.SameOn l'.tables c := by
  refine ⟨?_, fun i a ha => ?_, fun i a ha => ?_⟩
  · rw [h.copies]
    split
    · rfl
    · rename_i hw
      rw [hsame.copy, h.stands.copies.unwritten c (by simpa using hw)]
  · rw [h.eq]
    exact h.stands.loans.publish_draft hsame.loans i a ha
  · rw [h.eq]
    exact h.stands.reservations.publish_draft hsame.reservations i a ha

/-- A copy that a draft did not lock and does not have new is as the ledger had it, after the commit. -/
theorem sameOn_ledger (h : Committing l x committed l') (hcov : x.draft.Covered x.base) {c : Int}
    (hlocked : x.draft.locked.contains c = false) (hw : x.draft.written.copies.contains c = false) :
    l.tables.SameOn l'.tables c := by
  refine ⟨?_, fun i a ha => ?_, fun i a ha => ?_⟩
  · rw [h.copies, hw]
    rfl
  · rw [h.eq]
    refine h.stands.loans.publish_ledger (P := fun l : Loan => l.copyId = c) h.since.loans
      (fun id ht hl => h.apart.old (.inr (.inl ht)) (.inr (.inl hl)))
      (fun a b hab hac => ?_) (fun i a hwi hi hac => ?_) i a ha
    · exact (Loan.of_lasting hab).1.symm.trans hac
    · exact absurd (hcov.loans i a hwi hi) (by simp [hac, hlocked])
  · rw [h.eq]
    refine h.stands.reservations.publish_ledger (P := fun r : Reservation => r.copyId = c) h.since.reservations
      (fun id ht hl => h.apart.old (.inr (.inr (.inr (.inl ht)))) (.inr (.inr (.inr (.inl hl)))))
      (fun a b hab hac => ?_) (fun i a hwi hi hac => ?_) i a ha
    · exact (Reservation.of_lasting hab).1.symm.trans hac
    · exact absurd (hcov.reservations i a hwi hi) (by simp [hac, hlocked])

/-- Of a copy that a draft found and locked, base and ledger say the same. -/
theorem sameOn_locked (h : Committing l x committed l') (hmoved : x.base.Unmoved l committed) {c : Int}
    (hbase : x.base.tables.copies.contains c = true) (hlocked : x.draft.locked.contains c = true) :
    x.base.tables.SameOn l.tables c :=
  hmoved c hbase (h.not_locked hlocked)

/-- Of a copy that a draft locked, whether it found it or added it, base and ledger say the same. -/
theorem sameOn_of_locked (h : Committing l x committed l') (hbase : x.base.tables.Consistent) (hl : l.tables.Consistent)
    (hmoved : x.base.Unmoved l committed) {c : Int} (hlocked : x.draft.locked.contains c = true) :
    x.base.tables.SameOn l.tables c := by
  obtain ⟨v, hv⟩ := Table.contains_iff.1 hlocked
  cases hb : x.base.tables.copies.contains c with
  | true => exact h.sameOn_locked hmoved hb hlocked
  | false => exact h.sameOn_new hbase hl (h.stands.locked c v hv).2 hb

/-- After a commit each copy is as the draft or as the ledger had it. -/
theorem sameOn (h : Committing l x committed l') (hbase : x.base.tables.Consistent) (hl : l.tables.Consistent)
    (hcov : x.draft.Covered x.base) (hmoved : x.base.Unmoved l committed) (c : Int) :
    x.draft.tables.SameOn l'.tables c ∨ l.tables.SameOn l'.tables c := by
  cases hc : x.draft.locked.contains c with
  | true => exact .inl (h.sameOn_draft (h.sameOn_of_locked hbase hl hmoved hc))
  | false =>
    cases hw : x.draft.written.copies.contains c with
    | false => exact .inr (h.sameOn_ledger hcov hc hw)
    | true =>
      have hdraft := h.stands.copies.held c hw
      have hlt : x.base.lastId < c := (hcov.copies c hw).resolve_left (by simp [hc])
      refine .inl (h.sameOn_draft (h.sameOn_new hbase hl hdraft ?_))
      cases hb : x.base.tables.copies.contains c with
      | false => rfl
      | true => exact absurd (h.base.le_lastId (.inl hb)) (Int.not_le.2 hlt)

/-- A copy of the ledger that a draft did not lock is untouched by its commit. -/
theorem unmoved (h : Committing l x committed l') (hcov : x.draft.Covered x.base) : l.Unmoved l' [x] := by
  intro c hl hlocked
  have hc := hlocked x (List.mem_singleton_self x)
  refine h.sameOn_ledger hcov hc ?_
  cases hw : x.draft.written.copies.contains c with
  | false => rfl
  | true =>
    have hlt : x.base.lastId < c := (hcov.copies c hw).resolve_left (by simp [hc])
    exact absurd (h.apart.old (.inl (h.stands.copies.held c hw)) (.inl hl)) (Int.not_le.2 hlt)

/-- A copy of the draft is a copy of the ledger after the commit. -/
theorem contains_copy (h : Committing l x committed l') {c : Int} (hc : x.draft.tables.copies.contains c = true) :
    l'.tables.copies.contains c = true := by
  rw [h.eq]
  exact h.stands.copies.contains_publish_of_draft h.since.copies hc

/-- A pending reservation that a draft wrote stands against no other in the ledger. -/
theorem title_apart (h : Committing l x committed l') {i j : Int} {r s : Reservation}
    (hw : x.draft.written.reservations.contains i = true) (hr : x.draft.tables.reservations.get? i = some r)
    (hs : l.tables.reservations.get? j = some s) (hrp : r.isPending = true) (hsp : s.isPending = true)
    (huser : r.userId = s.userId) (hbook : r.bookId = s.bookId) : i = j := by
  have hclear := h.clear.pending i r j s hw hr hrp hs
  simp only [Ledger.collides, hsp, huser, hbook] at hclear
  have hid : s.id = r.id := by simpa using hclear
  exact (h.stands.reservations.keyed i r hr).1.symm.trans (hid.symm.trans (h.sound.reservations j s hs).1)

/-- A commit brings nobody two pending reservations on a title, when neither the ledger nor the draft has them. -/
theorem titles (h : Committing l x committed l') (hl : l.tables.OnePerTitle) (hd : x.draft.tables.OnePerTitle) :
    l'.tables.OnePerTitle := by
  intro i j r s hr hs hrp hsp huser hbook
  rw [h.reservations] at hr hs
  split at hr
  · rename_i hwi
    split at hs
    · exact hd i j r s hr hs hrp hsp huser hbook
    · exact h.title_apart hwi hr hs hrp hsp huser hbook
  · split at hs
    · rename_i hwj
      exact (h.title_apart hwj hs hr hsp hrp huser.symm hbook.symm).symm
    · exact hl i j r s hr hs hrp hsp huser hbook

/-- A commit of a consistent draft to a consistent ledger leaves a consistent ledger. -/
theorem consistent (h : Committing l x committed l') (hbase : x.base.tables.Consistent) (hl : l.tables.Consistent)
    (hd : x.draft.tables.Consistent) (hcov : x.draft.Covered x.base) (hmoved : x.base.Unmoved l committed) :
    l'.tables.Consistent := by
  have hkept := h.since'.copies
  have hnamed : ∀ c, l.tables.copies.contains c = true → l'.tables.copies.contains c = true := by
    intro c hc
    obtain ⟨a, ha⟩ := Table.contains_iff.1 hc
    obtain ⟨b, hb, -⟩ := hkept c a ha
    exact Table.contains_of_get? hb
  refine ⟨fun id c hc => ?_, fun id c hc hdel => ?_, fun i a ha => ?_, fun i a ha => ?_, h.titles hl.titles hd.titles⟩
  · rcases h.sameOn hbase hl hcov hmoved id with hsame | hsame
    · exact hsame.fits (hd.fits id c (hsame.copy ▸ hc))
    · exact hsame.fits (hl.fits id c (hsame.copy ▸ hc))
  · rcases h.sameOn hbase hl hcov hmoved id with hsame | hsame
    · exact hd.withdrawn id c (hsame.copy ▸ hc) hdel
    · exact hl.withdrawn id c (hsame.copy ▸ hc) hdel
  · rw [h.loans] at ha
    split at ha
    · exact h.contains_copy (hd.loans i a ha)
    · exact hnamed _ (hl.loans i a ha)
  · rw [h.reservations] at ha
    split at ha
    · exact h.contains_copy (hd.reservations i a ha)
    · exact hnamed _ (hl.reservations i a ha)

end Committing

/-- The discipline of consistent tables, which transactions of desk operations keep. -/
def agreement (policy : Policy) : Discipline (Rules.desk policy) where
  Good l _ _ := l.tables.Consistent
  Fit base d _ _ := d.tables.Consistent ∧ d.Covered base
  Moved := Ledger.Unmoved
  good_start _ _ := .empty
  good_grown hg h := by
    rw [hg.tables]
    exact h.congr rfl rfl rfl
  good_later _ h := h
  moved_grown := .grown
  moved_trans := .trans
  fit_begin _ h := ⟨h, .begin _⟩
  fit_later _ h := h
  fit_call := by
    rintro base d hand m p - hs - hfit ⟨o, rfl⟩
    refine (o.keeps (I := fun d _ => d.tables.Consistent ∧ d.Covered base) hs hfit (fun _ _ _ _ h => h) ?_).mono
      (fun _ _ _ h => h.2) fun _ _ h _ => h
    intro d m d' m' hs hmove h
    exact ⟨hmove.consistent hs h.1, .move hmove hs.le h.2⟩
  commit _ hcom hl hbase hmoved hfit := ⟨hcom.consistent hbase hl hfit.1 hfit.2 hmoved, hcom.unmoved hfit.2⟩

/-- Whether a copy's status agrees with the loans and reservations that name it. -/
structure Tables.Agrees (t : Tables) (c : Copy) : Prop where
  onLoan : c.status = .onLoan ↔ (∃! i, t.Out c.id i) ∧ ¬∃ i, t.Held c.id i
  onReserve : c.status = .onReserve ↔ (∃! i, t.Held c.id i) ∧ ¬∃ i, t.Out c.id i
  available : c.status = .available ↔ (¬∃ i, t.Out c.id i) ∧ ¬∃ i, t.Held c.id i
  withdrawn : c.isDeleted = true → c.status = .available ∧ (¬∃ i, t.Out c.id i) ∧ ¬∃ i, t.Held c.id i

/-- A status that fits agrees. -/
theorem Tables.Fits.agrees {t : Tables} {c : Copy} (h : t.Fits c.id c.status)
    (hdel : c.isDeleted = true → c.status = .available) : t.Agrees c := by
  cases hstatus : c.status with
  | available =>
    rw [hstatus] at h
    cases h with
    | available hout hheld =>
      have hno : (¬∃ i, t.Out c.id i) ∧ ¬∃ i, t.Held c.id i := ⟨fun ⟨i, hi⟩ => hout i hi, fun ⟨i, hi⟩ => hheld i hi⟩
      constructor <;> rw [hstatus]
      · exact ⟨fun hs => (nomatch hs), fun hs => absurd hs.1.exists hno.1⟩
      · exact ⟨fun hs => (nomatch hs), fun hs => absurd hs.1.exists hno.2⟩
      · exact ⟨fun _ => hno, fun _ => rfl⟩
      · exact fun _ => ⟨rfl, hno⟩
  | onLoan =>
    rw [hstatus] at h hdel
    cases h with
    | onLoan i hi hone hheld =>
      have hone : ∃! i, t.Out c.id i := ⟨i, hi, hone⟩
      have hno : ¬∃ i, t.Held c.id i := fun ⟨i, hi⟩ => hheld i hi
      constructor <;> rw [hstatus]
      · exact ⟨fun _ => ⟨hone, hno⟩, fun _ => rfl⟩
      · exact ⟨fun hs => (nomatch hs), fun hs => absurd hs.1.exists hno⟩
      · exact ⟨fun hs => (nomatch hs), fun hs => absurd hone.exists hs.1⟩
      · exact fun hd => nomatch hdel hd
  | onReserve =>
    rw [hstatus] at h hdel
    cases h with
    | onReserve i hi hone hout =>
      have hone : ∃! i, t.Held c.id i := ⟨i, hi, hone⟩
      have hno : ¬∃ i, t.Out c.id i := fun ⟨i, hi⟩ => hout i hi
      constructor <;> rw [hstatus]
      · exact ⟨fun hs => (nomatch hs), fun hs => absurd hs.1.exists hno⟩
      · exact ⟨fun _ => ⟨hone, hno⟩, fun _ => rfl⟩
      · exact ⟨fun hs => (nomatch hs), fun hs => absurd hone.exists hs.2⟩
      · exact fun hd => nomatch hdel hd

/-- In consistent tables every copy's status agrees with the loans and reservations that name it. -/
theorem Tables.Consistent.agrees {t : Tables} {n : Int} (h : t.Consistent) (hk : t.copies.Keyed n) {id : Int} {c : Copy}
    (hc : t.copies.get? id = some c) : t.Agrees c := by
  obtain rfl := (hk id c hc).1
  exact (h.fits _ c hc).agrees (h.withdrawn _ c hc)

/-- In every state that transactions of desk operations lead to, each copy's status agrees with the loans and reservations
that name it: in the committed tables, and in the view of every transaction that is not in the middle of an operation. -/
theorem status_agrees {policy : Policy} {s : Traffic} (h : Reachable (Rules.desk policy) s) :
    (∀ id c, s.ledger.tables.copies.get? id = some c → s.ledger.tables.Agrees c) ∧
      ∀ k x, s.opened k = some x → x.doing = none →
        ∀ id c, x.draft.tables.copies.get? id = some c → x.draft.tables.Agrees c := by
  have hsound := h.sound
  have hholds := (agreement policy).holds h
  refine ⟨fun id c hc => hholds.good.agrees hsound.ledger.copies hc, fun k x hx hd id c hc => ?_⟩
  have hfit := (hholds.opened k x hx).rest hd fun hs => hs.elim
  exact hfit.1.agrees (hsound.opened k x hx).stands.copies.keyed hc

/-- A desk where one copy has been lent and, in a transaction still open, another is held. -/
def lentAndHeld : Traffic :=
  let s : Traffic := { clock := .epoch }
  let s := ((s.act (.addBook "Emma")).act (.addUser "ann")).act (.addUser "ben")
  let s := (s.act (.begin 0)).serve 0 (Operation.procedure {} (.addCopies 1 2))
  let s := (s.serve 0 (Operation.procedure {} (.borrow 4 2))).act (.commit 0)
  (s.act (.begin 1)).serve 1 (Operation.procedure {} (.reserve 5 3))

theorem lentAndHeld_reachable : Reachable (Rules.desk {}) lentAndHeld := by
  have start : Reachable (Rules.desk {}) { clock := .epoch } := .start .epoch trivial
  have users := ((start.act (.addBook "Emma") trivial).act (.addUser "ann") trivial).act (.addUser "ben") trivial
  have copies := (users.act (.begin 0) trivial).perform 0 (.addCopies 1 2) False.elim
  have lent := (copies.perform 0 (.borrow 4 2) False.elim).commit 0 False.elim
  exact (lent.act (.begin 1) trivial).perform 1 (.reserve 5 3) False.elim

/-- There the copy that is lent and the one that is held agree with their status, committed or not. -/
theorem lentAndHeld_agrees : Reachable (Rules.desk {}) lentAndHeld ∧
    (lentAndHeld.ledger.tables.copies.get? 4).map (·.status) = some .onLoan ∧
    ((lentAndHeld.opened 1).bind fun x => x.draft.tables.copies.get? 5).map (·.status) = some .onReserve ∧
    (∀ id c, lentAndHeld.ledger.tables.copies.get? id = some c → lentAndHeld.ledger.tables.Agrees c) ∧
    ∀ k x, lentAndHeld.opened k = some x → x.doing = none →
      ∀ id c, x.draft.tables.copies.get? id = some c → x.draft.tables.Agrees c :=
  ⟨lentAndHeld_reachable, by decide +kernel, by decide +kernel, status_agrees lentAndHeld_reachable⟩

end Circulation
