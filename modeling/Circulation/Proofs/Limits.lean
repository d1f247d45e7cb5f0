import Circulation.Proofs.Capacity

/-!
# Limits in one view

The limits of a user are counts in the tables that a transaction sees, and each operation of the desk leaves them within their
bounds if it found them so (`Move.withinLimits`). What a transaction sees that began on a ledger within the limits stays
within them, whatever it was put to and whether or not that was refused; a ledger leaves them only by two transactions that
overlapped. Of reservations a user may have one more than the cap, and somebody can have as many
(`limits_kept_in_view`).
-/

namespace Circulation

/-- Whether every user is within the limits: so many loans at most, one more reservation than the cap at most, and one of
either on a title. -/
structure Tables.WithinLimits (policy : Policy) (t : Tables) : Prop where
  loans : ∀ userId, ((t.borrowedBy userId).length : Int) ≤ policy.maxLoans
  loanTitles : ∀ userId bookId, (t.borrowedOnTitle userId bookId).length ≤ 1
  reservations : ∀ userId, ((t.pendingOf userId).length : Int) ≤ policy.maxReservations + 1
  reservationTitles : ∀ userId bookId, (t.pendingOnTitle userId bookId).length ≤ 1

/-- With nothing lent and nothing held every user is within the limits. -/
theorem Tables.WithinLimits.idle {policy : Policy} (hvalid : policy.isValid = true) {t : Tables} (hloans : t.loans = .empty)
    (hreservations : t.reservations = .empty) : t.WithinLimits policy := by
  have hlent := Policy.one_le_maxLoans hvalid
  have hcap := Policy.maxReservations_nonneg hvalid
  have hnone {α : Type} (p : α → Bool) : (Table.empty.rows.filter p).length = 0 := rfl
  constructor <;> intros <;>
    simp only [borrowedBy, borrowedOnTitle, pendingOf, pendingOnTitle, hloans, hreservations, hnone] <;>
    omega

/-- At most one row has a property when no two do. -/
theorem Table.length_filter_rows_le_one_iff {α : Type} {t : Table α} {p : α → Bool} : (t.rows.filter p).length ≤ 1 ↔
    ∀ i j a b, t.get? i = some a → t.get? j = some b → p a = true → p b = true → i = j := by
  have hnodup := filter_ids_nodup t fun e => p e.2
  have hmem : ∀ id, id ∈ (t.entries.filter fun e => p e.2).map (·.1) ↔ ∃ a, t.get? id = some a ∧ p a = true := fun _ =>
    mem_filter_ids
  have hlength : (t.rows.filter p).length = ((t.entries.filter fun e => p e.2).map (·.1)).length := by simp [filter_rows]
  rw [hlength]
  generalize (t.entries.filter fun e => p e.2).map (·.1) = ids at hnodup hmem
  constructor
  · intro hle i j a b ha hb hpa hpb
    have hi := (hmem i).2 ⟨a, ha, hpa⟩
    have hj := (hmem j).2 ⟨b, hb, hpb⟩
    match ids, hle with
    | [id], _ => exact (List.mem_singleton.1 hi).trans (List.mem_singleton.1 hj).symm
  · intro hone
    match ids with
    | [] | [_] => simp
    | i :: j :: rest =>
      obtain ⟨a, ha, hpa⟩ := (hmem i).1 List.mem_cons_self
      obtain ⟨b, hb, hpb⟩ := (hmem j).1 (List.mem_cons_of_mem _ List.mem_cons_self)
      have hne := (List.nodup_cons.1 hnodup).1
      exact absurd (hone i j a b ha hb hpa hpb ▸ List.mem_cons_self) hne

/-- Nobody has two pending reservations on a title when no count of them passes one. -/
theorem Tables.onePerTitle_iff {t : Tables} : t.OnePerTitle ↔ ∀ userId bookId, (t.pendingOnTitle userId bookId).length ≤ 1 := by
  simp only [Tables.pendingOnTitle, Table.length_filter_rows_le_one_iff, Bool.and_eq_true, decide_eq_true_eq]
  constructor
  · rintro h userId bookId i j r s hr hs ⟨⟨rfl, rfl⟩, hrp⟩ ⟨⟨huser, hbook⟩, hsp⟩
    exact h i j r s hr hs hrp hsp huser.symm hbook.symm
  · intro h i j r s hr hs hrp hsp huser hbook
    exact h r.userId r.bookId i j r s hr hs ⟨⟨rfl, rfl⟩, hrp⟩ ⟨⟨huser.symm, hbook.symm⟩, hsp⟩

section

variable {rules : Rules} {policy : Policy} {base : Ledger} {d d' : Draft} {m m' : Moment}

/-- A move leaves nobody with two pending reservations on a title. -/
theorem Move.onePerTitle (h : Move rules policy d m d' m') (hd : d.tables.OnePerTitle) : d'.tables.OnePerTitle := by
  rw [Tables.onePerTitle_iff] at hd ⊢
  intro userId bookId
  obtain ⟨k, hk⟩ := h.reservations
  refine Int.ofNat_le.1 (Table.length_filter_rows_within k (fun i r hr hp => ?_) (Int.ofNat_le.2 (hd userId bookId)))
  simp only [Bool.and_eq_true, decide_eq_true_eq] at hp
  obtain ⟨⟨rfl, rfl⟩, hpending⟩ := hp
  rcases hk i r hr hpending with ⟨hi, hmay⟩ | hold
  · exact .inl ⟨hi, Int.lt_of_le_of_lt (Int.ofNat_le.2 (Nat.le_of_eq hmay.1.title)) (by decide)⟩
  · exact .inr ⟨r, hold, by simp [hpending]⟩

/-- A move leaves every user within the limits. -/
theorem Move.withinLimits (h : Move rules policy d m d' m') (hvalid : policy.isValid = true) (hs : d.Stands base m.lastId)
    (hd : d.tables.WithinLimits policy) : d'.tables.WithinLimits policy where
  loans userId := by
    have hmoved := (Quota.ofUser hvalid userId fun _ => true).move hs h
    rw [Quota.ofUser_count hvalid userId fun _ _ _ _ => rfl, Quota.ofUser_count hvalid userId fun _ _ _ _ => rfl] at hmoved
    exact hmoved (hd.loans userId)
  loanTitles userId bookId := by
    have hmoved := (Quota.ofTitle policy userId bookId fun _ => true).move hs h
    rw [Quota.ofTitle_count policy userId bookId fun _ _ _ _ => rfl,
      Quota.ofTitle_count policy userId bookId fun _ _ _ _ => rfl] at hmoved
    exact Int.ofNat_le.1 (hmoved (Int.ofNat_le.2 (hd.loanTitles userId bookId)))
  reservations userId := by
    have hmoved := (Quota.pending hvalid userId fun _ => true).move hs h
    rw [Quota.pending_count hvalid userId fun _ _ _ _ => rfl, Quota.pending_count hvalid userId fun _ _ _ _ => rfl] at hmoved
    exact hmoved (hd.reservations userId)
  reservationTitles := Tables.onePerTitle_iff.1 (h.onePerTitle (Tables.onePerTitle_iff.2 hd.reservationTitles))

end

/-- The discipline of views that stay within the limits if they began within them. -/
def confinement {policy : Policy} (hvalid : policy.isValid = true) : Discipline (Rules.desk policy) where
  Good l _ _ := l.tables.OnePerTitle
  Fit base d _ _ := d.tables.OnePerTitle ∧ (base.tables.WithinLimits policy → d.tables.WithinLimits policy)
  Moved _ _ _ := True
  good_start _ _ _ _ _ _ h := nomatch h
  good_grown hg h := by
    rw [hg.tables]
    exact h
  good_later _ h := h
  moved_grown _ := trivial
  moved_trans _ _ := trivial
  fit_begin _ h := ⟨h, fun hbase => hbase⟩
  fit_later _ h := h
  fit_call := by
    rintro base d hand m p - hs - hfit ⟨o, rfl⟩
    refine (o.keeps (I := fun d _ =>
      d.tables.OnePerTitle ∧ (base.tables.WithinLimits policy → d.tables.WithinLimits policy)) hs hfit
      (fun _ _ _ _ h => h) ?_).mono (fun _ _ _ h => h.2) fun _ _ h _ => h
    intro d m d' m' hs hmove h
    exact ⟨hmove.onePerTitle h.1, fun hbase => hmove.withinLimits hvalid hs (h.2 hbase)⟩
  commit _ hcom hl _ _ hfit := ⟨hcom.titles hl hfit.1, trivial⟩

section

variable {policy : Policy} {l : Ledger} {t : Instant} {s : Traffic}

/-- A discipline holds on a ledger that it finds good while nobody works on it. -/
theorem Discipline.holds_idle {rules : Rules} (D : Discipline rules) (ht : rules.admits t) (hl : D.Good l t []) :
    D.Holds { ledger := l, clock := t } :=
  ⟨ht, hl, fun _ _ hx => nomatch hx⟩

/-- Traffic is sound with nobody at work on a sound ledger. -/
theorem Traffic.Sound.idle (hl : l.Sound) : Traffic.Sound { ledger := l, clock := t } :=
  ⟨hl, fun _ _ hx => (nomatch hx), fun _ _ _ _ _ hx => nomatch hx⟩

/-- A user goes beyond a quota by two transactions that overlapped and both left something new that counts. -/
theorem Quota.exceeded (q : Quota policy) (hl : l.Sound) (hin : (q.count l.tables : Int) ≤ q.bound)
    (h : Leads (Rules.desk policy) { ledger := l, clock := t } s) (hout : q.bound < q.count s.ledger.tables) :
    ∃ e x, Overlapping s.journal e x ∧ q.Opens e ∧ q.Opens x := by
  have hgood := (((q.discipline False).holds_idle trivial fun _ => hin).leads (.idle hl) h).1.good
  by_contra hnone
  have hserial : q.Serial s.journal := fun e x ho hboth => hnone ⟨e, x, ho, hboth⟩
  exact absurd (hgood hserial) (Int.not_le.2 hout)

/-- A ledger leaves the limits only by two transactions that overlapped, and both left a new loan of one user that is still out,
or both a new reservation of one user that is still pending. -/
theorem overlapping_of_not_withinLimits (hvalid : policy.isValid = true) (hl : l.Sound) (hin : l.tables.WithinLimits policy)
    (h : Leads (Rules.desk policy) { ledger := l, clock := t } s) (hout : ¬s.ledger.tables.WithinLimits policy) :
    ∃ e x userId, Overlapping s.journal e x ∧
      (e.LendsTo s.ledger.tables userId ∧ x.LendsTo s.ledger.tables userId ∨
        e.HoldsFor s.ledger.tables userId ∧ x.HoldsFor s.ledger.tables userId) := by
  by_contra hnone
  refine hout ⟨fun userId => ?_, fun userId bookId => ?_, fun userId => ?_, ?_⟩
  · refine Int.not_lt.1 fun hlt => hnone ?_
    let q := Quota.ofUser hvalid userId s.ledger.tables.loanIsOut
    have hfirst : (q.count l.tables : Int) ≤ q.bound :=
      Int.le_trans (Int.ofNat_le.2 (Quota.ofUser_count_le hvalid l.tables userId _)) (hin.loans userId)
    have hlast : q.bound < q.count s.ledger.tables := by
      rw [Quota.ofUser_count hvalid userId Tables.loanIsOut_of_get?]
      exact hlt
    obtain ⟨e, x, ho, he, hx⟩ := q.exceeded hl hfirst h hlast
    exact ⟨e, x, userId, ho, .inl ⟨Quota.lendsTo_of_opens he, Quota.lendsTo_of_opens hx⟩⟩
  · refine Nat.not_lt.1 fun hlt => hnone ?_
    let q := Quota.ofTitle policy userId bookId s.ledger.tables.loanIsOut
    have hfirst : (q.count l.tables : Int) ≤ q.bound :=
      Int.le_trans (Int.ofNat_le.2 (Quota.ofTitle_count_le policy l.tables userId bookId _))
        (Int.ofNat_le.2 (hin.loanTitles userId bookId))
    have hlast : q.bound < q.count s.ledger.tables := by
      rw [Quota.ofTitle_count policy userId bookId Tables.loanIsOut_of_get?]
      exact Int.ofNat_lt.2 hlt
    obtain ⟨e, x, ho, he, hx⟩ := q.exceeded hl hfirst h hlast
    exact ⟨e, x, userId, ho,
      .inl ⟨(Quota.lendsTitleTo_of_opens he).lendsTo, (Quota.lendsTitleTo_of_opens hx).lendsTo⟩⟩
  · refine Int.not_lt.1 fun hlt => hnone ?_
    let q := Quota.pending hvalid userId s.ledger.tables.holdIsPending
    have hfirst : (q.count l.tables : Int) ≤ q.bound :=
      Int.le_trans (Int.ofNat_le.2 (Quota.pending_count_le hvalid l.tables userId _)) (hin.reservations userId)
    have hlast : q.bound < q.count s.ledger.tables := by
      rw [Quota.pending_count hvalid userId Tables.holdIsPending_of_get?]
      exact hlt
    obtain ⟨e, x, ho, he, hx⟩ := q.exceeded hl hfirst h hlast
    exact ⟨e, x, userId, ho, .inr ⟨Quota.holdsFor_of_opens he, Quota.holdsFor_of_opens hx⟩⟩
  · -- Two pending reservations on a title never get into one ledger, whoever overlaps.
    have htitles := Tables.onePerTitle_iff.2 hin.reservationTitles
    exact Tables.onePerTitle_iff.1 (((confinement hvalid).holds_idle trivial htitles).leads (.idle hl) h).1.good

end

/-- From a ledger where all users are within the limits of a valid policy, every transaction at rest that began on such a ledger
sees all of them within the limits, whatever it was put to and whether or not that was refused; the ledger leaves the limits
only by two transactions that overlapped and both left a new loan of one user that is still out, or both a new reservation of
one user that is still pending. Somebody can have as many reservations pending as the limits admit, with three ids for each
and one for the user, if a hold from some instant has an expiry; if none has, nobody ever has one pending. -/
theorem limits_kept_in_view {policy : Policy} (hvalid : policy.isValid = true) :
    (∀ (l : Ledger) (t : Instant) (s : Traffic), l.Sound → l.tables.WithinLimits policy →
      Leads (Rules.desk policy) { ledger := l, clock := t } s →
      (∀ k x, s.opened k = some x → x.doing = none → x.base.tables.WithinLimits policy →
        x.draft.tables.WithinLimits policy) ∧
      (¬s.ledger.tables.WithinLimits policy → ∃ e x userId, Overlapping s.journal e x ∧
        (e.LendsTo s.ledger.tables userId ∧ x.LendsTo s.ledger.tables userId ∨
          e.HoldsFor s.ledger.tables userId ∧ x.HoldsFor s.ledger.tables userId))) ∧
    (∀ t expiry : Instant, policy.reservationHold.bind t.after = .ok expiry → ∃ s userId,
      Reachable (Rules.desk policy) s ∧ s.clock = t ∧
      ((s.ledger.tables.pendingOf userId).length : Int) = policy.maxReservations + 1 ∧
      s.ledger.lastId = 3 * (policy.maxReservations + 1) + 1) ∧
    ∀ s userId, Reachable (Rules.desk policy) s → s.ledger.tables.pendingOf userId ≠ [] →
      ∃ t expiry : Instant, policy.reservationHold.bind t.after = .ok expiry := by
  refine ⟨fun l t s hl hin h => ⟨fun k x hx hd => ?_, overlapping_of_not_withinLimits hvalid hl hin h⟩,
    fun t expiry he => ?_, fun s userId h hpending => ?_⟩
  · have htitles := Tables.onePerTitle_iff.2 hin.reservationTitles
    have hholds := (((confinement hvalid).holds_idle trivial htitles).leads (.idle hl) h).1
    exact ((hholds.opened k x hx).rest hd fun hs => hs.elim).2
  · have hcap := Policy.maxReservations_nonneg hvalid
    obtain ⟨s, hs, hids⟩ := Traffic.Filled.exists_of_le (n := (policy.maxReservations + 1).toNat) he (by omega)
    exact ⟨s, 1, hs.reachable, hs.clock, by rw [hs.pending]; omega, by omega⟩
  · by_contra hnone
    exact hpending (h.pendingOf_eq_nil (fun t expiry hexpiry => hnone ⟨t, expiry, hexpiry⟩) userId)

/-- One reservation at a time, held for as many days as a count may say. -/
def endlessHold : Policy :=
  { maxReservations := 0, reservationHoldDays := 9_223_372_036_854_775_807 }

/-- A valid policy under which nobody ever has as many reservations pending as the limits admit, for want of an expiry. -/
theorem endlessHold_not_reached : endlessHold.isValid = true ∧ ∀ s userId, Reachable (Rules.desk endlessHold) s →
    ((s.ledger.tables.pendingOf userId).length : Int) ≠ endlessHold.maxReservations + 1 := by
  refine ⟨by decide, fun s userId h heq => ?_⟩
  have hnever : ∀ t expiry : Instant, endlessHold.reservationHold.bind t.after ≠ .ok expiry := fun t expiry hexpiry =>
    nomatch hexpiry
  rw [h.pendingOf_eq_nil hnever userId] at heq
  exact absurd heq (by decide)

/-- The user borrows and reserves in one transaction as much as the limits allow, and is refused one more. -/
def upToLimits : Traffic :=
  let s := Traffic.act { ledger := stocked.ledger, clock := .epoch } (.begin 0)
  let s := s.serve 0 (Operation.procedure sparing (.borrow 5 4))
  (s.serve 0 (Operation.procedure sparing (.reserve 7 4))).serve 0 (Operation.procedure sparing (.reserve 8 4))

/-- There the user has as much as the limits allow, and a run has as many reservations pending as they admit. -/
theorem upToLimits_within : sparing.isValid = true ∧ (∃ x, upToLimits.opened 0 = some x ∧ x.refused = true ∧
    (x.draft.tables.borrowedBy 4).length = 1 ∧ (x.draft.tables.pendingOf 4).length = 1 ∧
    x.draft.tables.WithinLimits sparing) ∧
    ∃ s userId, Reachable (Rules.desk sparing) s ∧ ((s.ledger.tables.pendingOf userId).length : Int) = 1 ∧
      s.ledger.lastId = 4 := by
  have hvalid : sparing.isValid = true := by decide
  have hin : stocked.ledger.tables.WithinLimits sparing := .idle hvalid (by decide +kernel) (by decide +kernel)
  have hleads : Leads (Rules.desk sparing) { ledger := stocked.ledger, clock := .epoch } upToLimits :=
    (((Leads.refl.act (.begin 0) trivial).perform 0 (.borrow 5 4) False.elim).perform 0 (.reserve 7 4) False.elim).perform
      0 (.reserve 8 4) False.elim
  obtain ⟨x, hx⟩ := Option.isSome_iff_exists.1 (show (upToLimits.opened 0).isSome = true by decide +kernel)
  have hrest : (upToLimits.opened 0).all (·.doing.isNone) = true := by decide +kernel
  have hrefused : (upToLimits.opened 0).map (·.refused) = some true := by decide +kernel
  have hbase : (upToLimits.opened 0).map (·.base) = some stocked.ledger := by decide +kernel
  have hlent : (upToLimits.opened 0).map (fun x => (x.draft.tables.borrowedBy 4).length) = some 1 := by decide +kernel
  have hheld : (upToLimits.opened 0).map (fun x => (x.draft.tables.pendingOf 4).length) = some 1 := by decide +kernel
  simp only [hx, Option.all_some, Option.isNone_iff_eq_none] at hrest
  simp only [hx, Option.map_some, Option.some.injEq] at hrefused hbase hlent hheld
  have hkept := limits_kept_in_view hvalid
  have hview := (hkept.1 _ _ _ stocked_reachable.sound.ledger hin hleads).1 0 x hx hrest (hbase ▸ hin)
  obtain ⟨expiry, he⟩ : ∃ expiry, sparing.reservationHold.bind Instant.epoch.after = .ok expiry := ⟨_, rfl⟩
  obtain ⟨s, userId, hreached, -, hpending, hids⟩ := hkept.2.1 _ _ he
  exact ⟨hvalid, ⟨x, hx, hrefused, hlent, hheld, hview⟩, s, userId, hreached, hpending, hids⟩

end Circulation
