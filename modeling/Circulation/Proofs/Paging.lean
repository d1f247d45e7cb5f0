import Circulation.Proofs.Bookkeeping
import Circulation.Proofs.Listing
import Mathlib.Data.List.Basic

/-!
# Pages of a list

Ids tell the rows of a table apart, so the rows that a filter admits are in one order, oldest first, and no two of them
tie. A window gives the rows at the positions from its offset on, as far as its limit goes, in that order or in the
opposite one. Main statement: in every open transaction the lists of copies, loans, reservations and fines are such
pages, the counts agree with them, and pages of one size lie side by side and cover the list (`pages_tile`).
-/

namespace Circulation

variable {α : Type} [Listed α]

/-- Whether a row is listed before another: it was created earlier, or at the same instant with a smaller id. -/
def Listed.Before (a b : α) : Prop :=
  Listed.createdAt a < Listed.createdAt b ∨ Listed.createdAt a = Listed.createdAt b ∧ Listed.id a < Listed.id b

/-- The whole list in a direction. -/
def Window.whole (d : Direction) : Window where
  direction := d

/-- Whether what is listed and counted are the rows that a filter admits of a table: the whole list, oldest first, has
each of them once and in order, the count is its length, newest first is the opposite order, a window gives the
positions from its offset up to its limit, and windows of one size, one behind the other, give the whole list. -/
structure Table.Paged (t : Table α) (admits : α → Bool) (list : Window → List α) (count : Int) : Prop where
  mem : ∀ a, a ∈ list (.whole .ascending) ↔ (∃ id, t.get? id = some a) ∧ admits a = true
  nodup : (list (.whole .ascending)).Nodup
  ordered : (list (.whole .ascending)).Pairwise Listed.Before
  counted : ((list (.whole .ascending)).length : Int) = count
  reversed : list (.whole .descending) = (list (.whole .ascending)).reverse
  position : ∀ (w : Window) (i : Nat), (list w)[i]? =
    if w.limit.all (fun n => (i : Int) < n) then (list (.whole w.direction))[w.offset.toNat + i]? else none
  tiled : ∀ k : Int, 1 ≤ k → ∀ (d : Direction) (n : Nat), ((list (.whole d)).length : Int) ≤ n * k →
    (List.range n).flatMap (fun i : Nat => list ⟨i * k, some k, d⟩) = list (.whole d)

namespace Listed

variable {a b : α}

/-- A row that is listed before another is not that other. -/
theorem Before.ne (h : Before a b) : a ≠ b := by
  rintro rfl
  rcases h with h | h
  · exact Int.lt_irrefl _ h
  · exact Int.lt_irrefl _ h.2

/-- A row that may stand ahead of another with another id is listed before it. -/
theorem before_of_notAfter (h : notAfter a b = true) (hid : id a ≠ id b) : Before a b := by
  rcases notAfter_iff.1 h with hlt | ⟨heq, hle⟩
  · exact .inl hlt
  · exact .inr ⟨Instant.eq_of_rank_eq heq, Int.lt_iff_le_and_ne.2 ⟨hle, hid⟩⟩

/-- Rows that their ids tell apart are listed one before the other. -/
theorem sort_before {as : List α} (h : as.Pairwise fun a b => id a < id b) : (sort as).Pairwise Before := by
  have hids : (sort as).Pairwise fun a b => id a ≠ id b :=
    (List.mergeSort_perm as notAfter).pairwise_iff (fun hne => hne.symm) |>.2 (h.imp fun hlt => Int.ne_of_lt hlt)
  exact ((sort_pairwise as).and hids).imp fun ⟨hle, hne⟩ => before_of_notAfter hle hne

end Listed

/-! ## Cutting a list -/

namespace Window

variable {β : Type}

/-- The whole list is not cut. -/
theorem cut_whole (d : Direction) (rows : List β) : (whole d).cut rows = rows :=
  rfl

/-- A window gives the positions from its offset on, as far as its limit goes. -/
theorem getElem?_cut (w : Window) (rows : List β) (i : Nat) :
    (w.cut rows)[i]? = if w.limit.all (fun n => (i : Int) < n) then rows[w.offset.toNat + i]? else none := by
  cases hlimit : w.limit with
  | none => simp [cut, hlimit]
  | some n =>
    have hin : i < n.toNat ↔ (i : Int) < n := Int.lt_toNat
    simp only [cut, hlimit, List.getElem?_take, List.getElem?_drop, Option.all_some, decide_eq_true_eq, hin]

/-- Windows of one size, one behind the other, give the rows up to where the last of them ends. -/
theorem flatMap_cut (d : Direction) (k n : Nat) (rows : List β) :
    (List.range n).flatMap (fun i : Nat => (⟨i * k, some k, d⟩ : Window).cut rows) = rows.take (n * k) := by
  induction n with
  | zero => simp
  | succ n ih =>
    have hoffset : ((n : Int) * k).toNat = n * k := by rw [← Int.natCast_mul, Int.toNat_natCast]
    rw [List.range_succ, List.flatMap_append, ih, Nat.succ_mul, List.take_add]
    simp only [List.flatMap_cons, List.flatMap_nil, List.append_nil, cut, hoffset, Int.toNat_natCast]

end Window

/-! ## Lists of a table -/

/-- The rows that a filter admits of a table whose rows lie under their own ids, and how many there are. -/
theorem Table.Keyed.paged {t : Table α} {n : Int} (h : t.Keyed n) (admits : α → Bool) :
    t.Paged admits (fun w => w.apply (Listed.sort (t.rows.filter admits))) (t.rows.filter admits).length := by
  have hbefore := Listed.sort_before (h.rows_ids.filter admits)
  constructor
  · intro a
    show a ∈ Listed.sort (t.rows.filter admits) ↔ _
    rw [Listed.sort, (List.mergeSort_perm _ _).mem_iff, List.mem_filter, Table.mem_rows]
  · exact hbefore.imp Listed.Before.ne
  · exact hbefore
  · exact congrArg Int.ofNat (List.length_mergeSort _)
  · rfl
  · intro w i
    simp only [Window.apply_sort, Window.cut_whole]
    exact w.getElem?_cut _ i
  · intro k hk d n hle
    obtain ⟨k, rfl⟩ := Int.eq_ofNat_of_zero_le (Int.le_trans (by decide) hk)
    simp only [Window.apply_sort, Window.cut_whole] at hle ⊢
    rw [Window.flatMap_cut, List.take_of_length_le (by exact_mod_cast hle)]
    rfl

/-- In every open transaction, whatever was asked of it before and whatever the others do, each filter has one list of
the copies, loans, reservations and fines that it admits, one before the other, of which a window gives a part and
whose length is counted; windows of one size give all of it without loss and without a row twice. To list and to count
leaves the transaction as it is. -/
theorem pages_tile {rules : Rules} {s : Traffic} (h : Reachable rules s) {k : Nat} {x : Transaction}
    (hx : s.opened k = some x) {work : Work} (hwork : work.draft = x.draft) :
    (∀ f : CopyFilter, ∃ list count, (∀ w, Work.answer (.listCopies f w) work = (.ok (list w), work)) ∧
      Work.answer (.countCopies f) work = (.ok count, work) ∧ x.draft.tables.copies.Paged f.admits list count) ∧
    (∀ f : LoanFilter, ∃ list count, (∀ w, Work.answer (.listLoans f w) work = (.ok (list w), work)) ∧
      Work.answer (.countLoans f) work = (.ok count, work) ∧ x.draft.tables.loans.Paged f.admits list count) ∧
    (∀ f : ReservationFilter, ∃ list count, (∀ w, Work.answer (.listReservations f w) work = (.ok (list w), work)) ∧
      Work.answer (.countReservations f) work = (.ok count, work) ∧
      x.draft.tables.reservations.Paged f.admits list count) ∧
    ∀ f : FineFilter, ∃ list count, (∀ w, Work.answer (.listFines f w) work = (.ok (list w), work)) ∧
      Work.answer (.countFines f) work = (.ok count, work) ∧
      x.draft.tables.fines.Paged (f.admits x.draft.tables.borrower) list count := by
  have hs := (h.sound.opened k x hx).stands
  rw [← hwork] at hs ⊢
  refine ⟨fun f => ?_, fun f => ?_, fun f => ?_, fun f => ?_⟩
  · exact ⟨_, _, fun _ => rfl, rfl, hs.copies.keyed.paged f.admits⟩
  · exact ⟨_, _, fun _ => rfl, rfl, hs.loans.keyed.paged f.admits⟩
  · exact ⟨_, _, fun _ => rfl, rfl, hs.reservations.keyed.paged f.admits⟩
  · exact ⟨_, _, fun _ => rfl, rfl, hs.fines.keyed.paged (f.admits work.draft.tables.borrower)⟩

/-- A desk where a transaction has added three copies at one instant. -/
def threeAdded : Traffic :=
  (({ clock := .epoch : Traffic }.act (.addBook "Emma")).act (.begin 0)).serve 0 (Operation.procedure {} (.addCopies 1 3))

theorem threeAdded_reachable : Reachable (Rules.desk {}) threeAdded := by
  have start : Reachable (Rules.desk {}) { clock := .epoch } := .start .epoch trivial
  exact ((start.act (.addBook "Emma") trivial).act (.begin 0) trivial).perform 0 (.addCopies 1 3) False.elim

/-- Two pages of two hold the three copies, which only their ids tell apart. -/
theorem threeAdded_pages : ∃ (x : Transaction) (list : Window → List Copy), threeAdded.opened 0 = some x ∧
    x.draft.tables.copies.rows.map (fun c => (c.id, c.createdAt)) = [(2, .epoch), (3, .epoch), (4, .epoch)] ∧
    (∀ w, Work.answer (.listCopies {} w) ⟨x.draft, 4, 0⟩ = (.ok (list w), ⟨x.draft, 4, 0⟩)) ∧
    list ⟨0, some 2, .descending⟩ ++ list ⟨2, some 2, .descending⟩ = list (.whole .descending) := by
  obtain ⟨x, hx⟩ := Option.isSome_iff_exists.1 (show (threeAdded.opened 0).isSome = true by decide +kernel)
  have hrows : (threeAdded.opened 0).map (fun x => x.draft.tables.copies.rows.map fun c => (c.id, c.createdAt)) =
      some [(2, .epoch), (3, .epoch), (4, .epoch)] := by decide +kernel
  have hthree : (threeAdded.opened 0).map (fun x => ((x.draft.tables.copiesOf {}).length : Int)) = some 3 := by
    decide +kernel
  simp only [hx, Option.map_some, Option.some.injEq] at hrows hthree
  have hwork : (⟨x.draft, 4, 0⟩ : Work).draft = x.draft := rfl
  obtain ⟨list, count, hlist, hcount, hpaged⟩ := (pages_tile threeAdded_reachable hx hwork).1 {}
  have hlength : ((list (.whole .descending)).length : Int) = 3 := by
    rw [hpaged.reversed, List.length_reverse, hpaged.counted]
    exact (Except.ok.inj (congrArg Prod.fst hcount)).symm.trans hthree
  have htiled := hpaged.tiled 2 (by decide) .descending 2 (by rw [hlength]; decide)
  exact ⟨x, list, hx, hrows, hlist, by simpa [List.range_succ] using htiled⟩

end Circulation
