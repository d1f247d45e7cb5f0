import Circulation.Listing
import Mathlib.Data.List.Perm.Basic

/-!
# The order of lists

Records are listed by time of creation and then by id. Where ids tell records apart there is just one list of some
records in a direction (`Direction.eq_listed`), however they are put in order. `Window.apply_sort` parts a window into
the direction and the cut.
-/

namespace Circulation

variable {α : Type} [Listed α]

namespace Listed

variable {a b c : α}

/-- A record is not listed after another that was created later, or at the same instant under no smaller id. -/
theorem notAfter_iff : notAfter a b = true ↔
    (createdAt a).rank < (createdAt b).rank ∨ (createdAt a).rank = (createdAt b).rank ∧ id a ≤ id b := by
  have hsame : createdAt a = createdAt b ↔ (createdAt a).rank = (createdAt b).rank :=
    ⟨congrArg _, Instant.eq_of_rank_eq⟩
  simp [notAfter, Instant.lt_iff_rank_lt, hsame]

/-- The order of listing is transitive. -/
theorem notAfter_trans (h : notAfter a b = true) (h' : notAfter b c = true) : notAfter a c = true := by
  rw [notAfter_iff] at *
  omega

/-- Of two records one is not listed after the other. -/
theorem notAfter_total (a b : α) : notAfter a b = true ∨ notAfter b a = true := by
  rw [notAfter_iff, notAfter_iff]
  omega

/-- Records that stand ahead of each other have one id. -/
theorem id_eq_of_notAfter (h : notAfter a b = true) (h' : notAfter b a = true) : id a = id b := by
  rw [notAfter_iff] at *
  omega

/-- Records are sorted by the order of listing. -/
theorem sort_pairwise (as : List α) : (sort as).Pairwise fun a b => notAfter a b = true := by
  apply List.pairwise_mergeSort
  · intro a b c h h'
    exact notAfter_trans h h'
  · intro a b
    rw [Bool.or_eq_true]
    exact notAfter_total a b

end Listed

namespace Direction

/-- Whether a record may stand ahead of another in a list of a direction. -/
def Allows (d : Direction) (a b : α) : Prop :=
  match d with
  | .ascending => Listed.notAfter a b = true
  | .descending => Listed.notAfter b a = true

/-- The records in a direction. -/
def listed (d : Direction) (as : List α) : List α :=
  match d with
  | .ascending => Listed.sort as
  | .descending => (Listed.sort as).reverse

/-- What is listed in a direction are the records, each as often as it was there. -/
theorem listed_perm (d : Direction) (as : List α) : (d.listed as).Perm as := by
  cases d with
  | ascending => exact List.mergeSort_perm as _
  | descending => exact (List.reverse_perm _).trans (List.mergeSort_perm as _)

/-- What is listed in a direction is in the order of that direction. -/
theorem listed_pairwise (d : Direction) (as : List α) : (d.listed as).Pairwise d.Allows := by
  cases d with
  | ascending => exact Listed.sort_pairwise as
  | descending => exact List.pairwise_reverse.2 (Listed.sort_pairwise as)

/-- Records that may each stand ahead of the other are under one id. -/
theorem id_eq_of_allows {d : Direction} {a b : α} (h : d.Allows a b) (h' : d.Allows b a) : Listed.id a = Listed.id b := by
  cases d with
  | ascending => exact Listed.id_eq_of_notAfter h h'
  | descending => exact Listed.id_eq_of_notAfter h' h

/-- Records that their ids tell apart are in one order only. -/
theorem eq_listed {d : Direction} {as bs : List α} (hids : ∀ a ∈ as, ∀ b ∈ as, Listed.id a = Listed.id b → a = b)
    (hp : bs.Perm as) (hd : bs.Pairwise d.Allows) : bs = d.listed as := by
  refine List.Perm.eq_of_pairwise ?_ hd (d.listed_pairwise as) (hp.trans (d.listed_perm as).symm)
  intro a b ha hb hab hba
  exact hids a (hp.mem_iff.1 ha) b ((d.listed_perm as).mem_iff.1 hb) (id_eq_of_allows hab hba)

end Direction

/-- The part of a list that a window gives. -/
def Window.cut {β : Type} (w : Window) (rows : List β) : List β :=
  match w.limit with
  | some n => (rows.drop w.offset.toNat).take n.toNat
  | none => rows.drop w.offset.toNat

/-- A window with a limit cuts off what is before its offset, and then what is beyond the limit. -/
theorem Window.cut_of_some {β : Type} {w : Window} {n : Int} (h : w.limit = some n) :
    w.cut = fun rows : List β => (rows.drop w.offset.toNat).take n.toNat := by
  funext rows
  rw [cut, h]

/-- A window without a limit cuts off what is before its offset. -/
theorem Window.cut_of_none {β : Type} {w : Window} (h : w.limit = none) :
    w.cut = fun rows : List β => rows.drop w.offset.toNat := by
  funext rows
  rw [cut, h]

/-- A window of the records in listing order is the part it cuts of them in its direction. -/
theorem Window.apply_sort (w : Window) (as : List α) : w.apply (Listed.sort as) = w.cut (w.direction.listed as) :=
  rfl

end Circulation
