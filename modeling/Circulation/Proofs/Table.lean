import Circulation.Ledger

/-!
# What tables hold

A table is spoken of through `get?`: these lemmas say so of its rows, of its ids, of sets of ids, and of what a commit
publishes. Counting and listing go through `get?` too: `length_filter_rows_le` compares how many rows of two tables have
a property, and `filter_rows_congr` says that two tables list the same rows when they hold the same ones.
-/

namespace Circulation

namespace Table

variable {α : Type}

/-- In entries that are in order the row found under an id is the one that stands there. -/
theorem lookup_eq_some_iff {id : Int} {a : α} {es : List (Int × α)} (h : es.Pairwise (·.1 < ·.1)) :
    lookup id es = some a ↔ (id, a) ∈ es := by
  induction es with
  | nil => simp [lookup]
  | cons x rest ih =>
    obtain ⟨k, b⟩ := x
    obtain ⟨hx, hr⟩ := List.pairwise_cons.1 h
    by_cases hk : k = id
    · subst hk
      have hn : (k, a) ∉ rest := fun hm => Int.lt_irrefl k (hx (k, a) hm)
      simp [lookup, hn, eq_comm]
    · simp [lookup, hk, ih hr, Ne.symm hk]

/-- The entries of a table are what is found in it. -/
theorem mem_entries {t : Table α} {id : Int} {a : α} : (id, a) ∈ t.entries ↔ t.get? id = some a :=
  (lookup_eq_some_iff t.sorted).symm

/-- The rows of a table are what is found in it. -/
theorem mem_rows {t : Table α} {a : α} : a ∈ t.rows ↔ ∃ id, t.get? id = some a := by
  simp [rows, ← mem_entries]

/-- A table contains an id when there is a row under it. -/
theorem contains_iff {t : Table α} {id : Int} : t.contains id = true ↔ ∃ a, t.get? id = some a := by
  simp [contains, Option.isSome_iff_exists]

/-- A table does not contain an id when there is no row under it. -/
theorem not_contains_iff {t : Table α} {id : Int} : ¬t.contains id = true ↔ t.get? id = none := by
  simp [contains]

/-- A table contains the id of a row that is found. -/
theorem contains_of_get? {t : Table α} {id : Int} {a : α} (h : t.get? id = some a) : t.contains id = true :=
  contains_iff.2 ⟨a, h⟩

/-- The ids of a table are those that it contains. -/
theorem mem_ids {t : Table α} {id : Int} : id ∈ t.ids ↔ t.contains id = true := by
  simp [ids, contains_iff, ← mem_entries]

/-- No id is listed twice. -/
theorem ids_nodup (t : Table α) : t.ids.Nodup :=
  List.Pairwise.map _ (fun _ _ h => Int.ne_of_lt h) t.sorted

@[simp]
theorem contains_empty (id : Int) : (empty : Table α).contains id = false := rfl

/-- A table contains the id that a row was put under, and the others as before. -/
@[simp]
theorem contains_insert (t : Table α) (id j : Int) (a : α) :
    (t.insert id a).contains j = (decide (j = id) || t.contains j) := by
  by_cases h : j = id <;> simp [contains, h]

/-- A set contains the id that was added, and the others as before. -/
@[simp]
theorem contains_add (s : IdSet) (id j : Int) : (IdSet.add s id).contains j = (decide (j = id) || s.contains j) :=
  contains_insert s id j ()

/-- A row that is kept unless one is there. -/
theorem get?_insertNew (t : Table α) (id j : Int) (a : α) :
    (t.insertNew id a).get? j = if j = id ∧ t.contains id = false then some a else t.get? j := by
  unfold insertNew
  by_cases h : t.contains id = true
  · simp [h]
  · by_cases hj : j = id <;> simp [h, hj]

/-- What is under an id after a row is kept there unless there is one. -/
theorem get?_insertNew_getD (t : Table α) (id j : Int) (a : α) :
    (t.insertNew id a).get? j = if j = id then some ((t.get? id).getD a) else t.get? j := by
  by_cases hj : j = id
  · subst hj
    cases h : t.get? j with
    | none => simp [get?_insertNew, contains, h]
    | some b => simp [get?_insertNew, contains, h]
  · simp [get?_insertNew, hj]

/-- A table contains the id that a row was put under if there was none, and the others as before. -/
@[simp]
theorem contains_insertNew (t : Table α) (id j : Int) (a : α) :
    (t.insertNew id a).contains j = (decide (j = id) || t.contains j) := by
  unfold insertNew
  by_cases h : t.contains id = true
  · by_cases hj : j = id
    · simp [h, hj]
    · simp [h, hj]
  · simp [h]

/-- Of two rows put under one id the later stays. -/
theorem insert_insert (t : Table α) (id : Int) (a b : α) : (t.insert id a).insert id b = t.insert id b := by
  ext j
  simp only [get?_insert]
  split <;> rfl

/-- Of two rows kept under one id unless one is there the earlier stays. -/
theorem insertNew_insertNew (t : Table α) (id : Int) (a b : α) :
    (t.insertNew id a).insertNew id b = t.insertNew id a :=
  if_pos (by simp)

/-- What a search among the rows finds. -/
theorem get?_of_find?_rows {t : Table α} {p : α → Bool} {a : α} (h : t.rows.find? p = some a) :
    (∃ id, t.get? id = some a) ∧ p a = true :=
  ⟨mem_rows.1 (List.mem_of_find?_eq_some h), List.find?_some h⟩

/-- A search among the rows finds the one row that is as it is looked for. -/
theorem find?_rows_eq {t : Table α} {p : α → Bool} {id : Int} {a : α} (h : t.get? id = some a) (hp : p a = true)
    (hone : ∀ j b, t.get? j = some b → p b = true → j = id) : t.rows.find? p = some a := by
  cases hfind : t.rows.find? p with
  | none => exact absurd hp (List.find?_eq_none.1 hfind a (mem_rows.2 ⟨id, h⟩))
  | some b =>
    obtain ⟨⟨j, hb⟩, hpb⟩ := get?_of_find?_rows hfind
    obtain rfl := hone j b hb hpb
    exact hb.symm.trans h

/-- Whether every row has a property. -/
def All (t : Table α) (P : α → Prop) : Prop :=
  ∀ id a, t.get? id = some a → P a

/-- A property of all rows is one of all rows with one more that has it. -/
theorem All.insert {t : Table α} {P : α → Prop} {id : Int} {a : α} (h : t.All P) (ha : P a) : (t.insert id a).All P := by
  intro j b hb
  rw [get?_insert] at hb
  split at hb
  · cases hb
    exact ha
  · exact h j b hb

/-! ## Counting and listing -/

/-- Rows with a property are those of the entries with it. -/
theorem filter_rows (t : Table α) (p : α → Bool) :
    t.rows.filter p = (t.entries.filter fun e => p e.2).map (·.2) := by
  simp [rows, List.filter_map, Function.comp_def]

/-- The ids of the entries with a property. -/
theorem mem_filter_ids {t : Table α} {p : Int × α → Bool} {id : Int} :
    id ∈ (t.entries.filter p).map (·.1) ↔ ∃ a, t.get? id = some a ∧ p (id, a) = true := by
  simp [← mem_entries]

/-- No id is listed twice among those of the entries with a property. -/
theorem filter_ids_nodup (t : Table α) (p : Int × α → Bool) : ((t.entries.filter p).map (·.1)).Nodup :=
  List.Pairwise.map _ (fun _ _ h => Int.ne_of_lt h) (t.sorted.filter _)

/-- A table has at most as many entries with one property as another has with another, and some more, when every such entry
but those more stands for one of the other table under the same id. -/
theorem length_filter_entries_le {β : Type} {t : Table α} {u : Table β} {p : Int × α → Bool} {q : Int × β → Bool}
    (more : List Int)
    (h : ∀ id a, t.get? id = some a → p (id, a) = true → id ∈ more ∨ ∃ b, u.get? id = some b ∧ q (id, b) = true) :
    (t.entries.filter p).length ≤ (u.entries.filter q).length + more.length := by
  have hsub : (t.entries.filter p).map (·.1) ⊆ (u.entries.filter q).map (·.1) ++ more := by
    intro id hid
    obtain ⟨a, ha, hp⟩ := mem_filter_ids.1 hid
    rcases h id a ha hp with hm | hb
    · exact List.mem_append_right _ hm
    · exact List.mem_append_left _ (mem_filter_ids.2 hb)
  have hlen := (filter_ids_nodup t p).length_le_of_subset hsub
  simpa using hlen

/-- The entries with a property stay within a bound when there is at most one more, and that one only if there was room. -/
theorem length_filter_entries_within {t u : Table α} {p : Int × α → Bool} {bound : Int} (k : Int)
    (h : ∀ id a, t.get? id = some a → p (id, a) = true →
      (id = k ∧ ((u.entries.filter p).length : Int) < bound) ∨ ∃ b, u.get? id = some b ∧ p (id, b) = true)
    (hu : ((u.entries.filter p).length : Int) ≤ bound) : ((t.entries.filter p).length : Int) ≤ bound := by
  by_cases hroom : ((u.entries.filter p).length : Int) < bound
  · have hle := length_filter_entries_le [k] fun id a ha hp =>
      (h id a ha hp).imp_left fun hid => List.mem_singleton.2 hid.1
    simp only [List.length_singleton] at hle
    omega
  · have hle := length_filter_entries_le [] fun id a ha hp =>
      .inr ((h id a ha hp).resolve_left fun hid => hroom hid.2)
    simp only [List.length_nil] at hle
    omega

/-- Rows are counted as their entries are. -/
theorem length_filter_rows (t : Table α) (p : α → Bool) :
    (t.rows.filter p).length = (t.entries.filter fun e => p e.2).length := by
  rw [filter_rows, List.length_map]

/-- A table has at most as many rows with one property as another has with another, and some more, when every such row
but those more stands for one of the other table under the same id. -/
theorem length_filter_rows_le {β : Type} {t : Table α} {u : Table β} {p : α → Bool} {q : β → Bool} (more : List Int)
    (h : ∀ id a, t.get? id = some a → p a = true → id ∈ more ∨ ∃ b, u.get? id = some b ∧ q b = true) :
    (t.rows.filter p).length ≤ (u.rows.filter q).length + more.length := by
  rw [length_filter_rows, length_filter_rows]
  exact length_filter_entries_le more h

/-- The rows with a property stay within a bound when there is at most one more, and that one only if there was room. -/
theorem length_filter_rows_within {t u : Table α} {p : α → Bool} {bound : Int} (k : Int)
    (h : ∀ id a, t.get? id = some a → p a = true →
      (id = k ∧ ((u.rows.filter p).length : Int) < bound) ∨ ∃ b, u.get? id = some b ∧ p b = true)
    (hu : ((u.rows.filter p).length : Int) ≤ bound) : ((t.rows.filter p).length : Int) ≤ bound := by
  rw [length_filter_rows] at h hu ⊢
  exact length_filter_entries_within k h hu

/-- Rows that are counted under some ids only are no more than all of them. -/
theorem length_filter_counted_le (t : Table α) (counted : Int → Bool) (p : α → Bool) :
    (t.entries.filter fun e => counted e.1 && p e.2).length ≤ (t.rows.filter p).length := by
  rw [length_filter_rows, ← List.filter_filter]
  exact List.length_filter_le _ _

/-- Rows that are counted under some ids only are all of them when no row is under another id. -/
theorem length_filter_counted {t : Table α} {counted : Int → Bool} {p : α → Bool}
    (h : ∀ id a, t.get? id = some a → p a = true → counted id = true) :
    (t.entries.filter fun e => counted e.1 && p e.2).length = (t.rows.filter p).length := by
  rw [length_filter_rows]
  refine congrArg _ (List.filter_congr fun e he => ?_)
  cases hp : p e.2 with
  | false => rw [Bool.and_false]
  | true => rw [h e.1 e.2 (mem_entries.1 he) hp, Bool.and_true]

/-- With no row of a kind there is none to count. -/
theorem filter_rows_eq_nil {t : Table α} {p : α → Bool} (h : ∀ id a, t.get? id = some a → ¬p a = true) :
    t.rows.filter p = [] := by
  refine List.filter_eq_nil_iff.2 fun a ha => ?_
  obtain ⟨id, hid⟩ := mem_rows.1 ha
  exact h id a hid

/-- Looking up among entries with a property finds what is found among all, if it has the property. -/
theorem lookup_filter {id : Int} {es : List (Int × α)} (p : α → Bool) (h : es.Pairwise (·.1 < ·.1)) :
    lookup id (es.filter fun e => p e.2) = (lookup id es).filter p := by
  refine Option.ext fun a => ?_
  rw [lookup_eq_some_iff (h.filter _), Option.filter_eq_some_iff, lookup_eq_some_iff h]
  simp

/-- Two tables list the same rows with a property when they hold the same. -/
theorem filter_rows_congr {t u : Table α} {p : α → Bool}
    (h : ∀ id a, p a = true → (t.get? id = some a ↔ u.get? id = some a)) : t.rows.filter p = u.rows.filter p := by
  rw [filter_rows, filter_rows]
  refine congrArg _ (entries_eq (t.sorted.filter _) (u.sorted.filter _) fun id => ?_)
  rw [lookup_filter p t.sorted, lookup_filter p u.sorted]
  refine Option.ext fun a => ?_
  rw [Option.filter_eq_some_iff, Option.filter_eq_some_iff]
  exact and_congr_left fun hp => h id a hp

/-- A row under an id beyond all others comes last. -/
theorem place_last {id : Int} {a : α} {es : List (Int × α)} (h : ∀ e ∈ es, e.1 < id) :
    place id a es = es ++ [(id, a)] := by
  induction es with
  | nil => rfl
  | cons x rest ih =>
    obtain ⟨k, b⟩ := x
    have hk : k < id := h (k, b) List.mem_cons_self
    rw [place, if_neg (by omega), if_neg (by omega), ih fun e he => h e (List.mem_cons_of_mem _ he)]
    rfl

/-- A row under an id beyond all others comes last. -/
theorem rows_insert_last {t : Table α} {id : Int} (a : α) (h : ∀ j b, t.get? j = some b → j < id) :
    (t.insert id a).rows = t.rows ++ [a] := by
  have hp : place id a t.entries = t.entries ++ [(id, a)] := place_last fun e he => h e.1 e.2 (mem_entries.1 he)
  simp [rows, insert, hp]

/-- A row under a new id is added to the others. -/
theorem place_perm {id : Int} {a : α} {es : List (Int × α)} (h : lookup id es = none) :
    (place id a es).Perm ((id, a) :: es) := by
  induction es with
  | nil => exact .refl _
  | cons x rest ih =>
    obtain ⟨k, b⟩ := x
    by_cases hk : k = id
    · simp [lookup, hk] at h
    · simp only [lookup, hk, if_false] at h
      simp only [place]
      split
      · exact .refl _
      · rw [if_neg (Ne.symm hk)]
        exact ((ih h).cons (k, b)).trans (.swap _ _ _)

/-- A row under an id of its own comes in beside the others. -/
theorem rows_insert_perm {t : Table α} {id : Int} (a : α) (h : t.get? id = none) :
    (t.insert id a).rows.Perm (a :: t.rows) := by
  have hperm : (place id a t.entries).Perm ((id, a) :: t.entries) := place_perm h
  exact hperm.map Prod.snd

/-- A row under an id that was there takes the place of the one before. -/
theorem place_of_lookup {id : Int} {a b : α} {es : List (Int × α)} (hs : es.Pairwise (·.1 < ·.1))
    (h : lookup id es = some b) : place id a es = es.map fun e => if e.1 = id then (id, a) else e := by
  induction es with
  | nil => cases h
  | cons x rest ih =>
    obtain ⟨k, c⟩ := x
    obtain ⟨hx, hr⟩ := List.pairwise_cons.1 hs
    by_cases hk : k = id
    · subst hk
      have hrest : rest.map (fun e => if e.1 = k then (k, a) else e) = rest := by
        refine (List.map_congr_left fun e he => ?_).trans (List.map_id _)
        exact if_neg (Int.ne_of_gt (hx e he))
      simp [place, hrest]
    · simp only [lookup, hk, if_false] at h
      have hlt : k < id := hx (id, b) ((lookup_eq_some_iff hr).1 h)
      simp only [place, List.map_cons, if_neg hk, ih hr h]
      rw [if_neg (by omega), if_neg (Ne.symm hk)]

/-- A row put under an id that has one takes its place. -/
theorem rows_insert_of_get? {t : Table α} {id : Int} {a b : α} (h : t.get? id = some b) :
    (t.insert id a).rows = t.entries.map fun e => if e.1 = id then a else e.2 := by
  have hplace : (t.insert id a).entries = t.entries.map fun e => if e.1 = id then (id, a) else e :=
    place_of_lookup t.sorted h
  unfold rows
  rw [hplace, List.map_map]
  refine List.map_congr_left fun e _ => ?_
  simp only [Function.comp_apply]
  split <;> rfl

/-! ## Publishing -/

/-- Rows put under ids one after the other. -/
theorem get?_foldl_insert (ids : List Int) (row : Int → Option α) (t : Table α) (id : Int) :
    (ids.foldl (fun t j => match row j with
      | some r => t.insert j r
      | none => t) t).get? id = if id ∈ ids then (row id).or (t.get? id) else t.get? id := by
  induction ids generalizing t with
  | nil => simp
  | cons j rest ih =>
    rw [List.foldl_cons, ih]
    by_cases hj : id = j
    · subst hj
      cases hr : row id with
      | none => simp
      | some r => simp
    · cases hr : row j with
      | none => simp [hj]
      | some r => simp [hj]

end Table

namespace Ledger

/-- A published table has the rows of the ids written, and its own elsewhere. -/
theorem get?_publish {α : Type} (ids : IdSet) (source target : Table α) (id : Int) :
    (publish ids source target).get? id =
      if ids.contains id then (source.get? id).or (target.get? id) else target.get? id := by
  have h := Table.get?_foldl_insert ids.ids source.get? target id
  simp only [Table.mem_ids] at h
  exact h

/-- The versions of some copies move on by one each, and those of the others stay. -/
theorem get?_bump {copies : List Int} (h : copies.Nodup) (v : Table Nat) (id : Int) :
    (bump v copies).get? id = if id ∈ copies then some ((v.get? id).getD 0 + 1) else v.get? id := by
  induction copies generalizing v with
  | nil => simp [bump]
  | cons c rest ih =>
    obtain ⟨hc, hr⟩ := List.nodup_cons.1 h
    rw [bump, List.foldl_cons]
    refine (ih hr _).trans ?_
    by_cases hid : id = c
    · subst hid
      simp [hc]
    · simp [hid]

/-- A commit moves on the version of each locked copy by one, and no other. -/
theorem getD_bump (v : Table Nat) (locked : Table Nat) (id : Int) :
    ((bump v locked.ids).get? id).getD 0 = (v.get? id).getD 0 + if locked.contains id then 1 else 0 := by
  rw [get?_bump locked.ids_nodup]
  simp only [Table.mem_ids]
  split <;> simp

end Ledger

end Circulation
