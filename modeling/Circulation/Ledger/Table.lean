import Circulation.Record

/-!
# Tables

A table keeps rows under ids, in the order of the ids. Main statements: `get?_insert` says what an insertion does to
every id, and `ext` says that a table is known by what it answers for every id.
-/

namespace Circulation

/-- Rows under ids, in ascending order of the ids. -/
structure Table (α : Type) where
  entries : List (Int × α)
  sorted : entries.Pairwise (·.1 < ·.1)

namespace Table

variable {α : Type}

instance [DecidableEq α] : DecidableEq (Table α) := fun t u =>
  if h : t.entries = u.entries then
    isTrue (by cases t; cases u; simp_all)
  else
    isFalse (by rintro rfl; exact h rfl)

/-- The table without rows. -/
def empty : Table α := ⟨[], .nil⟩

instance : Inhabited (Table α) := ⟨empty⟩

/-- The row under an id, in a list of entries. -/
def lookup (id : Int) : List (Int × α) → Option α
  | [] => none
  | (k, a) :: rest => if k = id then some a else lookup id rest

/-- The row under an id. -/
def get? (t : Table α) (id : Int) : Option α :=
  lookup id t.entries

/-- Whether there is a row under an id. -/
def contains (t : Table α) (id : Int) : Bool :=
  (t.get? id).isSome

/-- The ids of a table, ascending. -/
def ids (t : Table α) : List Int :=
  t.entries.map (·.1)

/-- The rows of a table, in the order of their ids. -/
def rows (t : Table α) : List α :=
  t.entries.map (·.2)

/-- Puts a row into its place in a list of entries. -/
def place (id : Int) (a : α) : List (Int × α) → List (Int × α)
  | [] => [(id, a)]
  | (k, b) :: rest =>
    if id < k then (id, a) :: (k, b) :: rest
    else if id = k then (id, a) :: rest
    else (k, b) :: place id a rest

/-- What is in a list where a row was put is that row, or was there before. -/
theorem mem_place {id : Int} {a : α} {es : List (Int × α)} {e : Int × α} (h : e ∈ place id a es) :
    e = (id, a) ∨ e ∈ es := by
  induction es with
  | nil => simpa [place] using h
  | cons x rest ih =>
    obtain ⟨k, b⟩ := x
    simp only [place] at h
    split at h
    · simpa using h
    · split at h
      · rcases List.mem_cons.1 h with h | h
        · exact .inl h
        · exact .inr (List.mem_cons_of_mem _ h)
      · rcases List.mem_cons.1 h with h | h
        · exact .inr (h ▸ List.mem_cons_self)
        · exact (ih h).imp (fun h => h) (List.mem_cons_of_mem _)

/-- Putting a row in its place keeps the ids in order. -/
theorem sorted_place {id : Int} {a : α} {es : List (Int × α)} (h : es.Pairwise (·.1 < ·.1)) :
    (place id a es).Pairwise (·.1 < ·.1) := by
  induction es with
  | nil => simp [place]
  | cons x rest ih =>
    obtain ⟨k, b⟩ := x
    have hr := List.pairwise_cons.1 h
    simp only [place]
    split
    · rename_i hlt
      refine List.pairwise_cons.2 ⟨fun e he => ?_, h⟩
      rcases List.mem_cons.1 he with he | he
      · exact he ▸ hlt
      · have := hr.1 e he
        simp only at this ⊢
        omega
    · split
      · rename_i heq
        subst heq
        exact List.pairwise_cons.2 ⟨hr.1, hr.2⟩
      · refine List.pairwise_cons.2 ⟨fun e he => ?_, ih hr.2⟩
        rcases mem_place he with he | he
        · subst he
          simp only
          omega
        · exact hr.1 e he

/-- Keeps a row under an id, in place of any row that was there. -/
def insert (t : Table α) (id : Int) (a : α) : Table α :=
  ⟨place id a t.entries, sorted_place t.sorted⟩

/-- Keeps a row under an id unless one is there. -/
def insertNew (t : Table α) (id : Int) (a : α) : Table α :=
  if t.contains id then t else t.insert id a

@[simp]
theorem get?_empty (id : Int) : (empty : Table α).get? id = none := rfl

/-- After a row was put in its place it is found under its id, and every other row as before. -/
theorem lookup_place (id j : Int) (a : α) (es : List (Int × α)) :
    lookup j (place id a es) = if j = id then some a else lookup j es := by
  induction es with
  | nil => simp [place, lookup, eq_comm]
  | cons x rest ih =>
    obtain ⟨k, b⟩ := x
    simp only [place]
    split
    · by_cases hj : j = id
      · simp [lookup, hj]
      · simp [lookup, hj, Ne.symm hj]
    · split
      · rename_i heq
        subst heq
        by_cases hj : j = id
        · simp [lookup, hj]
        · simp [lookup, hj, Ne.symm hj]
      · rename_i hlt hne
        by_cases hj : j = id
        · subst hj
          simp [lookup, ih, Ne.symm hne]
        · simp [lookup, ih, hj]

/-- An insertion answers the new row under its id and changes no other answer. -/
@[simp]
theorem get?_insert (t : Table α) (id j : Int) (a : α) :
    (t.insert id a).get? j = if j = id then some a else t.get? j :=
  lookup_place id j a t.entries

/-- Nothing is found under an id that no entry has. -/
theorem lookup_eq_none {id : Int} {es : List (Int × α)} (h : ∀ e ∈ es, e.1 ≠ id) : lookup id es = none := by
  induction es with
  | nil => rfl
  | cons x rest ih =>
    obtain ⟨k, b⟩ := x
    have hk : k ≠ id := h (k, b) List.mem_cons_self
    simp [lookup, hk, ih fun e he => h e (List.mem_cons_of_mem _ he)]

/-- Entries in the order of their ids are told by what is found under each id. -/
theorem entries_eq {es fs : List (Int × α)} (he : es.Pairwise (·.1 < ·.1)) (hf : fs.Pairwise (·.1 < ·.1))
    (h : ∀ id, lookup id es = lookup id fs) : es = fs := by
  induction es generalizing fs with
  | nil =>
    cases fs with
    | nil => rfl
    | cons y fs => simpa [lookup] using h y.1
  | cons x es ih =>
    obtain ⟨k, a⟩ := x
    obtain ⟨hx, hes⟩ := List.pairwise_cons.1 he
    cases fs with
    | nil => simpa [lookup] using h k
    | cons y fs =>
      obtain ⟨j, b⟩ := y
      obtain ⟨hy, hfs⟩ := List.pairwise_cons.1 hf
      have hkj : k = j := by
        rcases Int.lt_trichotomy k j with hlt | heq | hgt
        · have := h k
          rw [show lookup k ((j, b) :: fs) = none from lookup_eq_none fun e hm => by
            rcases List.mem_cons.1 hm with rfl | hm
            · exact fun hc => by simp only at hc; omega
            · exact fun hc => by have := hy e hm; simp only at this; omega] at this
          simp [lookup] at this
        · exact heq
        · have := h j
          rw [show lookup j ((k, a) :: es) = none from lookup_eq_none fun e hm => by
            rcases List.mem_cons.1 hm with rfl | hm
            · exact fun hc => by simp only at hc; omega
            · exact fun hc => by have := hx e hm; simp only at this; omega] at this
          simp [lookup] at this
      subst hkj
      have hab : a = b := by simpa [lookup] using h k
      subst hab
      congr 1
      refine ih hes hfs fun id => ?_
      by_cases hid : k = id
      · subst hid
        rw [lookup_eq_none fun e hm => ?_, lookup_eq_none fun e hm => ?_]
        · exact fun hc => by have := hy e hm; simp only at this; omega
        · exact fun hc => by have := hx e hm; simp only at this; omega
      · simpa [lookup, hid] using h id

/-- A table is known by what it answers for every id. -/
@[ext]
theorem ext {t u : Table α} (h : ∀ id, t.get? id = u.get? id) : t = u := by
  obtain ⟨es, he⟩ := t
  obtain ⟨fs, hf⟩ := u
  have := entries_eq he hf h
  subst this
  rfl

end Table

/-- A set of ids. -/
abbrev IdSet := Table Unit

/-- The set with one more id. -/
def IdSet.add (s : IdSet) (id : Int) : IdSet :=
  s.insert id ()

end Circulation
