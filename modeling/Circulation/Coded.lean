/-!
# Coded values

A status is one of a few values. Each has a number, under which tables store it, and a word, under which documents name
it. Main statements: reading the number or the word of a value finds the value (`ofNumber?_number`, `ofWord?_word`).
-/

namespace Circulation

/-- A type of a few values with a name of its own, and for each value a number and a word that no other value has. -/
class Coded (α : Type) where
  typeName : String
  all : List α
  number : α → Int
  word : α → String
  mem_all : ∀ a, a ∈ all
  number_inj : ∀ a b, number a = number b → a = b
  word_inj : ∀ a b, word a = word b → a = b

namespace Coded

/-- A search for what only one member of a list has finds that member. -/
theorem find?_eq_some {α : Type} {l : List α} {p : α → Bool} {a : α} (ha : a ∈ l) (hp : p a = true)
    (h : ∀ b, p b = true → b = a) : l.find? p = some a := by
  cases hf : l.find? p with
  | none => exact absurd hp (by simpa using List.find?_eq_none.1 hf a ha)
  | some b => rw [h b (List.find?_some hf)]

variable {α : Type} [Coded α]

/-- The value with a number. -/
def ofNumber? (n : Int) : Option α :=
  (all : List α).find? fun a => number a = n

/-- The value named by a word. -/
def ofWord? (w : String) : Option α :=
  (all : List α).find? fun a => word a = w

/-- A value is read back from its number. -/
@[simp]
theorem ofNumber?_number (a : α) : ofNumber? (number a) = some a :=
  find?_eq_some (mem_all a) (by simp) fun b hb => number_inj b a (by simpa using hb)

/-- A value is read back from its word. -/
@[simp]
theorem ofWord?_word (a : α) : ofWord? (word a) = some a :=
  find?_eq_some (mem_all a) (by simp) fun b hb => word_inj b a (by simpa using hb)

end Coded

end Circulation
