import Circulation.Proofs.Traffic

/-!
# What a procedure ensures

`Procedure.Ensures` says what holds at the end of a procedure, carried out by one transaction among others: at every
clock reading and every request the moment may be any later one, since others take ids and the clock moves in between.
A procedure that ends with a result owes one condition and one that is refused another; after an overflow the
transaction is gone. `ensures_bind` splits a procedure into its parts, and each building block has a lemma of its own.
-/

namespace Circulation

/-- The last id given out and the reading of the clock. -/
structure Moment where
  lastId : Int
  clock : Instant

/-- The moment of a state of traffic. -/
def Traffic.moment (s : Traffic) : Moment :=
  ⟨s.ledger.lastId, s.clock⟩

namespace Rules

/-- Whether a moment may come after another. -/
structure Later (rules : Rules) (m m' : Moment) : Prop where
  lastId : m.lastId ≤ m'.lastId
  admits : rules.admits m'.clock
  steady : rules.steady → m.clock ≤ m'.clock

variable {rules : Rules} {m m' m'' : Moment}

theorem Later.refl (h : rules.admits m.clock) : rules.Later m m :=
  ⟨Int.le_refl _, h, fun _ => Int.le_refl _⟩

theorem Later.trans (h : rules.Later m m') (h' : rules.Later m' m'') : rules.Later m m'' :=
  ⟨Int.le_trans h.lastId h'.lastId, h'.admits, fun hs => Int.le_trans (h.steady hs) (h'.steady hs)⟩

/-- Taking an id leads to a later moment. -/
theorem Later.take (h : rules.Later m m') {n : Int} (hn : m'.lastId ≤ n) : rules.Later m ⟨n, m'.clock⟩ :=
  ⟨Int.le_trans h.lastId hn, h.admits, h.steady⟩

end Rules

/-- What holds where a procedure stops: a refusal leaves a draft behind, and an overflow leaves none. -/
def Stop.Leaves (R : Draft → Moment → Prop) : Stop → Draft → Moment → Prop
  | .refused _, d, m => R d m
  | .overflowed _, _, _ => True

theorem Stop.Leaves.mono {R R' : Draft → Moment → Prop} {why : Stop} {d : Draft} {m : Moment} (h : why.Leaves R d m)
    (hR : R d m → R' d m) : why.Leaves R' d m := by
  cases why with
  | refused why => exact hR h
  | overflowed what => trivial

namespace Procedure

variable {α β : Type} {rules : Rules} {Q Q' : α → Draft → Moment → Prop} {R R' : Draft → Moment → Prop} {d : Draft}
  {m : Moment}

/-- Whether a procedure begun on a draft at a moment ends in `Q` with a result and in `R` with a refusal, whatever
happens meanwhile. -/
def Ensures (rules : Rules) (Q : α → Draft → Moment → Prop) (R : Draft → Moment → Prop) :
    Procedure α → Draft → Moment → Prop
  | .done a, d, m => Q a d m
  | .stop why, d, m => why.Leaves R d m
  | .clock next, d, m => ∀ m', rules.Later m m' → (next m'.clock).Ensures rules Q R d m'
  | .ask q next, d, m => ∀ m', rules.Later m m' →
    match Work.answer q ⟨d, m'.lastId, 0⟩ with
    | (.ok a, w) => (next a).Ensures rules Q R w.draft ⟨w.lastId, m'.clock⟩
    | (.error why, w) => why.Leaves R w.draft ⟨w.lastId, m'.clock⟩

/-- A procedure ensures what follows from what it ensures. -/
theorem Ensures.mono {p : Procedure α} (h : p.Ensures rules Q R d m) (hQ : ∀ a d' m', Q a d' m' → Q' a d' m')
    (hR : ∀ d' m', R d' m' → R' d' m') : p.Ensures rules Q' R' d m := by
  induction p generalizing d m with
  | done a => exact hQ _ _ _ h
  | stop why => exact Stop.Leaves.mono h (hR _ _)
  | clock next ih => exact fun m' hm => ih _ (h m' hm)
  | ask q next ih =>
    intro m' hm
    have hans := h m' hm
    split at hans
    · exact ih _ hans
    · exact hans.mono (hR _ _)

/-- What a procedure followed by another ensures. -/
theorem ensures_bind (p : Procedure α) (f : α → Procedure β) (Q : β → Draft → Moment → Prop) :
    (p.bind f).Ensures rules Q R d m ↔ p.Ensures rules (fun a d' m' => (f a).Ensures rules Q R d' m') R d m := by
  induction p generalizing d m with
  | done a => exact Iff.rfl
  | stop why => exact Iff.rfl
  | clock next ih => exact forall_congr' fun m' => imp_congr_right fun _ => ih _
  | ask q next ih =>
    refine forall_congr' fun m' => imp_congr_right fun _ => ?_
    split
    · exact ih _
    · exact Iff.rfl

/-- A reading of the clock ensures what holds at every later moment. -/
theorem ensures_now {Q : Instant → Draft → Moment → Prop} :
    now.Ensures rules Q R d m ↔ ∀ m', rules.Later m m' → Q m'.clock d m' := Iff.rfl

/-- Arithmetic ensures what holds of its result; an overflow leaves nothing to ensure. -/
theorem ensures_checked {e : Except Overflow α} :
    (checked e).Ensures rules Q R d m ↔ ∀ a, e = .ok a → Q a d m := by
  cases e with
  | ok a => exact ⟨fun h b hb => by cases hb; exact h, fun h => h a rfl⟩
  | error what => exact ⟨fun _ b hb => absurd hb (by simp), fun _ => trivial⟩

/-- What is there is ensured. -/
theorem ensures_require_some {a : α} {why : Refusal} :
    (require (some a) why).Ensures rules Q R d m ↔ Q a d m := Iff.rfl

/-- What is not there is refused. -/
theorem ensures_require_none {why : Refusal} :
    (require (none : Option α) why).Ensures rules Q R d m ↔ R d m := Iff.rfl

/-- What is required is ensured when it is there, and refused when it is not. -/
theorem ensures_require {a : Option α} {why : Refusal} :
    (require a why).Ensures rules Q R d m ↔ (∀ b, a = some b → Q b d m) ∧ (a = none → R d m) := by
  cases a with
  | some a => simp [ensures_require_some]
  | none => simp [ensures_require_none]

/-- What is so is ensured. -/
theorem ensures_ensure_true {why : Refusal} {Q : Unit → Draft → Moment → Prop} :
    (ensure true why).Ensures rules Q R d m ↔ Q () d m := Iff.rfl

/-- What is not so is refused. -/
theorem ensures_ensure_false {why : Refusal} {Q : Unit → Draft → Moment → Prop} :
    (ensure false why).Ensures rules Q R d m ↔ R d m := Iff.rfl

/-- What is asked to be so is ensured when it is, and refused when it is not. -/
theorem ensures_ensure {condition : Bool} {why : Refusal} {Q : Unit → Draft → Moment → Prop} :
    (ensure condition why).Ensures rules Q R d m ↔ (condition = true → Q () d m) ∧ (condition = false → R d m) := by
  cases condition with
  | true => simp [ensures_ensure_true]
  | false => simp [ensures_ensure_false]

/-- What a request ensures that is answered with `a` and leaves `d'` behind. -/
theorem ensures_answer {q : Request} {Q : q.Answer → Draft → Moment → Prop} (a : q.Answer) (d' : Draft)
    (hq : ∀ n, Work.answer q ⟨d, n, 0⟩ = (.ok a, ⟨d', n, 0⟩)) (h : ∀ m', rules.Later m m' → Q a d' m') :
    (request q).Ensures rules Q R d m := by
  intro m' hm
  rw [hq]
  exact h m' hm

/-- What a request ensures that puts a row under a new id. -/
theorem ensures_insert {q : Request} {Q : q.Answer → Draft → Moment → Prop} (row : Int → q.Answer)
    (put : Draft → q.Answer → Int → Draft)
    (hq : ∀ n, Work.answer q ⟨d, n, 0⟩ = (.ok (row (n + 1)), ⟨put d (row (n + 1)) (n + 1), n + 1, 0⟩))
    (h : ∀ m', rules.Later m m' → m.lastId < m'.lastId → Q (row m'.lastId) (put d (row m'.lastId) m'.lastId) m') :
    (request q).Ensures rules Q R d m := by
  intro m' hm
  rw [hq]
  have hlt : m.lastId < m'.lastId + 1 := Int.lt_add_one_of_le hm.lastId
  exact h ⟨m'.lastId + 1, m'.clock⟩ (hm.take (Int.le_of_lt (Int.lt_succ _))) hlt

end Procedure

end Circulation
