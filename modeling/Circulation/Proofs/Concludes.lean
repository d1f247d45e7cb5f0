import Circulation.Proofs.Conduct

/-!
# What a procedure comes to

`Procedure.Ensures` says what holds where a procedure ends; `Procedure.Concludes` says, of the end itself, which result it is
or which stop, and on what work. The clock reads as a timeline says, and others may take ids before every request. On the way
every request that is answered is done: none of the writes finds its condition failed. `concludes_bind` splits a procedure into
its parts, each building block has a lemma of its own, and what a procedure concludes is true of its run on a draft
(`Concludes.run`).
-/

namespace Circulation

namespace Procedure

variable {α β : Type} {timeline timeline' : Nat → Instant} {Q Q' : α → Work → Prop} {R R' : Stop → Work → Prop} {d : Draft}
  {n : Int} {i : Nat} {w : Work}

/-- Whether a procedure begun on some work ends in `Q` with a result and in `R` with a stop, and every request of it that is
answered is done, whatever ids others take meanwhile. -/
def Concludes (timeline : Nat → Instant) (Q : α → Work → Prop) (R : Stop → Work → Prop) : Procedure α → Work → Prop
  | .done a, w => Q a w
  | .stop why, w => R why w
  | .clock next, w => (next (timeline w.readings)).Concludes timeline Q R { w with readings := w.readings + 1 }
  | .ask q next, w => ∀ m, w.lastId ≤ m →
    match Work.answer q { w with lastId := m } with
    | (.ok a, w') => q.accepted a = true ∧ (next a).Concludes timeline Q R w'
    | (.error why, w') => R why w'

/-- A procedure concludes what follows from what it concludes. -/
theorem Concludes.mono {p : Procedure α} (h : p.Concludes timeline Q R w) (hQ : ∀ a w', Q a w' → Q' a w')
    (hR : ∀ why w', R why w' → R' why w') : p.Concludes timeline Q' R' w := by
  induction p generalizing w with
  | done a => exact hQ _ _ h
  | stop why => exact hR _ _ h
  | clock next ih => exact ih _ h
  | ask q next ih =>
    intro m hm
    have hans := h m hm
    split at hans
    · exact ⟨hans.1, ih _ hans.2⟩
    · exact hR _ _ hans

/-- What a procedure followed by another concludes. -/
theorem concludes_bind (p : Procedure α) (f : α → Procedure β) (Q : β → Work → Prop) :
    (p.bind f).Concludes timeline Q R w ↔
      p.Concludes timeline (fun a w' => (f a).Concludes timeline Q R w') R w := by
  induction p generalizing w with
  | done a => exact Iff.rfl
  | stop why => exact Iff.rfl
  | clock next ih => exact ih _
  | ask q next ih =>
    refine forall_congr' fun m => imp_congr_right fun _ => ?_
    split
    · exact and_congr_right fun _ => ih _
    · exact Iff.rfl

/-- A reading of the clock concludes with what the timeline says next. -/
theorem concludes_now {Q : Instant → Work → Prop} :
    now.Concludes timeline Q R ⟨d, n, i⟩ ↔ Q (timeline i) ⟨d, n, i + 1⟩ := Iff.rfl

/-- Arithmetic concludes with its result, or stops with its overflow. -/
theorem concludes_checked {e : Except Overflow α} : (checked e).Concludes timeline Q R w ↔
    (∀ a, e = .ok a → Q a w) ∧ ∀ what, e = .error what → R (.overflowed what) w := by
  cases e with
  | ok a => simp [checked, Concludes]
  | error what => simp [checked, Concludes]

/-- What is required concludes when it is there, and is refused when it is not. -/
theorem concludes_require {o : Option α} {why : Refusal} : (require o why).Concludes timeline Q R w ↔
    (∀ a, o = some a → Q a w) ∧ (o = none → R (.refused why) w) := by
  cases o with
  | some a => simp [require, Concludes]
  | none => simp [require, refuse, Concludes]

/-- What is ensured concludes when it is so, and is refused when it is not. -/
theorem concludes_ensure {condition : Bool} {why : Refusal} {Q : Unit → Work → Prop} :
    (ensure condition why).Concludes timeline Q R w ↔
      (condition = true → Q () w) ∧ (condition = false → R (.refused why) w) := by
  cases condition with
  | true => simp [ensure, Concludes]
  | false => simp [ensure, refuse, Concludes]

/-- What a request concludes that is done, answered with `a`, and leaves `d'` behind. -/
theorem concludes_answer {q : Request} {Q : q.Answer → Work → Prop} (a : q.Answer) (d' : Draft)
    (hq : ∀ m, Work.answer q ⟨d, m, i⟩ = (.ok a, ⟨d', m, i⟩)) (hdone : q.accepted a = true)
    (h : ∀ m, n ≤ m → Q a ⟨d', m, i⟩) : (request q).Concludes timeline Q R ⟨d, n, i⟩ := by
  intro m hm
  rw [hq]
  exact ⟨hdone, h m hm⟩

/-- What a request concludes that puts a row under a new id. -/
theorem concludes_insert {q : Request} {Q : q.Answer → Work → Prop} (row : Int → q.Answer)
    (put : Draft → q.Answer → Int → Draft)
    (hq : ∀ m, Work.answer q ⟨d, m, i⟩ = (.ok (row (m + 1)), ⟨put d (row (m + 1)) (m + 1), m + 1, i⟩))
    (hdone : ∀ a, q.accepted a = true) (h : ∀ k, n < k → Q (row k) ⟨put d (row k) k, k, i⟩) :
    (request q).Concludes timeline Q R ⟨d, n, i⟩ := by
  intro m hm
  rw [hq]
  exact ⟨hdone _, h (m + 1) (Int.lt_add_one_of_le hm)⟩

/-! ## Runs -/

/-- What a procedure comes to on some work, by the readings of a timeline. -/
def result (timeline : Nat → Instant) (p : Procedure α) (w : Work) : Except Stop α :=
  (p.run (Work.store timeline) w).1

/-- What a procedure concludes is true of its run. -/
theorem Concludes.run {p : Procedure α} (h : p.Concludes timeline Q R w) :
    match p.run (Work.store timeline) w with
    | (.ok a, w') => Q a w'
    | (.error why, w') => R why w' := by
  induction p generalizing w with
  | done a => exact h
  | stop why => exact h
  | clock next ih => exact ih _ h
  | ask q next ih =>
    have hans := h w.lastId (Int.le_refl _)
    simp only [Procedure.run, Work.store]
    rcases hw : Work.answer q w with ⟨why | a, w'⟩
    · simp only [hw] at hans
      exact hans
    · simp only [hw] at hans
      exact ih a hans.2

/-- What a procedure concludes with a result is true of its run with that result. -/
theorem Concludes.of_run {p : Procedure α} (h : p.Concludes timeline Q R w) {a : α} {w' : Work}
    (hr : p.run (Work.store timeline) w = (.ok a, w')) : Q a w' := by
  have hrun := h.run
  rw [hr] at hrun
  exact hrun

/-- A procedure that concludes no stop runs to a result. -/
theorem Concludes.exists_run {p : Procedure α} (h : p.Concludes timeline Q (fun _ _ => False) w) :
    ∃ a w', p.run (Work.store timeline) w = (.ok a, w') ∧ Q a w' := by
  have hrun := h.run
  rcases hp : p.run (Work.store timeline) w with ⟨why | a, w'⟩
  · rw [hp] at hrun
    exact hrun.elim
  · rw [hp] at hrun
    exact ⟨a, w', rfl, hrun⟩

/-- A result is one that the procedure was to conclude with. -/
theorem Concludes.result_ok {p : Procedure α} (h : p.Concludes timeline Q R w) {a : α} (hr : p.result timeline w = .ok a) :
    ∃ w', Q a w' := by
  have hrun := h.run
  unfold result at hr
  rcases hp : p.run (Work.store timeline) w with ⟨why | b, w'⟩
  · rw [hp] at hr
    cases hr
  · rw [hp] at hr hrun
    cases hr
    exact ⟨w', hrun⟩

/-- A stop is one that the procedure was to stop with. -/
theorem Concludes.result_error {p : Procedure α} (h : p.Concludes timeline Q R w) {why : Stop}
    (hr : p.result timeline w = .error why) : ∃ w', R why w' := by
  have hrun := h.run
  unfold result at hr
  rcases hp : p.run (Work.store timeline) w with ⟨why | b, w'⟩
  · rw [hp] at hr hrun
    cases hr
    exact ⟨w', hrun⟩
  · rw [hp] at hr
    cases hr

/-- A request leaves the clock alone. -/
theorem readings_of_answer {q : Request} {w w' : Work} {a : Except Stop q.Answer} (h : Work.answer q w = (a, w')) :
    w'.readings = w.readings := by
  obtain ⟨d, m, i⟩ := w
  rw [Traffic.answer_readings] at h
  cases h
  rfl

/-- What a procedure concludes depends on the readings still to come. -/
theorem Concludes.congr {p : Procedure α} (h : p.Concludes timeline Q R w)
    (heq : ∀ j, w.readings ≤ j → timeline' j = timeline j) : p.Concludes timeline' Q R w := by
  induction p generalizing w with
  | done a => exact h
  | stop why => exact h
  | clock next ih =>
    rw [Concludes, heq _ (Nat.le_refl _)]
    exact ih _ h fun j hj => heq j (Nat.le_of_succ_le hj)
  | ask q next ih =>
    intro m hm
    have hans := h m hm
    split at hans
    · rename_i a w' hw
      exact ⟨hans.1, ih a hans.2 fun j hj => heq j (readings_of_answer hw ▸ hj)⟩
    · exact hans

/-- What a procedure concludes, whatever it leaves behind, it concludes as well when it is kept waiting. -/
theorem Concludes.wait {Q : α → Prop} {R : Stop → Prop} {p : Procedure α} {m : Int}
    (h : p.Concludes timeline (fun a _ => Q a) (fun why _ => R why) ⟨d, n, i⟩) (hm : n ≤ m) :
    p.Concludes timeline (fun a _ => Q a) (fun why _ => R why) ⟨d, m, i⟩ := by
  induction p generalizing i with
  | done a => exact h
  | stop why => exact h
  | clock next ih => exact ih _ h
  | ask q next _ => exact fun m' hm' => h m' (Int.le_trans hm hm')

/-- No procedure takes an id back. -/
theorem Concludes.le {p : Procedure α} (h : p.Concludes timeline Q R w) :
    p.Concludes timeline (fun a w' => w.lastId ≤ w'.lastId ∧ Q a w') R w := by
  induction p generalizing w with
  | done a => exact ⟨Int.le_refl _, h⟩
  | stop why => exact h
  | clock next ih => exact ih _ h
  | ask q next ih =>
    intro m hm
    have hans := h m hm
    split at hans
    · rename_i a w' hw
      have hle : w.lastId ≤ w'.lastId := Int.le_trans hm (Draft.change_of_answered hw).le
      exact ⟨hans.1, (ih a hans.2).mono (fun _ _ hQ => ⟨Int.le_trans hle hQ.1, hQ.2⟩) fun _ _ hR => hR⟩
    · exact hans

/-- A draft stands to its base whatever a procedure does to it. -/
theorem Concludes.stands {p : Procedure α} {base : Ledger} (h : p.Concludes timeline Q R w)
    (hs : w.draft.Stands base w.lastId) :
    p.Concludes timeline (fun a w' => w'.draft.Stands base w'.lastId ∧ Q a w') R w := by
  induction p generalizing w with
  | done a => exact ⟨hs, h⟩
  | stop why => exact h
  | clock next ih => exact ih _ h hs
  | ask q next ih =>
    intro m hm
    have hans := h m hm
    split at hans
    · rename_i a w' hw
      exact ⟨hans.1, ih a hans.2 ((hs.mono hm).change (Draft.change_of_answered hw))⟩
    · exact hans

end Procedure

end Circulation
