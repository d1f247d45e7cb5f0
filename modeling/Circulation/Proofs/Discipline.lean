import Circulation.Proofs.Bookkeeping
import Circulation.Proofs.Ensures

/-!
# Disciplines

How an invariant is kept by transactions that know nothing of each other. A `Discipline` says what is good of a
committed ledger, what fits a transaction at rest, and how a ledger may have moved since a transaction began. It owes
three things: a transaction that begins fits, a procedure the rules allow leads from a fit to a fit, and a commit of
what fits leads from a good ledger to a good one. Then every reachable ledger is good and every transaction at rest
fits, whatever the order of their steps (`Discipline.holds`).
-/

namespace Circulation

/-- An invariant that traffic within some rules keeps, with what keeps it. -/
structure Discipline (rules : Rules) where
  /-- What is good of a committed ledger, at a reading of the clock and after some commits. -/
  Good : Ledger → Instant → List Transaction → Prop
  /-- What fits a transaction at rest: its base, its draft, the loans in hand and the moment. -/
  Fit : Ledger → Draft → List Loan → Moment → Prop
  /-- How a ledger may have moved by some commits. -/
  Moved : Ledger → Ledger → List Transaction → Prop
  good_start : ∀ t, rules.admits t → Good {} t []
  good_grown : ∀ {l l' t js}, l.Grown l' → Good l t js → Good l' t js
  good_later : ∀ {l t t' js}, (rules.steady → t ≤ t') → Good l t js → Good l t' js
  moved_grown : ∀ {l l'}, l.Grown l' → Moved l l' []
  moved_trans : ∀ {l l' l'' js js'}, Moved l l' js → Moved l' l'' js' → Moved l l'' (js ++ js')
  fit_begin : ∀ {l t js}, l.Sound → Good l t js → Fit l l.draft [] ⟨l.lastId, t⟩
  fit_later : ∀ {base d hand m m'}, rules.Later m m' → Fit base d hand m → Fit base d hand m'
  fit_call : ∀ {base d hand m p}, base.Sound → d.Stands base m.lastId → rules.admits m.clock → Fit base d hand m →
    rules.allows hand p → p.Ensures rules (fun loans d' m' => Fit base d' (loans ++ hand) m')
      (fun d' m' => ¬rules.strict → Fit base d' hand m') d m
  commit : ∀ {l l' t js} {x : Transaction}, x.began ≤ js.length → Committing l x (js.drop x.began) l' → Good l t js →
    Good x.base t (js.take x.began) → Moved x.base l (js.drop x.began) →
    Fit x.base x.draft x.inHand ⟨l.lastId, t⟩ → Good l' t (js ++ [x]) ∧ Moved l l' [x]

namespace Discipline

variable {rules : Rules} (D : Discipline rules)

/-- Whether a procedure leads a transaction to a fit. -/
def Serves (base : Ledger) (hand : List Loan) (p : Procedure (List Loan)) (d : Draft) (m : Moment) : Prop :=
  p.Ensures rules (fun loans d' m' => D.Fit base d' (loans ++ hand) m')
    (fun d' m' => ¬rules.strict → D.Fit base d' hand m') d m

/-- What a discipline says of an open transaction, at rest or in the middle of a procedure. -/
structure Open (s : Traffic) (x : Transaction) : Prop where
  base : D.Good x.base s.clock (s.journal.take x.began)
  moved : D.Moved x.base s.ledger (s.journal.drop x.began)
  rest : x.doing = none → (rules.strict → x.refused = false) → D.Fit x.base x.draft x.inHand s.moment
  busy : ∀ p, x.doing = some p →
    ∃ m, rules.Later m s.moment ∧ D.Serves x.base x.inHand p x.draft m

/-- What a discipline says of traffic. -/
structure Holds (s : Traffic) : Prop where
  admits : rules.admits s.clock
  good : D.Good s.ledger s.clock s.journal
  opened : ∀ k x, s.opened k = some x → D.Open s x

variable {D} {s s' : Traffic}

/-- An open transaction that does nothing stays as it is while the ledger grows and the clock moves. -/
theorem Open.later {x : Transaction} (h : D.Open s x) (hj : s'.journal = s.journal)
    (hg : s.ledger.Grown s'.ledger) (hl : rules.Later s.moment s'.moment) : D.Open s' x where
  base := hj ▸ D.good_later hl.steady h.base
  moved := by
    rw [hj]
    simpa using D.moved_trans h.moved (D.moved_grown hg)
  rest hd hr := D.fit_later hl (h.rest hd hr)
  busy p hp := by
    obtain ⟨m, hm, he⟩ := h.busy p hp
    exact ⟨m, hm.trans hl, he⟩

namespace Holds

theorem start (t : Instant) (h : rules.admits t) : D.Holds { clock := t } :=
  ⟨h, D.good_start t h, fun _ _ hx => by cases hx⟩

/-- The ledger grows or the clock moves. -/
theorem later (h : D.Holds s) (hj : s'.journal = s.journal) (ho : s'.opened = s.opened)
    (hg : s.ledger.Grown s'.ledger) (hl : rules.Later s.moment s'.moment) : D.Holds s' where
  admits := hl.admits
  good := hj ▸ D.good_grown hg (D.good_later hl.steady h.good)
  opened k x hx := (h.opened k x (ho ▸ hx)).later hj hg hl

/-- A discipline still holds when a transaction is dropped. -/
theorem drop (h : D.Holds s) (k : Nat) : D.Holds (s.drop k) where
  admits := h.admits
  good := h.good
  opened j x hx := by
    simp only [Traffic.drop_opened] at hx
    split at hx
    · cases hx
    · exact (h.opened j x hx).later rfl (.refl _) (.refl h.admits)

/-- A transaction is kept of which the discipline is true. -/
theorem keep (h : D.Holds s) (k : Nat) {x : Transaction} (hx : D.Open s x) : D.Holds (s.keep k x) where
  admits := h.admits
  good := h.good
  opened j y hy := by
    rw [Traffic.keep_opened] at hy
    split at hy
    · cases hy
      exact hx.later rfl (.refl _) (.refl h.admits)
    · exact (h.opened j y hy).later rfl (.refl _) (.refl h.admits)

/-- A discipline still holds when a transaction begins, which is fit to begin with. -/
theorem begin (h : D.Holds s) (hs : s.Sound) (k : Nat) :
    D.Holds (s.keep k { base := s.ledger, began := s.journal.length, draft := s.ledger.draft }) := by
  refine h.keep k ⟨?_, ?_, fun _ _ => D.fit_begin hs.ledger h.good, fun p hp => nomatch hp⟩
  · have hgood : D.Good s.ledger s.clock (s.journal.take s.journal.length) := by
      rw [List.take_length]
      exact h.good
    exact hgood
  · have hmoved : D.Moved s.ledger s.ledger (s.journal.drop s.journal.length) := by
      rw [List.drop_length]
      exact D.moved_grown (.refl _)
    exact hmoved

/-- A transaction at rest is put to a procedure that the rules allow. -/
theorem call (h : D.Holds s) (hs : s.Sound) {k : Nat} {x : Transaction} {p : Procedure (List Loan)}
    (hx : s.opened k = some x) (hd : x.doing = none) (hp : rules.allows x.inHand p)
    (hr : rules.strict → x.refused = false) : D.Holds (s.keep k { x with doing := some p }) := by
  have hv := h.opened k x hx
  have ho := hs.opened k x hx
  refine h.keep k ⟨hv.base, hv.moved, fun hd => (nomatch hd), fun q hq => ?_⟩
  cases hq
  exact ⟨s.moment, .refl h.admits, D.fit_call ho.base ho.stands h.admits (hv.rest hd hr) hp⟩

/-- One step of a procedure leads to what is left of it, or to its end. -/
theorem advance (h : D.Holds s) {k : Nat} {x : Transaction} (hx : s.opened k = some x) : D.Holds (s.advance k x) := by
  have hv := h.opened k x hx
  unfold Traffic.advance
  split
  · exact h
  · rename_i loans hp
    obtain ⟨m, hm, he⟩ := hv.busy _ hp
    exact h.keep k ⟨hv.base, hv.moved, fun _ _ => D.fit_later hm he, fun p hp => nomatch hp⟩
  · rename_i why hp
    obtain ⟨m, hm, he⟩ := hv.busy _ hp
    exact h.keep k ⟨hv.base, hv.moved, fun _ hr => D.fit_later hm (he fun hs => by simpa using hr hs),
      fun p hp => nomatch hp⟩
  · exact h.drop k
  · rename_i next hp
    obtain ⟨m, hm, he⟩ := hv.busy _ hp
    refine h.keep k ⟨hv.base, hv.moved, fun hd => (nomatch hd), fun p hp => ?_⟩
    cases hp
    exact ⟨s.moment, .refl h.admits, he s.moment hm⟩
  · rename_i q next hp
    obtain ⟨m, hm, he⟩ := hv.busy _ hp
    have he := he s.moment hm
    have hle := (Draft.change_of_answer q ⟨x.draft, s.ledger.lastId, 0⟩).le
    -- The others see nothing of the step but the ids it took.
    have hstep : ∀ w : Work, s.ledger.lastId ≤ w.lastId → ∀ p : Procedure (List Loan),
        D.Serves x.base x.inHand p w.draft ⟨w.lastId, s.clock⟩ →
        D.Holds ((s.taking w.lastId).keep k { x with draft := w.draft, doing := some p }) := by
      intro w hw p hp
      have hl : rules.Later s.moment (s.taking w.lastId).moment := ⟨hw, h.admits, fun _ => Int.le_refl _⟩
      have hv' : D.Open (s.taking w.lastId) x := hv.later rfl (Traffic.grown_taking hw) hl
      have hh : D.Holds (s.taking w.lastId) := h.later rfl rfl (Traffic.grown_taking hw) hl
      refine hh.keep k ⟨hv'.base, hv'.moved, fun hd => (nomatch hd), fun p' hp' => ?_⟩
      cases hp'
      exact ⟨⟨w.lastId, s.clock⟩, .refl h.admits, hp⟩
    split
    · rename_i a w hw
      simp only [Traffic.moment, hw] at he hle
      exact hstep w hle (next a) he
    · rename_i why w hw
      simp only [Traffic.moment, hw] at he hle
      exact hstep w hle (.stop why) he

/-- A transaction at rest that fits commits. -/
theorem commit (h : D.Holds s) (hs : s.Sound) {k : Nat} {x : Transaction} {l : Ledger} (hx : s.opened k = some x)
    (hd : x.doing = none) (hr : rules.strict → x.refused = false) (hc : s.ledger.commit x.draft = .ok l) :
    D.Holds { s.drop k with ledger := l, journal := s.journal ++ [x] } := by
  have hv := h.opened k x hx
  have hcom := hs.committing hx hc
  obtain ⟨hgood, hmoved⟩ := D.commit (hs.opened k x hx).began hcom h.good hv.base hv.moved (hv.rest hd hr)
  have hl : rules.Later s.moment ⟨l.lastId, s.clock⟩ :=
    ⟨Int.le_of_eq hcom.lastId.symm, h.admits, fun _ => Int.le_refl _⟩
  refine ⟨h.admits, hgood, fun j y hy => ?_⟩
  simp only [Traffic.drop_opened] at hy
  split at hy
  · cases hy
  · have hj := h.opened j y hy
    have hb := (hs.opened j y hy).began
    refine ⟨?_, ?_, fun hd hr => D.fit_later hl (hj.rest hd hr), fun p hp => ?_⟩
    · rw [show (s.journal ++ [x]).take y.began = s.journal.take y.began from List.take_append_of_le_length hb]
      exact hj.base
    · rw [show (s.journal ++ [x]).drop y.began = s.journal.drop y.began ++ [x] from
        List.drop_append_of_le_length hb]
      exact D.moved_trans hj.moved hmoved
    · obtain ⟨m, hm, he⟩ := hj.busy p hp
      exact ⟨m, hm.trans hl, he⟩

/-- A discipline holds after every action within the rules. -/
theorem act (h : D.Holds s) (hs : s.Sound) {a : Action} (ha : rules.Permits s a) : D.Holds (s.act a) := by
  cases a with
  | addBook title =>
    have hg := s.ledger.addBook_grown title
    exact h.later rfl rfl hg ⟨hg.lastId, h.admits, fun _ => Int.le_refl _⟩
  | addUser username =>
    have hg := s.ledger.addUser_grown username
    exact h.later rfl rfl hg ⟨hg.lastId, h.admits, fun _ => Int.le_refl _⟩
  | setClock t => exact h.later rfl rfl (.refl _) ⟨Int.le_refl _, ha.1, ha.2⟩
  | begin k => exact h.begin hs k
  | call k p =>
    rcases s.act_call_cases k p with he | ⟨x, hx, hd, he⟩
    · rw [he]; exact h
    · rw [he]; exact h.call hs hx hd (ha x hx).1 (ha x hx).2
  | advance k =>
    simp only [Traffic.act]
    split
    · rename_i x hx
      exact h.advance hx
    · exact h
  | commit k =>
    rcases s.act_commit_cases k with he | he | ⟨x, l, hx, hd, hl, he⟩
    · rw [he]; exact h
    · rw [he]; exact h.drop k
    · rw [he]; exact h.commit hs hx hd (ha x hx) hl
  | rollback k => exact h.drop k

end Holds

/-- A discipline holds in every state that its rules lead to. -/
theorem holds (D : Discipline rules) (h : Reachable rules s) : D.Holds s := by
  induction h with
  | start t ht => exact .start t ht
  | act a hr ha ih => exact ih.act hr.sound ha

/-- A discipline that holds in a state whose books are in order holds in every state that its rules lead to from there. -/
theorem Holds.leads (h : D.Holds s) (hs : s.Sound) (hl : Leads rules s s') : D.Holds s' ∧ s'.Sound := by
  induction hl with
  | refl => exact ⟨h, hs⟩
  | act a _ ha ih => exact ⟨ih.1.act ih.2 ha, ih.2.act a⟩

/-- What an action does to the ledger is a move of it, made by what the action adds to the journal. -/
theorem Holds.moved (h : D.Holds s) (hs : s.Sound) {a : Action} (ha : rules.Permits s a) :
    ∃ js, (s.act a).journal = s.journal ++ js ∧ D.Moved s.ledger (s.act a).ledger js := by
  rcases s.act_ledger_cases a with ⟨hj, hg⟩ | ⟨k, x, l, rfl, hx, hd, hl, he⟩
  · exact ⟨[], by rw [hj, List.append_nil], D.moved_grown hg⟩
  · have hv := h.opened k x hx
    have hcommit := D.commit (hs.opened k x hx).began (hs.committing hx hl) h.good hv.base hv.moved (hv.rest hd (ha x hx))
    rw [he]
    exact ⟨[x], rfl, hcommit.2⟩

/-- Between a state and a later one the ledger moved by what was committed in between. -/
theorem moved (D : Discipline rules) (h : Reachable rules s) (hl : Leads rules s s') :
    ∃ js, s'.journal = s.journal ++ js ∧ D.Moved s.ledger s'.ledger js := by
  induction hl with
  | refl => exact ⟨[], by simp, D.moved_grown (.refl _)⟩
  | @act s₁ a hl ha ih =>
    obtain ⟨js, hj, hm⟩ := ih
    have h₁ := h.leads hl
    obtain ⟨more, hj', hm'⟩ := (D.holds h₁).moved h₁.sound ha
    exact ⟨js ++ more, by rw [hj', hj, List.append_assoc], D.moved_trans hm hm'⟩

end Discipline

end Circulation
