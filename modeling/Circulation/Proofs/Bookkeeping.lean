import Circulation.Proofs.Commit

/-!
# Bookkeeping

What is so in every state of traffic, whatever procedures the transactions are put to: the ledger is sound, every open
transaction's draft stands to the ledger it began on, the ledger has moved since only by what was committed in between,
and no two transactions, and no transaction and the ledger, have the same new id (`Reachable.sound`).
-/

namespace Circulation

/-- What is so of an open transaction. -/
structure Transaction.InOrder (x : Transaction) (s : Traffic) : Prop where
  base : x.base.Sound
  stands : x.draft.Stands x.base s.ledger.lastId
  began : x.began ≤ s.journal.length
  since : x.base.Since s.ledger (s.journal.drop x.began)
  apart : x.Apart s.ledger.tables

/-- A transaction stays in order while neither the ledger nor the journal changes. -/
theorem Transaction.InOrder.congr {x : Transaction} {s s' : Traffic} (h : x.InOrder s) (hl : s'.ledger = s.ledger)
    (hj : s'.journal = s.journal) : x.InOrder s' := by
  constructor
  · exact h.base
  · rw [hl]; exact h.stands
  · rw [hj]; exact h.began
  · rw [hl, hj]; exact h.since
  · rw [hl]; exact h.apart

/-- What is so in every state of traffic. -/
structure Traffic.Sound (s : Traffic) : Prop where
  ledger : s.ledger.Sound
  opened : ∀ k x, s.opened k = some x → x.InOrder s
  apart : ∀ j k x y, j ≠ k → s.opened j = some x → s.opened k = some y → x.Apart y.draft.tables

namespace Traffic

variable {s : Traffic}

/-- Taking ids makes a ledger grow. -/
theorem grown_taking {n : Int} (hn : s.ledger.lastId ≤ n) : s.ledger.Grown (s.taking n).ledger :=
  ⟨hn, rfl, rfl⟩

/-- What one step of a transaction may do: nothing, its end, or a change of its draft. -/
theorem advance_cases (s : Traffic) (k : Nat) (x : Transaction) :
    s.advance k x = s ∨ s.advance k x = s.drop k ∨
      ∃ x' n, x'.base = x.base ∧ x'.began = x.began ∧ x.draft.Change s.ledger.lastId x'.draft n ∧
        s.advance k x = (s.taking n).keep k x' := by
  unfold advance
  split
  · exact .inl rfl
  · rename_i loans _
    exact .inr (.inr ⟨{ x with doing := none, inHand := loans ++ x.inHand }, s.ledger.lastId, rfl, rfl, .none, rfl⟩)
  · exact .inr (.inr ⟨{ x with doing := none, refused := true }, s.ledger.lastId, rfl, rfl, .none, rfl⟩)
  · exact .inr (.inl rfl)
  · rename_i next _
    exact .inr (.inr ⟨{ x with doing := some (next s.clock) }, s.ledger.lastId, rfl, rfl, .none, rfl⟩)
  · rename_i q next _
    split
    · rename_i a w hw
      have hc := Draft.change_of_answered hw
      exact .inr (.inr ⟨{ x with draft := w.draft, doing := some (next a) }, w.lastId, rfl, rfl, hc, rfl⟩)
    · rename_i why w hw
      have hc := Draft.change_of_answered hw
      exact .inr (.inr ⟨{ x with draft := w.draft, doing := some (.stop why) }, w.lastId, rfl, rfl, hc, rfl⟩)

/-- An action lets the ledger grow at most, or is a commit that goes through. -/
theorem act_ledger_cases (s : Traffic) (a : Action) :
    ((s.act a).journal = s.journal ∧ s.ledger.Grown (s.act a).ledger) ∨
      ∃ k x l, a = .commit k ∧ s.opened k = some x ∧ x.doing = none ∧ s.ledger.commit x.draft = .ok l ∧
        s.act a = { s.drop k with ledger := l, journal := s.journal ++ [x] } := by
  cases a with
  | addBook title => exact .inl ⟨rfl, s.ledger.addBook_grown title⟩
  | addUser username => exact .inl ⟨rfl, s.ledger.addUser_grown username⟩
  | setClock t => exact .inl ⟨rfl, .refl _⟩
  | begin k => exact .inl ⟨rfl, .refl _⟩
  | call k p =>
    rcases s.act_call_cases k p with he | ⟨x, -, -, he⟩
    · rw [he]; exact .inl ⟨rfl, .refl _⟩
    · rw [he]; exact .inl ⟨rfl, .refl _⟩
  | advance k =>
    simp only [act]
    split
    · rename_i x _
      rcases s.advance_cases k x with he | he | ⟨x', n, -, -, hc, he⟩
      · rw [he]; exact .inl ⟨rfl, .refl _⟩
      · rw [he]; exact .inl ⟨rfl, .refl _⟩
      · rw [he]; exact .inl ⟨rfl, grown_taking hc.le⟩
    · exact .inl ⟨rfl, .refl _⟩
  | commit k =>
    rcases s.act_commit_cases k with he | he | ⟨x, l, hx, hd, hl, he⟩
    · rw [he]; exact .inl ⟨rfl, .refl _⟩
    · rw [he]; exact .inl ⟨rfl, .refl _⟩
    · exact .inr ⟨k, x, l, rfl, hx, hd, hl, he⟩
  | rollback k => exact .inl ⟨rfl, .refl _⟩

/-- No action takes an id back. -/
theorem lastId_le_act (s : Traffic) (a : Action) : s.ledger.lastId ≤ (s.act a).ledger.lastId := by
  rcases s.act_ledger_cases a with ⟨-, hg⟩ | ⟨k, x, l, -, -, -, hl, he⟩
  · exact hg.lastId
  · have hledger : (s.act a).ledger = l := congrArg Traffic.ledger he
    have hlast : l.lastId = s.ledger.lastId := by rw [(Ledger.commit_eq_ok_iff.1 hl).2]
    exact Int.le_of_eq (by rw [hledger, hlast])

end Traffic

/-! ## Each kind of action -/

namespace Traffic.Sound

variable {s : Traffic}

theorem start (t : Instant) : Traffic.Sound { clock := t } where
  ledger := by constructor <;> intro id a h <;> cases h
  opened _ _ h := by cases h
  apart _ _ _ _ _ h := by cases h

/-- Others take no notice of a ledger that grows. -/
theorem grown (h : s.Sound) {l : Ledger} (hg : s.ledger.Grown l) : Traffic.Sound { s with ledger := l } where
  ledger := h.ledger.grown hg
  opened k x hx := by
    have ho := h.opened k x hx
    refine ⟨ho.base, ho.stands.mono hg.lastId, ho.began, ?_, ?_⟩
    · simpa using ho.since.trans (.of_grown hg)
    · rw [show l.tables = _ from hg.tables]
      exact ho.apart
  apart := h.apart

/-- Dropping a transaction keeps traffic sound. -/
theorem drop (h : s.Sound) (k : Nat) : (s.drop k).Sound where
  ledger := h.ledger
  opened j x hx := by
    simp only [drop_opened] at hx
    split at hx
    · cases hx
    · exact (h.opened j x hx).congr rfl rfl
  apart i j x y hij hx hy := by
    simp only [drop_opened] at hx hy
    split at hx
    · cases hx
    · split at hy
      · cases hy
      · exact h.apart i j x y hij hx hy

/-- A transaction that begins is in order, and so are the others. -/
theorem begin (h : s.Sound) (k : Nat) :
    (s.keep k { base := s.ledger, began := s.journal.length, draft := s.ledger.draft }).Sound where
  ledger := h.ledger
  opened j x hx := by
    rw [keep_opened] at hx
    split at hx
    · cases hx
      refine ⟨h.ledger, .begin h.ledger, Nat.le_refl _, ?_, fun id hid hx _ => ?_⟩
      · have hnil : s.journal.drop s.journal.length = [] := List.drop_length
        exact hnil ▸ .of_grown (.refl s.ledger)
      · exact absurd (h.ledger.le_lastId hx) (Int.not_le.2 hid)
    · exact (h.opened j x hx).congr rfl rfl
  apart i j x y hij hx hy := by
    rw [keep_opened] at hx hy
    split at hx
    · cases hx
      exact fun id hid hx _ => absurd (h.ledger.le_lastId hx) (Int.not_le.2 hid)
    · split at hy
      · cases hy
        exact (h.opened i x hx).apart
      · exact h.apart i j x y hij hx hy

/-- A transaction whose draft changes stays in order, and so do the others: an id it takes is new to all. -/
theorem change (h : s.Sound) {k : Nat} {x x' : Transaction} {n : Int} (hx : s.opened k = some x)
    (hbase : x'.base = x.base) (hbegan : x'.began = x.began)
    (hc : x.draft.Change s.ledger.lastId x'.draft n) : ((s.taking n).keep k x').Sound := by
  have hg : (s.taking n).Sound := h.grown (grown_taking hc.le)
  have ho := h.opened k x hx
  -- What the draft holds it held before, or it is under an id that nobody has.
  have hnew : ∀ t : Tables, (∀ id, t.Holds id → id ≤ s.ledger.lastId) → x.Apart t → x'.Apart t := by
    intro t ht ha id hid hx' htid
    rw [hbase] at hid
    rcases hc.holds hx' with hold | ⟨hlt, -⟩
    · exact ha id hid hold htid
    · exact absurd (ht id htid) (Int.not_le.2 hlt)
  have hle : ∀ j y, s.opened j = some y → ∀ id, y.draft.tables.Holds id → id ≤ s.ledger.lastId :=
    fun j y hy id hid => (h.opened j y hy).stands.le_of_holds hid
  refine ⟨hg.ledger, fun j y hy => ?_, fun i j y z hij hy hz => ?_⟩
  · rw [keep_opened] at hy
    split at hy
    · cases hy
      have hk := hg.opened k x hx
      refine ⟨by rw [hbase]; exact ho.base, by rw [hbase]; exact ho.stands.change hc, by rw [hbegan]; exact ho.began,
        by rw [hbase, hbegan]; exact hk.since, ?_⟩
      exact hnew s.ledger.tables (fun id hid => h.ledger.le_lastId hid) ho.apart
    · exact (hg.opened j y hy).congr rfl rfl
  · rw [keep_opened] at hy hz
    split at hy
    · rename_i hik
      subst hik
      cases hy
      have hjk : j ≠ i := fun hc => hij hc.symm
      rw [if_neg hjk] at hz
      exact hnew _ (hle j z hz) (h.apart i j x z hij hx hz)
    · split at hz
      · rename_i hik hjk
        subst hjk
        cases hz
        intro id hid hy' hx'
        rcases hc.holds hx' with hold | ⟨hlt, -⟩
        · exact h.apart i j y x hij hy hx id hid hy' hold
        · exact absurd (hle i y hy id hy') (Int.not_le.2 hlt)
      · exact h.apart i j y z hij hy hz

/-- A transaction at rest that may commit is about to. -/
theorem committing (h : s.Sound) {k : Nat} {x : Transaction} {l : Ledger} (hx : s.opened k = some x)
    (hc : s.ledger.commit x.draft = .ok l) : Committing s.ledger x (s.journal.drop x.began) l := by
  have ho := h.opened k x hx
  obtain ⟨hclear, heq⟩ := Ledger.commit_eq_ok_iff.1 hc
  exact ⟨h.ledger, ho.base, ho.stands, ho.since, ho.apart, hclear, heq⟩

/-- A commit that goes through keeps traffic sound. -/
theorem commit (h : s.Sound) {k : Nat} {x : Transaction} {l : Ledger} (hx : s.opened k = some x)
    (hc : s.ledger.commit x.draft = .ok l) :
    Traffic.Sound { s.drop k with ledger := l, journal := s.journal ++ [x] } := by
  have hcom := h.committing hx hc
  refine ⟨hcom.sound', fun j y hy => ?_, (h.drop k).apart⟩
  simp only [drop_opened] at hy
  split at hy
  · cases hy
  · rename_i hjk
    have ho := h.opened j y hy
    refine ⟨ho.base, ?_, ?_, ?_, ?_⟩
    · rw [show l.lastId = s.ledger.lastId from hcom.lastId]
      exact ho.stands
    · simp only [List.length_append, List.length_singleton]
      have := ho.began
      omega
    · rw [List.drop_append_of_le_length ho.began]
      exact ho.since.trans hcom.since'
    · intro id hid hy' hl
      rcases hcom.holds hl with hl | hl
      · exact ho.apart id hid hy' hl
      · exact h.apart j k y x hjk hy hx id hid hy' hl

/-- Every action keeps traffic sound, be it within some rules or not. -/
theorem act (h : s.Sound) (a : Action) : (s.act a).Sound := by
  cases a with
  | addBook title => exact h.grown (s.ledger.addBook_grown title)
  | addUser username => exact h.grown (s.ledger.addUser_grown username)
  | setClock t => exact ⟨h.ledger, fun k x hx => (h.opened k x hx).congr rfl rfl, h.apart⟩
  | begin k => exact h.begin k
  | call k p =>
    rcases s.act_call_cases k p with he | ⟨x, hx, -, he⟩
    · rw [he]; exact h
    · rw [he]; exact h.change hx rfl rfl (.none : x.draft.Change s.ledger.lastId x.draft s.ledger.lastId)
  | advance k =>
    simp only [Traffic.act]
    split
    · rename_i x hx
      rcases s.advance_cases k x with he | he | ⟨x', n, hbase, hbegan, hc, he⟩
      · rw [he]; exact h
      · rw [he]; exact h.drop k
      · rw [he]; exact h.change hx hbase hbegan hc
    · exact h
  | commit k =>
    rcases s.act_commit_cases k with he | he | ⟨x, l, hx, -, hl, he⟩
    · rw [he]; exact h
    · rw [he]; exact h.drop k
    · rw [he]; exact h.commit hx hl
  | rollback k => exact h.drop k

/-- So do some actions, one after the other. -/
theorem acts (h : s.Sound) (as : List Action) : (as.foldl Traffic.act s).Sound := by
  induction as generalizing s with
  | nil => exact h
  | cons a as ih => exact ih (h.act a)

end Traffic.Sound

/-- The books are in order in every state that any rules lead to. -/
theorem Reachable.sound {rules : Rules} {s : Traffic} (h : Reachable rules s) : s.Sound := by
  induction h with
  | start t _ => exact .start t
  | act a _ _ ih => exact ih.act a

/-- A ledger differs from what it was in an earlier state by what was committed in between. -/
theorem Leads.since {rules : Rules} {s s' : Traffic} (hl : Leads rules s s') (h : Reachable rules s) :
    ∃ js, s'.journal = s.journal ++ js ∧ s.ledger.Since s'.ledger js := by
  induction hl with
  | refl => exact ⟨[], by simp, .of_grown (.refl _)⟩
  | @act s₁ a hl ha ih =>
    obtain ⟨js, hj, hsince⟩ := ih
    rcases s₁.act_ledger_cases a with ⟨hj', hg⟩ | ⟨k, x, l, rfl, hx, hd, hc, he⟩
    · refine ⟨js, hj'.trans hj, ?_⟩
      simpa using hsince.trans (.of_grown hg)
    · rw [he]
      have hcom := (h.leads hl).sound.committing hx hc
      exact ⟨js ++ [x], by rw [hj, List.append_assoc], hsince.trans hcom.since'⟩

end Circulation
