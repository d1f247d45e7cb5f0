import Circulation.Proofs.Bookkeeping
import Mathlib.Data.List.Forall2

/-!
# Logbooks

Traffic keeps the draft of a transaction and forgets how the transaction came to it. A `Logbook` is traffic with a page for
every transaction that is open: what it was put to, what the clock read when it looked, and how each of its requests was
answered. When it is committed its page is filed, in the order of the journal. The deeds on a page lead from the draft that
the transaction began with to the one it has (`Recorded.did`, `Recorded.filed`), whatever the others did in between.
-/

namespace Circulation

/-- What a transaction did: it was put to a procedure, it read the clock, or it put a request and was answered. -/
inductive Deed where
  | called (p : Procedure (List Loan))
  | read (t : Instant)
  | asked (q : Request) (a : Except Stop q.Answer)

namespace Deed

/-- What the clock read. -/
def reading? : Deed → Option Instant
  | .read t => some t
  | _ => none

/-- Whether it was a request for the lock on a copy that was answered with the copy. -/
def locks (copyId : Int) : Deed → Bool
  | .asked (.lockCopy id) (.ok (some _)) => id = copyId
  | _ => false

end Deed

/-- Whether deeds lead from a draft, with the last id given out, to another. Others may take ids between two requests. -/
inductive Draft.Did : Draft → Int → List Deed → Draft → Int → Prop where
  | nil {d : Draft} {n : Int} : Did d n [] d n
  | called {d d' : Draft} {n n' : Int} {ds : List Deed} (p : Procedure (List Loan)) :
    Did d n ds d' n' → Did d n (.called p :: ds) d' n'
  | read {d d' : Draft} {n n' : Int} {ds : List Deed} (t : Instant) : Did d n ds d' n' → Did d n (.read t :: ds) d' n'
  | asked {d d' : Draft} {n m n' : Int} {ds : List Deed} {q : Request} {a : Except Stop q.Answer} {w : Work} :
    n ≤ m → Work.answer q ⟨d, m, 0⟩ = (a, w) → Did w.draft w.lastId ds d' n' → Did d n (.asked q a :: ds) d' n'

namespace Draft.Did

variable {d d' d'' : Draft} {n n' n'' : Int} {ds es : List Deed}

theorem append (h : d.Did n ds d' n') (h' : d'.Did n' es d'' n'') : d.Did n (ds ++ es) d'' n'' := by
  induction h with
  | nil => exact h'
  | called p _ ih => exact .called p (ih h')
  | read t _ ih => exact .read t (ih h')
  | asked hm hw _ ih => exact .asked hm hw (ih h')

/-- Whatever waiting and every change of a draft keep is kept by deeds. -/
theorem keep {I : Draft → Int → Prop} (h : d.Did n ds d' n') (hI : I d n) (wait : ∀ d n m, n ≤ m → I d n → I d m)
    (change : ∀ d n d' n', d.Change n d' n' → I d n → I d' n') : I d' n' := by
  induction h with
  | nil => exact hI
  | called p _ ih => exact ih hI
  | read t _ ih => exact ih hI
  | asked hm hw _ ih => exact ih (change _ _ _ _ (Draft.change_of_answered hw) (wait _ _ _ hm hI))

/-- A draft stands to its base after any deeds. -/
theorem stands {base : Ledger} (h : d.Did n ds d' n') (hs : d.Stands base n) : d'.Stands base n' :=
  h.keep (I := fun d n => d.Stands base n) hs (fun _ _ _ hm hs => hs.mono hm) fun _ _ _ _ hc hs => hs.change hc

/-- A lock that is held stays. -/
theorem locked (h : d.Did n ds d' n') {c : Int} (hc : d.locked.contains c = true) : d'.locked.contains c = true :=
  h.keep (I := fun d _ => d.locked.contains c = true) hc (fun _ _ _ _ hc => hc) fun _ _ _ _ hchange hc => hchange.locked hc

/-- A draft grows by deeds. -/
theorem grows {base : Ledger} (h : d.Did n ds d' n') (hs : d.Stands base n) : d.Grows d' :=
  (h.keep (I := fun d' n' => d'.Stands base n' ∧ d.Grows d') ⟨hs, .refl d⟩ (fun _ _ _ hm hI => ⟨hI.1.mono hm, hI.2⟩)
    fun _ _ _ _ hc hI => ⟨hI.1.change hc, hI.2.trans (hc.grows hI.1)⟩).2

/-- A request among some deeds was answered on a draft that stands to its base, and that grew. -/
theorem of_asked {base : Ledger} (h : d.Did n ds d' n') (hs : d.Stands base n) {q : Request} {a : Except Stop q.Answer}
    (hq : .asked q a ∈ ds) :
    ∃ d₁ m w, d₁.Stands base m ∧ Work.answer q ⟨d₁, m, 0⟩ = (a, w) ∧ w.draft.Grows d' := by
  induction h with
  | nil => nomatch hq
  | called p _ ih =>
    rcases List.mem_cons.1 hq with hq | hq
    · cases hq
    · exact ih hs hq
  | read t _ ih =>
    rcases List.mem_cons.1 hq with hq | hq
    · cases hq
    · exact ih hs hq
  | @asked d d' n m n' ds q' a' w hm hw h ih =>
    have hs' := (hs.mono hm).change (Draft.change_of_answered hw)
    rcases List.mem_cons.1 hq with hq | hq
    · cases hq
      exact ⟨d, m, w, hs.mono hm, hw, h.grows hs'⟩
    · exact ih hs' hq

/-- A copy that was answered to a request for its lock is locked. -/
theorem locked_of_locks (h : d.Did n ds d' n') {c : Int} (hc : ds.any (Deed.locks c) = true) :
    d'.locked.contains c = true := by
  induction h with
  | nil => simp at hc
  | called p _ ih => exact ih (by simpa [Deed.locks] using hc)
  | read t _ ih => exact ih (by simpa [Deed.locks] using hc)
  | @asked d d' n m n' ds q a w _ hw h ih =>
    simp only [List.any_cons, Bool.or_eq_true] at hc
    rcases hc with hc | hc
    · unfold Deed.locks at hc
      split at hc
      · rename_i id row heq
        cases heq
        simp only [Work.answer] at hw
        split at hw
        · cases hw
          refine h.locked ?_
          simp [Draft.lock, of_decide_eq_true hc]
        · cases hw
      · cases hc
    · exact ih hc

end Draft.Did

/-- Traffic with a page for every open transaction, and the pages of those that committed, oldest first. -/
structure Logbook where
  traffic : Traffic
  pages : Nat → List Deed := fun _ => []
  filed : List (List Deed) := []

/-- What a transaction is about to do. -/
def Transaction.next? (x : Transaction) (s : Traffic) : Option Deed :=
  match x.doing with
  | some (.clock _) => some (.read s.clock)
  | some (.ask q _) => some (.asked q (Work.answer q ⟨x.draft, s.ledger.lastId, 0⟩).1)
  | _ => none

namespace Logbook

/-- The page under a number after an action. -/
def page (b : Logbook) (k : Nat) : Action → List Deed
  | .begin j => if j = k then [] else b.pages k
  | .call j p => if j = k ∧ (b.traffic.opened k).any (·.doing.isNone) then b.pages k ++ [.called p] else b.pages k
  | .advance j => if j = k then b.pages k ++ ((b.traffic.opened k).bind (·.next? b.traffic)).toList else b.pages k
  | _ => b.pages k

/-- Carries out an action and keeps the book. -/
def act (b : Logbook) (a : Action) : Logbook where
  traffic := b.traffic.act a
  pages k := b.page k a
  filed := match a with
    | .commit k =>
      if b.traffic.journal.length < (b.traffic.act a).journal.length then b.filed ++ [b.pages k] else b.filed
    | _ => b.filed

/-- Puts a transaction to a procedure and has it take so many steps. -/
def serve (b : Logbook) (k : Nat) (p : Procedure (List Loan)) (steps : Nat) : Logbook :=
  (List.replicate steps (.advance k)).foldl act (b.act (.call k p))

end Logbook

/-- The books of what actions within the rules lead to, from an empty ledger. -/
inductive Recorded (rules : Rules) : Logbook → Prop where
  | start (t : Instant) : rules.admits t → Recorded rules { traffic := { clock := t } }
  | act {b : Logbook} (a : Action) : Recorded rules b → rules.Permits b.traffic a → Recorded rules (b.act a)

/-- Books are kept of traffic that the rules lead to. -/
theorem Recorded.reachable {rules : Rules} {b : Logbook} (h : Recorded rules b) : Reachable rules b.traffic := by
  induction h with
  | start t ht => exact .start t ht
  | act a _ ha ih => exact ih.act a ha

/-- A book can be kept of whatever actions lead to. -/
theorem Reachable.recorded {rules : Rules} {s : Traffic} (h : Reachable rules s) : ∃ b, Recorded rules b ∧ b.traffic = s := by
  induction h with
  | start t ht => exact ⟨_, .start t ht, rfl⟩
  | act a _ ha ih =>
    obtain ⟨b, hb, rfl⟩ := ih
    exact ⟨b.act a, hb.act a ha, rfl⟩

/-- A transaction may take any number of steps of what it may be put to. -/
theorem Recorded.serve {rules : Rules} {b : Logbook} (h : Recorded rules b) {k : Nat} {p : Procedure (List Loan)}
    (hp : ∀ x, b.traffic.opened k = some x → rules.allows x.inHand p ∧ (rules.strict → x.refused = false)) (steps : Nat) :
    Recorded rules (b.serve k p steps) := by
  have advance (b : Logbook) (h : Recorded rules b) :
      Recorded rules ((List.replicate steps (Action.advance k)).foldl Logbook.act b) := by
    induction steps generalizing b with
    | zero => exact h
    | succ n ih => exact ih (b.act (.advance k)) (h.act (.advance k) trivial)
  exact advance _ (h.act (.call k p) hp)

/-- A transaction may be put to any desk operation while the rules are not strict. -/
theorem Recorded.perform {policy : Policy} {b : Logbook} (h : Recorded (Rules.desk policy) b) (k : Nat) (o : Operation)
    (steps : Nat) : Recorded (Rules.desk policy) (b.serve k (o.procedure policy) steps) :=
  h.serve (fun _ _ => ⟨⟨o, rfl⟩, False.elim⟩) steps

/-! ## What an action makes of a transaction -/

/-- What an action makes of an open transaction, and what it adds to its page. -/
inductive Traffic.Turns (s : Traffic) (a : Action) (k : Nat) (x : Transaction) : Transaction → List Deed → Prop where
  | kept : Turns s a k x x []
  | called {p : Procedure (List Loan)} : a = .call k p → x.doing = none → Turns s a k x { x with doing := some p } [.called p]
  | ended {loans : List Loan} :
    x.doing = some (.done loans) → Turns s a k x { x with doing := none, inHand := loans ++ x.inHand } []
  | refused {why : Refusal} :
    x.doing = some (.stop (.refused why)) → Turns s a k x { x with doing := none, refused := true } []
  | read {next : Instant → Procedure (List Loan)} :
    x.doing = some (.clock next) → Turns s a k x { x with doing := some (next s.clock) } [.read s.clock]
  | answered {q : Request} {next : q.Answer → Procedure (List Loan)} {answer : q.Answer} {w : Work} :
    x.doing = some (.ask q next) → Work.answer q ⟨x.draft, s.ledger.lastId, 0⟩ = (.ok answer, w) →
    w.lastId ≤ (s.act a).ledger.lastId →
    Turns s a k x { x with draft := w.draft, doing := some (next answer) } [.asked q (.ok answer)]
  | unanswered {q : Request} {next : q.Answer → Procedure (List Loan)} {why : Stop} {w : Work} :
    x.doing = some (.ask q next) → Work.answer q ⟨x.draft, s.ledger.lastId, 0⟩ = (.error why, w) →
    w.lastId ≤ (s.act a).ledger.lastId →
    Turns s a k x { x with draft := w.draft, doing := some (.stop why) } [.asked q (.error why)]

/-- A step of a transaction turns it, and what it adds to the page is what the transaction was about to do. -/
theorem Traffic.turns_advance {s : Traffic} {k : Nat} {x x' : Transaction} (hx : s.opened k = some x)
    (hx' : (s.act (.advance k)).opened k = some x') : s.Turns (.advance k) k x x' (x.next? s).toList := by
  have hact : s.act (.advance k) = s.advance k x := by simp only [act, hx]
  rw [hact] at hx'
  unfold Transaction.next?
  unfold Traffic.advance at hx'
  split at hx'
  · rename_i hd
    cases hx.symm.trans hx'
    simp only [hd]
    exact .kept
  · rename_i loans hd
    cases (s.keep_self k _).symm.trans hx'
    simp only [hd]
    exact .ended hd
  · rename_i why hd
    cases (s.keep_self k _).symm.trans hx'
    simp only [hd]
    exact .refused hd
  · rw [drop_opened, if_pos rfl] at hx'
    cases hx'
  · rename_i next hd
    cases (s.keep_self k _).symm.trans hx'
    simp only [hd]
    exact .read hd
  · rename_i q next hd
    simp only [hd]
    have hlast : (s.act (.advance k)).ledger.lastId = (Work.answer q ⟨x.draft, s.ledger.lastId, 0⟩).2.lastId := by
      rw [hact]
      simp only [Traffic.advance, hd]
      split <;> rename_i hw <;> rw [hw] <;> rfl
    split at hx'
    · rename_i answer w hw
      rw [hw] at hlast ⊢
      cases (keep_self { s with ledger := { s.ledger with lastId := w.lastId } } k _).symm.trans hx'
      exact .answered hd hw (Int.le_of_eq hlast.symm)
    · rename_i why w hw
      rw [hw] at hlast ⊢
      cases (keep_self { s with ledger := { s.ledger with lastId := w.lastId } } k _).symm.trans hx'
      exact .unanswered hd hw (Int.le_of_eq hlast.symm)

/-- A step of a transaction leaves the others as they are. -/
theorem Traffic.advance_opened {s : Traffic} {j k : Nat} (x : Transaction) (hjk : k ≠ j) :
    (s.advance j x).opened k = s.opened k := by
  rcases s.advance_cases j x with he | he | ⟨x', n, -, -, -, he⟩
  · rw [he]
  · rw [he, drop_opened, if_neg hjk]
  · rw [he, keep_opened, if_neg hjk]
    rfl

/-- What a commit leaves open was open before. -/
theorem Traffic.opened_of_commit {s : Traffic} {j k : Nat} {x : Transaction}
    (hx : (s.act (.commit j)).opened k = some x) : s.opened k = some x := by
  have drop {t : Traffic} (ht : t.opened = (s.drop j).opened) (hx : t.opened k = some x) : s.opened k = some x := by
    rw [ht, drop_opened] at hx
    split at hx
    · cases hx
    · exact hx
  rcases s.act_commit_cases j with he | he | ⟨y, l, -, -, -, he⟩
  · rw [he] at hx
    exact hx
  · rw [he] at hx
    exact drop rfl hx
  · rw [he] at hx
    exact drop rfl hx

/-- An open transaction has just begun, or was open before and was turned by the action. -/
theorem Logbook.act_turns (b : Logbook) (a : Action) {k : Nat} {x' : Transaction}
    (hx' : (b.act a).traffic.opened k = some x') :
    (x' = { base := b.traffic.ledger, began := b.traffic.journal.length, draft := b.traffic.ledger.draft } ∧
      (b.act a).pages k = []) ∨
    ∃ x ds, b.traffic.opened k = some x ∧ b.traffic.Turns a k x x' ds ∧ (b.act a).pages k = b.pages k ++ ds := by
  have kept (hx : b.traffic.opened k = some x') (hp : b.page k a = b.pages k) : ∃ x ds,
      b.traffic.opened k = some x ∧ b.traffic.Turns a k x x' ds ∧ (b.act a).pages k = b.pages k ++ ds :=
    ⟨x', [], hx, .kept, hp.trans (List.append_nil _).symm⟩
  cases a with
  | addBook title => exact .inr (kept hx' rfl)
  | addUser username => exact .inr (kept hx' rfl)
  | setClock t => exact .inr (kept hx' rfl)
  | begin j =>
    simp only [act, Traffic.act, Traffic.keep_opened] at hx'
    split at hx'
    · rename_i hkj
      cases hx'
      exact .inl ⟨rfl, if_pos hkj.symm⟩
    · rename_i hkj
      exact .inr (kept hx' (if_neg (Ne.symm hkj)))
  | call j p =>
    right
    simp only [act, Traffic.act] at hx'
    split at hx'
    · rename_i x hx
      split at hx'
      · rename_i hd
        rw [Traffic.keep_opened] at hx'
        split at hx'
        · rename_i hkj
          subst hkj
          cases hx'
          exact ⟨x, _, hx, .called rfl (Option.isNone_iff_eq_none.1 hd), if_pos ⟨rfl, by simp [hx, hd]⟩⟩
        · rename_i hkj
          exact kept hx' (if_neg fun h => hkj h.1.symm)
      · rename_i hd
        refine kept hx' (if_neg fun h => hd ?_)
        obtain ⟨rfl, h⟩ := h
        simpa [hx] using h
    · rename_i hx
      refine kept hx' (if_neg fun h => ?_)
      obtain ⟨rfl, -⟩ := h
      cases hx.symm.trans hx'
  | advance j =>
    right
    by_cases hkj : k = j
    · subst hkj
      cases hx : b.traffic.opened k with
      | none =>
        simp only [act, Traffic.act, hx] at hx'
        cases hx'
      | some x => exact ⟨x, _, rfl, Traffic.turns_advance hx hx', by simp [act, page, hx]⟩
    · refine kept ?_ (if_neg (Ne.symm hkj))
      simp only [act, Traffic.act] at hx'
      split at hx'
      · rw [Traffic.advance_opened _ hkj] at hx'
        exact hx'
      · exact hx'
  | commit j => exact .inr (kept (Traffic.opened_of_commit hx') rfl)
  | rollback j =>
    simp only [act, Traffic.act, Traffic.drop_opened] at hx'
    split at hx'
    · cases hx'
    · exact .inr (kept hx' rfl)

/-- What is added to a page leads from the draft to the draft there is then. -/
theorem Traffic.Turns.did {s : Traffic} {a : Action} {k : Nat} {x x' : Transaction} {ds : List Deed} {n : Int}
    (h : s.Turns a k x x' ds) (hn : n ≤ s.ledger.lastId) :
    x'.base = x.base ∧ ∃ n' ≤ (s.act a).ledger.lastId, x.draft.Did n ds x'.draft n' := by
  have hle := Int.le_trans hn (s.lastId_le_act a)
  cases h with
  | kept => exact ⟨rfl, n, hle, .nil⟩
  | called => exact ⟨rfl, n, hle, .called _ .nil⟩
  | ended => exact ⟨rfl, n, hle, .nil⟩
  | refused => exact ⟨rfl, n, hle, .nil⟩
  | read => exact ⟨rfl, n, hle, .read _ .nil⟩
  | answered _ hw hlast => exact ⟨rfl, _, hlast, .asked hn hw .nil⟩
  | unanswered _ hw hlast => exact ⟨rfl, _, hlast, .asked hn hw .nil⟩

namespace Recorded

variable {rules : Rules} {b : Logbook}

/-- The deeds on the page of an open transaction lead from the draft it began with to the one it has. -/
theorem did (h : Recorded rules b) {k : Nat} {x : Transaction} (hx : b.traffic.opened k = some x) :
    ∃ n ≤ b.traffic.ledger.lastId, x.base.draft.Did x.base.lastId (b.pages k) x.draft n := by
  induction h generalizing x with
  | start t _ => cases hx
  | @act b a _ _ ih =>
    rcases b.act_turns a hx with ⟨rfl, hpage⟩ | ⟨y, ds, hy, hturns, hpage⟩
    · rw [hpage]
      exact ⟨_, b.traffic.lastId_le_act a, .nil⟩
    · obtain ⟨n, hn, hdid⟩ := ih hy
      obtain ⟨hbase, n', hn', hmore⟩ := hturns.did hn
      rw [hpage, hbase]
      exact ⟨n', hn', hdid.append hmore⟩

/-- The pages of those that committed are filed in the order of the journal, and each leads to the draft committed. -/
theorem filed (h : Recorded rules b) :
    List.Forall₂ (fun x ds => ∃ n, x.base.draft.Did x.base.lastId ds x.draft n) b.traffic.journal b.filed := by
  induction h with
  | start t _ => exact .nil
  | @act b a h _ ih =>
    rcases b.traffic.act_ledger_cases a with ⟨hj, -⟩ | ⟨k, x, l, rfl, hx, -, -, he⟩
    · have hfiled : (b.act a).filed = b.filed := by
        cases a with
        | commit k => exact if_neg (by simp [hj])
        | _ => rfl
      rw [hfiled]
      exact hj.symm ▸ ih
    · obtain ⟨n, -, hdid⟩ := h.did hx
      have hfiled : (b.act (.commit k)).filed = b.filed ++ [b.pages k] := if_pos (by simp [he])
      have hjournal : (b.act (.commit k)).traffic.journal = b.traffic.journal ++ [x] := by simp only [Logbook.act, he]
      rw [hfiled, hjournal]
      exact List.rel_append ih (.cons ⟨n, hdid⟩ .nil)

end Recorded

/-- A turned transaction has the base it began on. -/
theorem Traffic.Turns.base {s : Traffic} {a : Action} {k : Nat} {x x' : Transaction} {ds : List Deed}
    (h : s.Turns a k x x' ds) : x'.base = x.base ∧ x'.began = x.began := by
  cases h with
  | _ => exact ⟨rfl, rfl⟩

/-- What growth and commits make of a ledger, one after the other, was made of it since an open transaction began. -/
theorem Reachable.moved {rules : Rules} {s : Traffic} (h : Reachable rules s) (Moved : Ledger → Ledger → List Transaction → Prop)
    (grown : ∀ {l l' : Ledger}, l.Grown l' → Moved l l' [])
    (trans : ∀ {l l' l'' : Ledger} {js js' : List Transaction}, Moved l l' js → Moved l' l'' js' → Moved l l'' (js ++ js'))
    (commit : ∀ {l l' : Ledger} {x : Transaction} {js : List Transaction}, Committing l x js l' → Moved l l' [x])
    {k : Nat} {x : Transaction} (hx : s.opened k = some x) : Moved x.base s.ledger (s.journal.drop x.began) := by
  obtain ⟨b, hb, rfl⟩ := h.recorded
  clear h
  induction hb generalizing x with
  | start t _ => cases hx
  | @act b a hb _ ih =>
    have hs := hb.reachable.sound
    -- What the action itself does to the ledger, and what it adds to the journal.
    have step : ∃ js, (b.traffic.act a).journal = b.traffic.journal ++ js ∧ Moved b.traffic.ledger (b.traffic.act a).ledger js := by
      rcases b.traffic.act_ledger_cases a with ⟨hj, hg⟩ | ⟨j, z, l, rfl, hz, -, hl, he⟩
      · exact ⟨[], by rw [hj, List.append_nil], grown hg⟩
      · rw [he]
        exact ⟨[z], rfl, commit (hs.committing hz hl)⟩
    obtain ⟨js, hj, hstep⟩ := step
    simp only [Logbook.act] at hx ⊢
    rcases b.act_turns a hx with ⟨rfl, -⟩ | ⟨y, ds, hy, hturns, -⟩
    · rw [hj, List.drop_left]
      exact hstep
    · obtain ⟨hbase, hbegan⟩ := hturns.base
      rw [hj, hbase, hbegan, List.drop_append_of_le_length (hs.opened k y hy).began]
      exact trans (ih hy) hstep

/-- Whatever a draft has that a transaction begins with, and every change of a draft that stands to its base keeps, an open
transaction's draft has. -/
theorem Reachable.draft_keeps {rules : Rules} {s : Traffic} (h : Reachable rules s) {k : Nat} {x : Transaction}
    (hx : s.opened k = some x) {I : Draft → Prop} (begin : I x.base.draft)
    (change : ∀ d n d' n', d.Stands x.base n → d.Change n d' n' → I d → I d') : I x.draft := by
  obtain ⟨b, hb, rfl⟩ := h.recorded
  obtain ⟨n, -, hdid⟩ := hb.did hx
  refine (hdid.keep (I := fun d n => d.Stands x.base n ∧ I d) ⟨.begin (h.sound.opened k x hx).base, begin⟩ ?_ ?_).2
  · exact fun d n m hm hI => ⟨hI.1.mono hm, hI.2⟩
  · exact fun d n d' n' hc hI => ⟨hI.1.change hc, change d n d' n' hI.1 hc hI.2⟩

/-- The fines that a draft notes as settled are settled in it. -/
theorem Reachable.settled_rows {rules : Rules} {s : Traffic} (h : Reachable rules s) {k : Nat} {x : Transaction}
    (hx : s.opened k = some x) :
    ∀ id f, x.draft.settled.contains id = true → x.draft.tables.fines.get? id = some f → f.settled = true := by
  refine h.draft_keeps (I := fun d => ∀ id f, d.settled.contains id = true → d.tables.fines.get? id = some f →
    f.settled = true) hx (fun _ _ hs => by cases hs) fun d n d' n' hstands hc hI id f hs hf => ?_
  cases hc with
  | newFine r _ hk =>
    simp only [Draft.putFine, Table.get?_insert] at hs hf
    split at hf
    · -- A fine that is noted as settled has a row, so its id is not a new one.
      rename_i hid
      obtain ⟨a, ha⟩ := Table.contains_iff.1 (hstands.fines.held id (hstands.settled id hs).1)
      have := (hstands.fines.keyed id a ha).2
      omega
    · exact hI id f hs hf
  | fine j g g' hg hgs hg' hlast =>
    simp only [Draft.putFine, Table.get?_insert, Table.contains_add, Bool.or_eq_true, decide_eq_true_eq] at hs hf
    split at hf
    · cases hf
      exact hg'
    · rename_i hid
      exact hI id f (hs.resolve_left hid) hf
  | _ => exact hI id f hs hf

end Circulation
