import OpenScript.Proofs.Checked.Lookup
import OpenScript.Proofs.Evaluation

/-!
# Proofs/Checked/Run — evaluations that stop at faults

    evaluation ──lift──▸ the same, no index checked        check ──fault──▸ everything stops

Checked evaluation ends like evaluation, with a result or an error, or else at a fault; a fault in a
task stops all that waits for the task.  It follows an evaluation if it asks for the same tasks in
the same states and ends the same way, without a fault, as long as the answers do the same
(`Checked.Follows`).  Where tasks do so all along, their answers are the same
(`Checked.answer_eq`).
-/

namespace OpenScript

namespace Checked

variable {α β : Type}

/-- A checked evaluation. -/
def Run (α : Type) : Type :=
  State → Comp State Task (Except Fault (Outcome Flow)) (Except Fault (Outcome α))

namespace Run

/-- Ends with a result. -/
def pure (a : α) : Run α := fun s => .done (.ok (.ok a)) s

/-- One evaluation after another; an error ends both, and so does a fault. -/
def bind (x : Run α) (f : α → Run β) : Run β := fun s =>
  (x s).bind fun
    | .ok (.ok a), s => f a s
    | .ok (.error e), s => .done (.ok (.error e)) s
    | .error fault, s => .done (.error fault) s

instance : Monad Run where
  pure := Run.pure
  bind := Run.bind

end Run

/-- A computation without checks, stopped by faults in its tasks. -/
def liftComp : Comp State Task (Outcome Flow) (Outcome α) →
    Comp State Task (Except Fault (Outcome Flow)) (Except Fault (Outcome α))
  | .done r s => .done (.ok r) s
  | .ask t s k => .ask t s fun
    | .ok r, s => liftComp (k r s)
    | .error fault, s => .done (.error fault) s

/-- An evaluation that uses no index. -/
def lift (x : Eval α) : Run α := fun s => liftComp (x s)

/-- Changes the state and ends with what comes of it, if all indices are in range. -/
def step (f : State → Except Fault (α × State)) : Run α := fun s =>
  match f s with
  | .ok (a, s) => .done (.ok (.ok a)) s
  | .error fault => .done (.error fault) s

/-- Looks something up in the state, if all indices are in range. -/
def look (f : State → Except Fault α) : Run α := step fun s => (f s).map (·, s)

/-- Changes the state, if all indices are in range. -/
def change (f : State → Except Fault State) : Run Unit := step fun s => (f s).map ((), ·)

/-- Ends with an error. -/
def fail (e : RuntimeError) : Run α := lift (Eval.fail e)

/-- Runs a method or a lambda, unless too many are running already. -/
def nested (x : Run α) : Run α := fun s =>
  if s.limit ≤ s.depth then .done (.ok (.error (.stackOverflow s.limit))) s
  else (x { s with depth := s.depth + 1 }).bind fun r s => .done r { s with depth := s.depth - 1 }

/-! ## Following -/

/-- A checked computation asks for the same as one without checks and ends the same way, as long as
its tasks are answered within a contract and without faults. -/
def Agrees (C : Eval.Contract) : Comp State Task (Outcome Flow) (Outcome α) →
    Comp State Task (Except Fault (Outcome Flow)) (Except Fault (Outcome α)) → Prop
  | .done r s, d => d = .done (.ok r) s
  | .ask t s k, d => ∃ k', d = .ask t s k' ∧
      ∀ r s', C.post t s r s' → Agrees C (k r s') (k' (.ok r) s')

variable {C : Eval.Contract}

/-- Without checks there are no faults. -/
theorem agrees_lift (c : Comp State Task (Outcome Flow) (Outcome α)) : Agrees C c (liftComp c) := by
  induction c with
  | done r s => rfl
  | ask t s k ih =>
    rw [liftComp]
    exact ⟨_, rfl, fun r s' _ => ih r s'⟩

theorem Agrees.bind {Q : Outcome α → State → Prop} {pre : Task → State → Prop}
    {c : Comp State Task (Outcome Flow) (Outcome α)}
    {d : Comp State Task (Except Fault (Outcome Flow)) (Except Fault (Outcome α))}
    {next : Outcome α → State → Comp State Task (Outcome Flow) (Outcome β)}
    {next' : Except Fault (Outcome α) → State →
      Comp State Task (Except Fault (Outcome Flow)) (Except Fault (Outcome β))}
    (h : Agrees C c d) (hc : c.Meets { C with pre } Q)
    (hn : ∀ r s, Q r s → Agrees C (next r s) (next' (.ok r) s)) :
    Agrees C (c.bind next) (d.bind next') := by
  induction c generalizing d with
  | done r s =>
    obtain rfl := h
    exact hn r s hc
  | ask t s k ih =>
    obtain ⟨k', rfl, hk⟩ := h
    exact ⟨_, rfl, fun r s' hr => ih r s' (hk r s' hr) (hc.2 r s' hr)⟩

/-- What comes after both computations, whatever they end with. -/
theorem Agrees.after {c : Comp State Task (Outcome Flow) (Outcome α)}
    {d : Comp State Task (Except Fault (Outcome Flow)) (Except Fault (Outcome α))}
    {next : Outcome α → State → Comp State Task (Outcome Flow) (Outcome β)}
    {next' : Except Fault (Outcome α) → State →
      Comp State Task (Except Fault (Outcome Flow)) (Except Fault (Outcome β))}
    (h : Agrees C c d) (hn : ∀ r s, Agrees C (next r s) (next' (.ok r) s)) :
    Agrees C (c.bind next) (d.bind next') := by
  induction c generalizing d with
  | done r s =>
    obtain rfl := h
    exact hn r s
  | ask t s k ih =>
    obtain ⟨k', rfl, hk⟩ := h
    exact ⟨_, rfl, fun r s' hr => ih r s' (hk r s' hr)⟩

/-- Checked evaluation does as evaluation does from a state, given indexed answers. -/
def Follows (s : State) (x : Eval α) (y : Run α) : Prop :=
  Agrees (Discipline.indexed.contract fun _ _ => True) (x s) (y s)

variable {s : State} {x : Eval α} {y : Run α}

theorem follows_lift : Follows s x (lift x) := agrees_lift (x s)

theorem follows_pure {a : α} : Follows s (pure a) (pure a) := rfl

theorem follows_fail {e : RuntimeError} : Follows (α := α) s (Eval.fail e) (fail e) := rfl

/-- **One evaluation after another is followed if both are.** -/
theorem Follows.bind {Q : α → State → Prop} {f : α → Eval β} {g : α → Run β}
    (h : Follows s x y) (hx : Discipline.indexed.Keeps (fun _ => True) s x Q)
    (hf : ∀ a s', Discipline.indexed.Leads s s' → Q a s' → Follows s' (f a) (g a)) :
    Follows s (x >>= f) (y >>= g) := by
  refine Agrees.bind h hx fun r s' hr => ?_
  cases r with
  | error e => rfl
  | ok a => exact hf a s' hr.1 (hr.2 a rfl)

/-- One evaluation after another is followed if the second one is from everywhere. -/
theorem Follows.then {f : α → Eval β} {g : α → Run β} (h : Follows s x y)
    (hf : ∀ a s', Follows s' (f a) (g a)) : Follows s (x >>= f) (y >>= g) := by
  refine Agrees.after h fun r s' => ?_
  cases r with
  | error e => rfl
  | ok a => exact hf a s'

theorem follows_step {f : State → α × State} {g : State → Except Fault (α × State)}
    (h : g s = .ok (f s)) : Follows s (Eval.update f) (step g) := by
  rw [Follows, step, h]
  rfl

theorem follows_look {f : State → α} {g : State → Except Fault α} (h : g s = .ok (f s)) :
    Follows s (Eval.read f) (look g) := by
  rw [Follows, look, step, h]
  rfl

theorem follows_change {f : State → State} {g : State → Except Fault State} (h : g s = .ok (f s)) :
    Follows s (Eval.modify f) (change g) := by
  rw [Follows, change, step, h]
  rfl

/-- Looking something up changes nothing. -/
theorem follows_looked {g : State → Except Fault α} {a : α} {x : Eval β} {k : α → Run β}
    (h : g s = .ok a) (hk : Follows s x (k a)) : Follows s x (look g >>= k) := by
  have looked : (look g >>= k) s = k a s := by
    change Comp.bind (look g s) _ = _
    rw [look, step, h]
    rfl
  rw [Follows, looked]
  exact hk

/-- What is looked up is at hand in the state it is looked up in. -/
theorem follows_look_bind {f : State → α} {g : State → Except Fault α} {k : α → Eval β}
    {k' : α → Run β} (h : g s = .ok (f s)) (hk : Follows s (k (f s)) (k' (f s))) :
    Follows s (Eval.read f >>= k) (look g >>= k') :=
  follows_looked (x := Eval.read f >>= k) h hk

theorem follows_lift_read_bind {f : State → α} {k : α → Eval β} {k' : α → Run β}
    (hk : Follows s (k (f s)) (k' (f s))) :
    Follows s (Eval.read f >>= k) (lift (Eval.read f) >>= k') :=
  hk

theorem follows_lift_state_bind {k : State → Eval β} {k' : State → Run β}
    (hk : Follows s (k s) (k' s)) : Follows s (Eval.state >>= k) (lift Eval.state >>= k') :=
  hk

theorem follows_state_bind {k : State → Eval β} {y : Run β} (hk : Follows s (k s) y) :
    Follows s (Eval.state >>= k) y := hk

theorem follows_nested {x : Eval α} {y : Run α}
    (h : Follows { s with depth := s.depth + 1 } x y) :
    Follows s (Eval.nested x) (nested y) := by
  rw [Follows, Eval.nested, nested]
  split
  · rfl
  · exact Agrees.after h fun _ _ => rfl

/-! ## Answers -/

/-- How a run without checks reads as a checked one. -/
def unfaulted (p : Outcome α × State) : Except Fault (Outcome α) × State := (.ok p.1, p.2)

/-- Computations that agree run alike if their tasks are answered alike. -/
theorem Agrees.run_eq {Q : Outcome α → State → Prop}
    {c : Comp State Task (Outcome Flow) (Outcome α)}
    {d : Comp State Task (Except Fault (Outcome Flow)) (Except Fault (Outcome α))}
    {answer : Task → State → Option (Outcome Flow × State)}
    {answer' : Task → State → Option (Except Fault (Outcome Flow) × State)}
    (h : Agrees C c d) (hc : c.Meets C Q)
    (hp : ∀ t s p, C.pre t s → answer t s = some p → C.post t s p.1 p.2)
    (ha : ∀ t s, C.pre t s → answer' t s = (answer t s).map unfaulted) :
    d.run answer' = (c.run answer).map unfaulted := by
  induction c generalizing d with
  | done r s =>
    obtain rfl := h
    rfl
  | ask t s k ih =>
    obtain ⟨k', rfl, hk⟩ := h
    rw [Comp.run, Comp.run, ha t s hc.1]
    cases e : answer t s with
    | none => rfl
    | some p =>
      have post := hp t s p hc.1 e
      exact ih p.1 p.2 (hk p.1 p.2 post) (hc.2 p.1 p.2 post)

/-- **Tasks that agree are answered alike.** -/
theorem answer_eq {perform : Task → Eval Flow} {perform' : Task → Run Flow}
    (hm : ∀ t s, C.pre t s → (perform t s).Meets C (C.post t s))
    (ha : ∀ t s, C.pre t s → Agrees C (perform t s) (perform' t s)) (n : Nat) {t : Task} {s : State}
    (ht : C.pre t s) :
    Comp.answer perform' n t s = (Comp.answer perform n t s).map unfaulted := by
  -- Tasks of tasks are one level further down, where answers are alike by induction.
  induction n generalizing t s with
  | zero => rfl
  | succ n ih =>
    exact (ha t s ht).run_eq (hm t s ht) (fun _ _ _ => Comp.post_of_answer hm) fun _ _ => ih

end Checked

end OpenScript
