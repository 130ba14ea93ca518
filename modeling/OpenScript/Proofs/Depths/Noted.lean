import OpenScript.Proofs.Super

/-!
# Proofs/Depths/Noted — evaluation that notes how deep it is

    evaluation ──notes──▸ the same, with every depth it sets        noted ──forget──▸ evaluation

Nothing but `Eval.nested` sets how many methods and lambdas are running, and only `applyClosure`
and `invoke` enter calls that way.  Noted evaluation does what evaluation does and writes down each
depth that is set there, in finished runs and in runs that are under way; what enters no call itself
is taken over as it is.  Without the notes it is evaluation: it ends the same way
(`Noted.Follows.ends_iff`) and comes to the same tasks (`Noted.Follows.comes`).
-/

namespace OpenScript

namespace Noted

variable {α β : Type}

/-- A state and the depths that were set on the way to it, the latest first. -/
abbrev Noting := State × List Nat

/-- An evaluation that notes the depths it sets. -/
def Run (α : Type) : Type := Noting → Comp Noting Task (Outcome Flow) (Outcome α)

namespace Run

/-- Ends with a result. -/
def pure (a : α) : Run α := fun p => .done (.ok a) p

/-- One evaluation after another; an error ends both. -/
def bind (x : Run α) (f : α → Run β) : Run β := fun p =>
  (x p).bind fun
    | .ok a, p => f a p
    | .error e, p => .done (.error e) p

instance : Monad Run where
  pure := Run.pure
  bind := Run.bind

end Run

/-- A computation that enters no call itself hands the notes on. -/
def liftComp (ds : List Nat) : Comp State Task (Outcome Flow) (Outcome α) →
    Comp Noting Task (Outcome Flow) (Outcome α)
  | .done r s => .done r (s, ds)
  | .ask t s k => .ask t (s, ds) fun r p => liftComp p.2 (k r p.1)

/-- An evaluation that enters no call itself. -/
def lift (x : Eval α) : Run α := fun p => liftComp p.2 (x p.1)

/-- Sets the depth and notes it. -/
def setDepth (d : Nat) (p : Noting) : Noting := ({ p.1 with depth := d }, d :: p.2)

/-- Runs a method or a lambda, unless too many are running already. -/
def nested (x : Run α) : Run α := fun p =>
  if p.1.limit ≤ p.1.depth then .done (.error (.stackOverflow p.1.limit)) p
  else (x (setDepth (p.1.depth + 1) p)).bind fun r p => .done r (setDepth (p.1.depth - 1) p)

/-! ## Calls -/

/-- Calls a lambda. -/
def applyClosure (c : Closure) (vs : List Value) : Run Value :=
  nested (lift do
    let f ← Eval.update (·.enterClosure c vs)
    return (← Eval.statements c.body f).value)

/-- Does what a built-in method does; only one of them enters a call itself. -/
def builtin (receiver : Value) (vs : List Value) (caller : FrameId) : Builtin → Run Value
  | .lambdaCall => do
    match ← lift (Eval.read (·.closure? receiver)) with
    | some c => applyClosure c vs
    | none => lift (Eval.failType "Lambda" receiver)
  | b => lift (b.run receiver vs caller)

/-- Does what a method does that is not written in the language. -/
def native (receiver : Value) (vs : List Value) (caller : FrameId) : Native → Run Value
  | .builtin b => builtin receiver vs caller b
  | n => lift (n.run receiver vs caller)

/-- Runs a method that was found in the class `owner`. -/
def invoke (receiver : Value) (owner : ClassId) (m : Method) (vs : List Value) (caller : FrameId) :
    Run Value :=
  nested <| match m.body with
    | .native n => native receiver vs caller n
    | .user params body => lift do
      let f ← Eval.update (·.enter receiver owner m.name params vs)
      return (← Eval.statements body f).value

/-- Calls the method that a receiver answers a name with. -/
def dispatch (receiver : Value) (name : String) (vs : List Value) (caller : FrameId) :
    Run Value := do
  match ← lift (Eval.read (·.methodOf? receiver name)) with
  | some (owner, m) => invoke receiver owner m vs caller
  | none => lift do Eval.fail (.noMethod (← Eval.read (·.classNameOf receiver)) name)

/-- Calls the method of a run as the parent of the class that defines it knows it. -/
def callParent (f : FrameId) (a : State.Activation) (vs : List Value) : Run Value := do
  let s ← lift Eval.state
  let parent := (s.classAt a.cls).parent
  match parent.bind (s.findMethod? · a.name) with
  | some (owner, m) => invoke a.receiver owner m vs f
  | none => lift (Eval.fail (.noMethod (s.classAt (parent.getD a.cls)).name a.name))

/-- Calls the running method as the parent of the class that defines it knows it. -/
def callSuper (f : FrameId) (given : Option (List Node)) : Run Value := do
  match ← lift (Eval.read (·.active? f)) with
  | none => lift do
    let self := (← Eval.read (·.frameAt f)).self
    Eval.fail (.noMethod (← Eval.read (·.classNameOf self)) "super")
  | some a => do
    let vs ← lift (Eval.superArguments f a given)
    callParent f a vs

/-- Ends normally with a value. -/
def normal (x : Run Value) : Run Flow := do return .normal (← x)

/-- What a task does; all but calls and `super` only ask for other tasks. -/
def perform : Task → Run Flow
  | .node (.super given) f => normal (callSuper f given)
  | .send receiver name vs caller => normal (dispatch receiver name vs caller)
  | t => lift t.perform

/-! ## Runs -/

/-- A noted evaluation ends with an outcome, a state and notes, after finitely many steps. -/
def Run.Ends (y : Run α) (p : Noting) (r : Outcome α) (p' : Noting) : Prop :=
  ∃ fuel, (y p).run (Comp.execute perform fuel) = some (r, p')

/-- Asks for a task. -/
def ask (t : Task) : Run Flow := lift (Eval.ask t)

/-- A noted evaluation comes to ask for a task. -/
def Run.Asks (y : Run α) (p : Noting) (t : Task) (p' : Noting) : Prop :=
  (y p).Asks (fun t => (ask t).Ends) t p'

/-- A noted evaluation comes to a task: it asks for it, or performing a task it came to does. -/
inductive Run.Comes (y : Run α) (p : Noting) : Task → Noting → Prop where
  | asks {t : Task} {p' : Noting} (h : y.Asks p t p') : Comes y p t p'
  | within {t t' : Task} {p' p'' : Noting} (h : Comes y p t p') (ht : (perform t).Asks p' t' p'') :
    Comes y p t' p''

theorem Run.ends_iff {y : Run α} {p p' : Noting} {r : Outcome α} :
    y.Ends p r p' ↔ ∃ n, (y p).run (Comp.answer perform n) = some (r, p') :=
  Comp.exists_run_execute_iff

/-! ## Forgetting the notes -/

/-- A noted computation asks for the same as one without notes and ends the same way. -/
def Agrees : Comp State Task (Outcome Flow) (Outcome α) →
    Comp Noting Task (Outcome Flow) (Outcome α) → Prop
  | .done r s, d => ∃ ds, d = .done r (s, ds)
  | .ask t s k, d => ∃ ds k', d = .ask t (s, ds) k' ∧ ∀ r s' ds', Agrees (k r s') (k' r (s', ds'))

theorem agrees_lift (c : Comp State Task (Outcome Flow) (Outcome α)) (ds : List Nat) :
    Agrees c (liftComp ds c) := by
  induction c generalizing ds with
  | done r s => exact ⟨ds, rfl⟩
  | ask t s k ih => exact ⟨ds, _, rfl, fun r s' ds' => ih r s' ds'⟩

theorem Agrees.bind {c : Comp State Task (Outcome Flow) (Outcome α)}
    {d : Comp Noting Task (Outcome Flow) (Outcome α)}
    {next : Outcome α → State → Comp State Task (Outcome Flow) (Outcome β)}
    {next' : Outcome α → Noting → Comp Noting Task (Outcome Flow) (Outcome β)} (h : Agrees c d)
    (hn : ∀ r s ds, Agrees (next r s) (next' r (s, ds))) : Agrees (c.bind next) (d.bind next') := by
  induction c generalizing d with
  | done r s =>
    obtain ⟨ds, rfl⟩ := h
    exact hn r s ds
  | ask t s k ih =>
    obtain ⟨ds, k', rfl, hk⟩ := h
    exact ⟨ds, _, rfl, fun r s' ds' => ih r s' (hk r s' ds')⟩

/-- Noted evaluation does as evaluation does, whatever has been noted already. -/
def Follows (x : Eval α) (y : Run α) : Prop := ∀ s ds, Agrees (x s) (y (s, ds))

variable {x : Eval α} {y : Run α}

theorem follows_lift : Follows x (lift x) := fun s ds => agrees_lift (x s) ds

/-- **One evaluation after another is followed if both are.** -/
theorem Follows.bind {f : α → Eval β} {g : α → Run β} (h : Follows x y)
    (hf : ∀ a, Follows (f a) (g a)) : Follows (x >>= f) (y >>= g) := by
  refine fun s ds => Agrees.bind (h s ds) fun r s' ds' => ?_
  cases r with
  | error e => exact ⟨ds', rfl⟩
  | ok a => exact hf a s' ds'

theorem follows_pure {a : α} : Follows (pure a) (pure a) := fun _ ds => ⟨ds, rfl⟩

theorem follows_nested (h : Follows x y) : Follows (Eval.nested x) (nested y) := by
  intro s ds
  rw [Eval.nested, nested]
  by_cases hlt : s.limit ≤ s.depth
  · rw [if_pos hlt, if_pos hlt]
    exact ⟨ds, rfl⟩
  · rw [if_neg hlt, if_neg hlt]
    exact Agrees.bind (h _ _) fun r s' ds' => ⟨_, rfl⟩

theorem follows_applyClosure (c : Closure) (vs : List Value) :
    Follows (Eval.applyClosure c vs) (applyClosure c vs) := follows_nested follows_lift

theorem follows_builtin (receiver : Value) (vs : List Value) (caller : FrameId) (b : Builtin) :
    Follows (b.run receiver vs caller) (builtin receiver vs caller b) := by
  cases b with
  | lambdaCall =>
    refine follows_lift.bind fun c? => ?_
    cases c? with
    | some c => exact follows_applyClosure c vs
    | none => exact follows_lift
  | _ => exact follows_lift

theorem follows_native (receiver : Value) (vs : List Value) (caller : FrameId) (n : Native) :
    Follows (n.run receiver vs caller) (native receiver vs caller n) := by
  cases n with
  | builtin b => exact follows_builtin receiver vs caller b
  | _ => exact follows_lift

theorem follows_invoke (receiver : Value) (owner : ClassId) (m : Method) (vs : List Value)
    (caller : FrameId) :
    Follows (Eval.invoke receiver owner m vs caller) (invoke receiver owner m vs caller) := by
  obtain ⟨name, body⟩ := m
  cases body with
  | native n => exact follows_nested (follows_native receiver vs caller n)
  | user params body => exact follows_nested follows_lift

theorem follows_dispatch (receiver : Value) (name : String) (vs : List Value) (caller : FrameId) :
    Follows (Eval.dispatch receiver name vs caller) (dispatch receiver name vs caller) := by
  refine follows_lift.bind fun found => ?_
  cases found with
  | some found => exact follows_invoke receiver found.1 found.2 vs caller
  | none => exact follows_lift

theorem follows_callParent (f : FrameId) (a : State.Activation) (vs : List Value) :
    Follows (Eval.callParent f a vs) (callParent f a vs) := by
  refine follows_lift.bind fun s => ?_
  dsimp only
  cases (s.classAt a.cls).parent.bind (s.findMethod? · a.name) with
  | some found => exact follows_invoke a.receiver found.1 found.2 vs f
  | none => exact follows_lift

theorem follows_callSuper (f : FrameId) (given : Option (List Node)) :
    Follows (Eval.callSuper f given) (callSuper f given) := by
  refine follows_lift.bind fun a? => ?_
  cases a? with
  | none => exact follows_lift
  | some a =>
    cases given with
    | none => exact follows_lift.bind fun vs => follows_callParent f a vs
    | some ns => exact follows_lift.bind fun vs => follows_callParent f a vs

theorem follows_normal {x : Eval Value} {y : Run Value} (h : Follows x y) :
    Follows (Eval.normal x) (normal y) := h.bind fun _ => follows_pure

/-- **Noted tasks do what tasks do.** -/
theorem follows_perform (t : Task) : Follows t.perform (perform t) := by
  cases t with
  | node n f =>
    cases n with
    | super given => exact follows_normal (follows_callSuper f given)
    | _ => exact follows_lift
  | loop => exact follows_lift
  | send receiver name vs caller =>
    exact follows_normal (follows_dispatch receiver name vs caller)

/-! ## Answers -/

/-- A result without the notes. -/
def forget (q : Outcome α × Noting) : Outcome α × State := (q.1, q.2.1)

theorem Agrees.run_eq {c : Comp State Task (Outcome Flow) (Outcome α)}
    {d : Comp Noting Task (Outcome Flow) (Outcome α)}
    {answer : Task → State → Option (Outcome Flow × State)}
    {answer' : Task → Noting → Option (Outcome Flow × Noting)} (h : Agrees c d)
    (ha : ∀ t s ds, (answer' t (s, ds)).map forget = answer t s) :
    (d.run answer').map forget = c.run answer := by
  induction c generalizing d with
  | done r s =>
    obtain ⟨ds, rfl⟩ := h
    rfl
  | ask t s k ih =>
    obtain ⟨ds, k', rfl, hk⟩ := h
    rw [Comp.run, Comp.run, ← ha t s ds]
    cases answer' t (s, ds) with
    | none => rfl
    | some q => exact ih q.1 q.2.1 (hk q.1 q.2.1 q.2.2)

/-- **Without the notes, tasks are answered alike.** -/
theorem answer_eq (n : Nat) (t : Task) (s : State) (ds : List Nat) :
    (Comp.answer perform n t (s, ds)).map forget = Comp.answer Task.perform n t s := by
  induction n generalizing t s ds with
  | zero => rfl
  | succ n ih => exact (follows_perform t s ds).run_eq ih

/-- **What is followed ends as it does without notes.** -/
theorem Follows.ends_iff (h : Follows x y) {s s' : State} {r : Outcome α} (ds : List Nat) :
    x.Ends s r s' ↔ ∃ ds', y.Ends (s, ds) r (s', ds') := by
  simp only [Eval.ends_iff, Run.ends_iff, ← (h s ds).run_eq (answer_eq _), Option.map_eq_some_iff]
  constructor
  · rintro ⟨n, ⟨r', s'', ds'⟩, ran, same⟩
    obtain ⟨rfl, rfl⟩ := Prod.mk.inj same
    exact ⟨ds', n, ran⟩
  · rintro ⟨ds', n, ran⟩
    exact ⟨n, _, ran, rfl⟩

theorem Agrees.asks {c : Comp State Task (Outcome Flow) (Outcome α)}
    {d : Comp Noting Task (Outcome Flow) (Outcome α)} {t : Task} {s : State} (h : Agrees c d)
    (hc : c.Asks (fun t => (Eval.ask t).Ends) t s) :
    ∃ ds, d.Asks (fun t => (ask t).Ends) t (s, ds) := by
  induction hc generalizing d with
  | now =>
    obtain ⟨ds, k', rfl, -⟩ := h
    exact ⟨ds, .now⟩
  | later hr _ ih =>
    obtain ⟨ds, k', rfl, hk⟩ := h
    obtain ⟨ds', hr'⟩ := (Follows.ends_iff follows_lift ds).1 hr
    obtain ⟨ds'', asks⟩ := ih (hk _ _ ds')
    exact ⟨ds'', .later hr' asks⟩

/-- **What is followed comes to the tasks it comes to without notes.** -/
theorem Follows.comes (h : Follows x y) {s s' : State} {t : Task} (ds : List Nat)
    (hc : x.Comes s t s') : ∃ ds', y.Comes (s, ds) t (s', ds') := by
  induction hc with
  | asks hc =>
    obtain ⟨ds', asks⟩ := (h s ds).asks hc
    exact ⟨ds', .asks asks⟩
  | within _ ht ih =>
    obtain ⟨ds', comes⟩ := ih
    obtain ⟨ds'', asks⟩ := (follows_perform _ _ ds').asks ht
    exact ⟨ds'', .within comes asks⟩

end Noted

end OpenScript
