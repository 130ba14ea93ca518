import OpenScript.Proofs.Ends

/-!
# Proofs/Loops — a loop is its iterations

    s ─test─▸ ─body─▸ s₁ ─test─▸ ─body─▸ ⋯ ─▸ sₙ      ─test fails─▸      the latest value
                                                      ─body returns─▸    that return

A loop runs rounds in which its condition holds and its body comes to an end or to a `next`
(`Eval.Rounds`), and is closed where they lead to by a condition that does not hold, by a `return`
or by an error (`Eval.Closes`).  It ends in exactly the ways in which some rounds can be closed
(`Eval.ends_loop_iff`), and evaluates nothing but what they consist of.
-/

namespace OpenScript

/-- The value of a flow that is not on its way out. -/
def Flow.normal? : Flow → Option Value
  | .normal v => some v
  | _ => none

namespace Eval

variable {α : Type} {condition : Node} {body : List Node} {f : FrameId} {s s' s₁ : State}
  {last : Value} {flows : List Flow} {r : Outcome Flow}

/-! ## Conditions -/

/-- A condition ends with a value that counts as true, or as false.  A signal counts as its
value. -/
def Tests (condition : Node) (f : FrameId) (s : State) (truth : Bool) (s' : State) : Prop :=
  ∃ flow, (node condition f).Ends s (.ok flow) s' ∧ s'.isTruthy flow.value = truth

theorem Tests.unique {t t' : Bool} {s₂ : State} (h : Tests condition f s t s₁)
    (h' : Tests condition f s t' s₂) : t' = t ∧ s₂ = s₁ := by
  obtain ⟨flow, ends, rfl⟩ := h
  obtain ⟨flow', ends', rfl⟩ := h'
  obtain ⟨e, rfl⟩ := ends.unique ends'
  obtain rfl := Except.ok.inj e
  exact ⟨rfl, rfl⟩

/-! ## Rounds -/

/-- Rounds of a loop one after another, each where the one before has led to: the condition holds
and the body ends with a flow, but not with a `return`. -/
inductive Rounds (condition : Node) (body : List Node) (f : FrameId) :
    State → List Flow → State → Prop where
  | nil (s : State) : Rounds condition body f s [] s
  | cons {s s₁ s₂ s' : State} {flow : Flow} {flows : List Flow}
    (holds : Tests condition f s true s₁) (run : (statements body f).Ends s₁ (.ok flow) s₂)
    (goes : ∀ v, flow ≠ .return v) (rest : Rounds condition body f s₂ flows s') :
    Rounds condition body f s (flow :: flows) s'

/-- The value of the latest body that ended normally, or else the one before all rounds. -/
def latest (last : Value) (flows : List Flow) : Value :=
  (flows.filterMap Flow.normal?).getLastD last

@[simp] theorem latest_cons (last : Value) (flow : Flow) (flows : List Flow) :
    latest last (flow :: flows) = latest (flow.normal?.getD last) flows := by
  cases flow with
  | normal v => exact List.getLastD_cons ..
  | skip | «return» v => rfl

/-- What closes a loop: after the last round the condition does not hold, or the body returns, or
one of them fails. -/
inductive Closes (condition : Node) (body : List Node) (f : FrameId) (last : Value) (s : State) :
    Outcome Flow → State → Prop where
  | stops {s' : State} (fails : Tests condition f s false s') :
    Closes condition body f last s (.ok (.normal last)) s'
  | returns {s₁ s' : State} {v : Value} (holds : Tests condition f s true s₁)
    (run : (statements body f).Ends s₁ (.ok (.return v)) s') :
    Closes condition body f last s (.ok (.return v)) s'
  | noTest {e : RuntimeError} {s' : State} (error : (node condition f).Ends s (.error e) s') :
    Closes condition body f last s (.error e) s'
  | noBody {e : RuntimeError} {s₁ s' : State} (holds : Tests condition f s true s₁)
    (error : (statements body f).Ends s₁ (.error e) s') :
    Closes condition body f last s (.error e) s'

/-- Some rounds, closed. -/
def Iterates (condition : Node) (body : List Node) (f : FrameId) (last : Value) (s : State)
    (r : Outcome Flow) (s' : State) : Prop :=
  ∃ flows s₁, Rounds condition body f s flows s₁ ∧
    Closes condition body f (latest last flows) s₁ r s'

theorem Closes.iterates (h : Closes condition body f last s r s') :
    Iterates condition body f last s r s' := ⟨[], s, .nil s, h⟩

theorem Iterates.round {flow : Flow} {s₂ : State} (holds : Tests condition f s true s₁)
    (run : (statements body f).Ends s₁ (.ok flow) s₂) (goes : ∀ v, flow ≠ .return v)
    (rest : Iterates condition body f (flow.normal?.getD last) s₂ r s') :
    Iterates condition body f last s r s' := by
  obtain ⟨flows, s₃, rounds, closes⟩ := rest
  exact ⟨flow :: flows, s₃, .cons holds run goes rounds, latest_cons last flow flows ▸ closes⟩

/-! ## One iteration -/

/-- What a loop does after a body. -/
def afterBody (condition : Node) (body : List Node) (f : FrameId) (last : Value) : Flow → Eval Flow
  | .normal v => ask (.loop condition body f v)
  | .skip => ask (.loop condition body f last)
  | .return v => return .return v

/-- What a loop does after its condition. -/
def afterTest (condition : Node) (body : List Node) (f : FrameId) (last v : Value) : Eval Flow := do
  if ← read (·.isTruthy v) then statements body f >>= afterBody condition body f last
  else return .normal last

theorem performLoop_eq :
    performLoop condition body f last = value condition f >>= afterTest condition body f last := rfl

theorem afterBody_of_ne_return {flow : Flow} (goes : ∀ v, flow ≠ .return v) :
    afterBody condition body f last flow
      = ask (.loop condition body f (flow.normal?.getD last)) := by
  cases flow with
  | normal | skip => rfl
  | «return» v => exact absurd rfl (goes v)

theorem afterTest_of_true {v : Value} (h : s.isTruthy v = true) :
    afterTest condition body f last v s
      = (statements body f >>= afterBody condition body f last) s := by
  rw [afterTest, bind_of_done (read_of_eq h)]
  rfl

theorem afterTest_of_false {v : Value} (h : s.isTruthy v = false) :
    afterTest condition body f last v s = .done (.ok (.normal last)) s := by
  rw [afterTest, bind_of_done (read_of_eq h)]
  rfl

/-- A loop whose condition ends goes on with what it decides. -/
theorem ends_loop_iff_of_ends {flow : Flow} (h : (node condition f).Ends s (.ok flow) s₁) :
    (ask (.loop condition body f last)).Ends s r s' ↔
      (afterTest condition body f last flow.value).Ends s₁ r s' := by
  have tested : (value condition f).Ends s (.ok flow.value) s₁ := ends_value_iff.2 ⟨_, h, rfl⟩
  rw [ends_ask_iff_perform, ← ends_bind_of_ends tested, ← performLoop_eq]
  rfl

theorem ends_loop_iff_of_holds (h : Tests condition f s true s₁) :
    (ask (.loop condition body f last)).Ends s r s' ↔
      (statements body f >>= afterBody condition body f last).Ends s₁ r s' := by
  obtain ⟨flow, ends, true⟩ := h
  rw [ends_loop_iff_of_ends ends, ends_congr (afterTest_of_true true)]

theorem ends_loop_of_closes (h : Closes condition body f last s r s') :
    (ask (.loop condition body f last)).Ends s r s' := by
  cases h with
  | stops fails =>
    obtain ⟨flow, ends, false⟩ := fails
    rw [ends_loop_iff_of_ends ends]
    exact (ends_of_done (afterTest_of_false false)).2 ⟨rfl, rfl⟩
  | returns holds run =>
    rw [ends_loop_iff_of_holds holds, ends_bind_of_ends run]
    exact (ends_of_done rfl).2 ⟨rfl, rfl⟩
  | noTest error =>
    have tested : (value condition f).Ends s (.error _) s' := ends_value_iff.2 ⟨_, error, rfl⟩
    rw [ends_ask_iff_perform]
    change (performLoop condition body f last).Ends s _ s'
    rw [performLoop_eq, ends_bind_of_fails tested]
    exact ⟨rfl, rfl⟩
  | noBody holds error =>
    rw [ends_loop_iff_of_holds holds, ends_bind_of_fails error]
    exact ⟨rfl, rfl⟩

/-- **A loop ends where some rounds are closed.** -/
theorem ends_loop_of_iterates (h : Iterates condition body f last s r s') :
    (ask (.loop condition body f last)).Ends s r s' := by
  obtain ⟨flows, s₁, rounds, closes⟩ := h
  induction rounds generalizing last with
  | nil => exact ends_loop_of_closes closes
  | cons holds run goes _ ih =>
    rw [ends_loop_iff_of_holds holds, ends_bind_of_ends run, afterBody_of_ne_return goes]
    exact ih (latest_cons .. ▸ closes)

/-! ## All iterations -/

/-- Loops end where some rounds are closed, and all other tasks as they end. -/
def iterating : Contract where
  pre _ _ := True
  post
    | .loop condition body f last, s, r, s' => Iterates condition body f last s r s'
    | t, s, r, s' => (ask t).Ends s r s'

theorem ends_of_iterating {t : Task} (h : iterating.post t s r s') : (ask t).Ends s r s' := by
  cases t with
  | node | send => exact h
  | loop => exact ends_loop_of_iterates h

theorem meets_iterating (x : Eval α) (s : State) :
    (x s).Meets iterating fun r s' => x.Ends s r s' :=
  meets_ends (fun _ _ _ => trivial) fun _ _ _ _ => ends_of_iterating

/-- An iteration is a round, or it closes the loop. -/
theorem meets_performLoop :
    (performLoop condition body f last s).Meets iterating (Iterates condition body f last s) := by
  rw [performLoop_eq]
  refine Comp.Meets.bind (meets_iterating (value condition f) s) fun out s₁ h => ?_
  obtain ⟨r, ends, rfl⟩ := ends_value_iff.1 h
  cases r with
  | error e => exact (Closes.noTest ends).iterates
  | ok tested =>
    cases truth : s₁.isTruthy tested.value with
    | false =>
      change (afterTest condition body f last tested.value s₁).Meets iterating _
      rw [afterTest_of_false truth]
      exact (Closes.stops ⟨tested, ends, truth⟩).iterates
    | true =>
      have holds : Tests condition f s true s₁ := ⟨tested, ends, truth⟩
      change (afterTest condition body f last tested.value s₁).Meets iterating _
      rw [afterTest_of_true truth]
      refine Comp.Meets.bind (meets_iterating (statements body f) s₁) fun r s₂ run => ?_
      cases r with
      | error e => exact (Closes.noBody holds run).iterates
      | ok flow =>
        cases flow with
        | normal v => exact ⟨trivial, fun r s' rest => .round holds run nofun rest⟩
        | skip => exact ⟨trivial, fun r s' rest => .round holds run nofun rest⟩
        | «return» v => exact (Closes.returns holds run).iterates

theorem meets_perform (t : Task) (s : State) :
    (t.perform s).Meets iterating (iterating.post t s) := by
  cases t with
  | loop => exact meets_performLoop
  | node n f =>
    exact (meets_iterating _ s).mono (fun _ _ => id) fun _ _ => ends_ask_iff_perform.2
  | send receiver name vs caller =>
    exact (meets_iterating _ s).mono (fun _ _ => id) fun _ _ => ends_ask_iff_perform.2

/-- **A loop is its rounds and what closes them.** -/
theorem ends_loop_iff :
    (ask (.loop condition body f last)).Ends s r s' ↔ Iterates condition body f last s r s' := by
  refine ⟨fun h => ?_, ends_loop_of_iterates⟩
  have asks : (ask (.loop condition body f last) s).Meets iterating
      (Iterates condition body f last s) := ⟨trivial, fun _ _ => id⟩
  exact post_of_ends (fun t s _ => meets_perform t s) asks h

/-! ## What is evaluated -/

theorem asks_value_iff {n : Node} {t : Task} :
    (value n f).Asks s t s' ↔ t = .node n f ∧ s' = s := by
  change (ask (.node n f) >>= fun flow => Pure.pure flow.value).Asks s t s' ↔ _
  rw [asks_bind_iff, asks_ask_iff]
  refine or_iff_left ?_
  rintro ⟨flow, s₁, -, asks⟩
  cases asks

theorem asks_afterBody_iff {flow : Flow} {t : Task} :
    (afterBody condition body f last flow).Asks s t s' ↔
      (∀ v, flow ≠ .return v) ∧ t = .loop condition body f (flow.normal?.getD last) ∧ s' = s := by
  by_cases goes : ∀ v, flow ≠ .return v
  · rw [afterBody_of_ne_return goes, asks_ask_iff, and_iff_right goes]
  · obtain ⟨v, rfl⟩ : ∃ v, flow = .return v := by simpa using goes
    refine iff_of_false (fun asks => ?_) fun h => goes h.1
    cases asks

/-- An iteration evaluates its condition and, where that holds, its body, and the loop goes on
unless the body returns. -/
theorem asks_performLoop_iff {t : Task} :
    (performLoop condition body f last).Asks s t s' ↔
      (t = .node condition f ∧ s' = s) ∨
      ∃ s₁, Tests condition f s true s₁ ∧ ((statements body f).Asks s₁ t s' ∨
        ∃ flow, (statements body f).Ends s₁ (.ok flow) s' ∧ (∀ v, flow ≠ .return v) ∧
          t = .loop condition body f (flow.normal?.getD last)) := by
  have after {s₁ : State} : (statements body f >>= afterBody condition body f last).Asks s₁ t s' ↔
      (statements body f).Asks s₁ t s' ∨
        ∃ flow, (statements body f).Ends s₁ (.ok flow) s' ∧ (∀ v, flow ≠ .return v) ∧
          t = .loop condition body f (flow.normal?.getD last) := by
    rw [asks_bind_iff]
    simp only [asks_afterBody_iff]
    refine or_congr_right ⟨?_, ?_⟩
    · rintro ⟨flow, _, run, goes, next, rfl⟩
      exact ⟨flow, run, goes, next⟩
    · rintro ⟨flow, run, goes, next⟩
      exact ⟨flow, s', run, goes, next, rfl⟩
  rw [performLoop_eq, asks_bind_iff, asks_value_iff]
  refine or_congr_right ⟨?_, ?_⟩
  · rintro ⟨v, s₁, tested, asks⟩
    obtain ⟨r, ends, out⟩ := ends_value_iff.1 tested
    cases r with
    | error e => cases out
    | ok flow =>
      obtain rfl := Except.ok.inj out
      rw [Asks] at asks
      cases truth : s₁.isTruthy flow.value with
      | false => rw [afterTest_of_false truth] at asks; cases asks
      | true =>
        rw [afterTest_of_true truth] at asks
        exact ⟨s₁, ⟨flow, ends, truth⟩, after.1 asks⟩
  · rintro ⟨s₁, ⟨flow, ends, truth⟩, asks⟩
    refine ⟨flow.value, s₁, ends_value_iff.2 ⟨_, ends, rfl⟩, ?_⟩
    rw [Asks, afterTest_of_true truth]
    exact after.2 asks

/-- **After a body that returns nothing is evaluated again.** -/
theorem asks_performLoop_iff_of_returns {s₂ : State} {v : Value}
    (holds : Tests condition f s true s₁) (run : (statements body f).Ends s₁ (.ok (.return v)) s₂)
    {t : Task} :
    (performLoop condition body f last).Asks s t s' ↔
      (t = .node condition f ∧ s' = s) ∨ (statements body f).Asks s₁ t s' := by
  rw [asks_performLoop_iff]
  refine or_congr_right ⟨?_, fun asks => ⟨s₁, holds, .inl asks⟩⟩
  rintro ⟨s₃, holds', asks | ⟨flow, run', goes, -⟩⟩
  · obtain ⟨-, rfl⟩ := holds.unique holds'
    exact asks
  · obtain ⟨-, rfl⟩ := holds.unique holds'
    exact absurd (Except.ok.inj (run.unique run').1) (goes v)

/-! ## Loops -/

theorem closes_ok_iff {flow : Flow} :
    Closes condition body f last s (.ok flow) s' ↔
      Tests condition f s false s' ∧ flow = .normal last ∨
      ∃ s₁ v, Tests condition f s true s₁ ∧ (statements body f).Ends s₁ (.ok (.return v)) s' ∧
        flow = .return v := by
  constructor
  · rintro (fails | ⟨holds, run⟩)
    · exact .inl ⟨fails, rfl⟩
    · exact .inr ⟨_, _, holds, run, rfl⟩
  · rintro (⟨fails, rfl⟩ | ⟨s₁, v, holds, run, rfl⟩)
    · exact .stops fails
    · exact .returns holds run

theorem closes_error_iff {e : RuntimeError} :
    Closes condition body f last s (.error e) s' ↔
      (node condition f).Ends s (.error e) s' ∨
      ∃ s₁, Tests condition f s true s₁ ∧ (statements body f).Ends s₁ (.error e) s' := by
  constructor
  · rintro (_ | _ | error | ⟨holds, error⟩)
    · exact .inl error
    · exact .inr ⟨_, holds, error⟩
  · rintro (error | ⟨s₁, holds, error⟩)
    · exact .noTest error
    · exact .noBody holds error

theorem ends_whileLoop_iff :
    (node (.whileLoop condition body) f).Ends s r s' ↔ Iterates condition body f .nil s r s' := by
  rw [ends_node_iff]
  exact ends_loop_iff

/-- **A loop means its iterations.**  It succeeds exactly if there are rounds, each from where the
one before has led to, after which the condition does not hold, which gives the value of the latest
body that ended normally, or the body returns, which is what the loop then ends with.  It fails
exactly if after some rounds the condition or the body does.  In every iteration the condition is
evaluated and, where it holds, the body, and where the body returns there is nothing else. -/
theorem ends_whileLoop (condition : Node) (body : List Node) (f : FrameId) (s : State) :
    (∀ flow s', (node (.whileLoop condition body) f).Ends s (.ok flow) s' ↔
      ∃ flows s₁, Rounds condition body f s flows s₁ ∧
        (Tests condition f s₁ false s' ∧ flow = .normal (latest .nil flows) ∨
          ∃ s₂ v, Tests condition f s₁ true s₂ ∧
            (statements body f).Ends s₂ (.ok (.return v)) s' ∧ flow = .return v)) ∧
    (∀ e s', (node (.whileLoop condition body) f).Ends s (.error e) s' ↔
      ∃ flows s₁, Rounds condition body f s flows s₁ ∧
        ((node condition f).Ends s₁ (.error e) s' ∨
          ∃ s₂, Tests condition f s₁ true s₂ ∧ (statements body f).Ends s₂ (.error e) s')) ∧
    ∀ s₁ s₂ s' v, Tests condition f s₁ true s₂ →
      (statements body f).Ends s₂ (.ok (.return v)) s' →
      ∀ last t s'', (Task.loop condition body f last).perform.Asks s₁ t s'' ↔
        (t = .node condition f ∧ s'' = s₁) ∨ (statements body f).Asks s₂ t s'' := by
  refine ⟨fun flow s' => ?_, fun e s' => ?_, fun s₁ s₂ s' v holds run last t s'' => ?_⟩
  · simp only [ends_whileLoop_iff, Iterates, closes_ok_iff]
  · simp only [ends_whileLoop_iff, Iterates, closes_error_iff]
  · exact asks_performLoop_iff_of_returns holds run

/-- Goes on once by a `next` and then returns. -/
def twoRounds : List Node :=
  [.ifElse (.getGlobal "$seen") [.return (some (.symbol "done"))] none, .setGlobal "$seen" .true,
    .next]

theorem ends_whileLoop_twoRounds : ∃ flows s₁ s₂ v s',
    (node (.whileLoop .true twoRounds) Core.root).Ends (State.initial 3) (.ok (.return v)) s' ∧
    Rounds .true twoRounds Core.root (State.initial 3) flows s₁ ∧
    Tests .true Core.root s₁ true s₂ ∧
    (statements twoRounds Core.root).Ends s₂ (.ok (.return v)) s' ∧
    ∀ last t s'', (Task.loop .true twoRounds Core.root last).perform.Asks s₁ t s'' ↔
      (t = .node .true Core.root ∧ s'' = s₁) ∨ (statements twoRounds Core.root).Asks s₂ t s'' := by
  let returns (r : Outcome Flow) : Bool := match r with
    | .ok (Flow.return _) => true
    | _ => false
  obtain ⟨r, s', h, ok⟩ : ∃ r s', (node (.whileLoop .true twoRounds) Core.root).Ends
      (State.initial 3) r s' ∧ returns r = true :=
    exists_ends_of_run 100 (fun r _ => returns r) (by decide +kernel)
  match r, ok with
  | .ok (.return v), _ =>
    obtain ⟨succeeds, -, again⟩ := ends_whileLoop .true twoRounds Core.root (State.initial 3)
    obtain ⟨flows, s₁, rounds, ⟨-, e⟩ | ⟨s₂, w, holds, run, e⟩⟩ := (succeeds _ _).1 h
    · cases e
    · cases e
      exact ⟨flows, s₁, s₂, v, s', h, rounds, holds, run, again s₁ s₂ s' v holds run⟩

end Eval

end OpenScript
