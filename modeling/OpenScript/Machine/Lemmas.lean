import OpenScript.Machine

/-!
# Machine/Lemmas — the two ways to spend fuel agree

    (perform t s) ──nest──▸ answer        (perform t s) ──stack──▸ execute

`Comp.bind` is associative and running a bound computation runs its parts (`run_bind`).  More fuel
keeps every answer (`answer_mono`, `execute_mono`), and a task has an answer by nesting exactly when
it has the same one by steps on a stack (`exists_execute_iff`).
-/

namespace OpenScript.Comp

variable {σ τ ρ α β γ : Type}

/-! ## Sequencing -/

@[simp] theorem bind_done (a : α) (s : σ) (next : α → σ → Comp σ τ ρ β) :
    (done a s).bind next = next a s := rfl

@[simp] theorem bind_ask (t : τ) (s : σ) (k : ρ → σ → Comp σ τ ρ α)
    (next : α → σ → Comp σ τ ρ β) :
    (ask t s k).bind next = ask t s fun r s' => (k r s').bind next := rfl

theorem bind_assoc (c : Comp σ τ ρ α) (f : α → σ → Comp σ τ ρ β) (g : β → σ → Comp σ τ ρ γ) :
    (c.bind f).bind g = c.bind fun a s => (f a s).bind g := by
  induction c with
  | done a s => rfl
  | ask t s k ih => exact congrArg (ask t s) (funext fun r => funext fun s' => ih r s')

theorem bind_done_right (c : Comp σ τ ρ α) : c.bind done = c := by
  induction c with
  | done a s => rfl
  | ask t s k ih => exact congrArg (ask t s) (funext fun r => funext fun s' => ih r s')

/-! ## Running -/

@[simp] theorem run_done (answer : τ → σ → Option (ρ × σ)) (a : α) (s : σ) :
    (done a s).run answer = some (a, s) := rfl

@[simp] theorem run_ask (answer : τ → σ → Option (ρ × σ)) (t : τ) (s : σ)
    (k : ρ → σ → Comp σ τ ρ α) :
    (ask t s k).run answer = (answer t s).bind fun p => (k p.1 p.2).run answer := rfl

/-- **A bound computation runs its parts in order.** -/
theorem run_bind (answer : τ → σ → Option (ρ × σ)) (c : Comp σ τ ρ α)
    (next : α → σ → Comp σ τ ρ β) :
    (c.bind next).run answer = (c.run answer).bind fun p => (next p.1 p.2).run answer := by
  induction c with
  | done a s => rfl
  | ask t s k ih =>
    rw [bind_ask, run_ask, run_ask, Option.bind_assoc]
    exact congrArg _ (funext fun p => ih p.1 p.2)

/-- A computation that ends still ends if more tasks have answers. -/
theorem run_mono {f g : τ → σ → Option (ρ × σ)}
    (h : ∀ t s r, f t s = some r → g t s = some r) {c : Comp σ τ ρ α} {p : α × σ}
    (hc : c.run f = some p) : c.run g = some p := by
  induction c with
  | done a s => exact hc
  | ask t s k ih =>
    obtain ⟨r, hr, hk⟩ := Option.bind_eq_some_iff.1 hc
    exact Option.bind_eq_some_iff.2 ⟨r, h t s r hr, ih r.1 r.2 hk⟩

/-! ## Fuel -/

variable {perform : τ → σ → Comp σ τ ρ ρ}

theorem answer_succ {fuel : Nat} {t : τ} {s : σ} {r : ρ × σ}
    (h : answer perform fuel t s = some r) : answer perform (fuel + 1) t s = some r := by
  induction fuel generalizing t s r with
  | zero => exact absurd h nofun
  | succ fuel ih => exact run_mono (fun _ _ _ => ih) h

/-- **More fuel keeps an answer.** -/
theorem answer_mono {m n : Nat} (hmn : m ≤ n) {t : τ} {s : σ} {r : ρ × σ}
    (h : answer perform m t s = some r) : answer perform n t s = some r := by
  induction hmn with
  | refl => exact h
  | step _ ih => exact answer_succ ih

theorem unwind_mono {m n : Nat} (hmn : m ≤ n) {c : Comp σ τ ρ ρ}
    {waiting : List (ρ → σ → Comp σ τ ρ ρ)} {r : ρ × σ}
    (h : unwind perform m c waiting = some r) : unwind perform n c waiting = some r := by
  induction m generalizing n c waiting with
  | zero => exact absurd h nofun
  | succ m ih =>
    match n, hmn with
    | n + 1, hmn =>
      have hmn := Nat.le_of_succ_le_succ hmn
      match c, waiting, h with
      | .done _ _, [], h => exact h
      | .done _ _, _ :: _, h => exact ih hmn h
      | .ask _ _ _, _, h => exact ih hmn h

/-- **More steps keep an answer.** -/
theorem execute_mono {m n : Nat} (hmn : m ≤ n) {t : τ} {s : σ} {r : ρ × σ}
    (h : execute perform m t s = some r) : execute perform n t s = some r := unwind_mono hmn h

/-! ## Agreement

A computation and those that wait for it are one computation, so what the stack holds can be read
back as nesting. -/

/-- A computation followed by those that wait for it. -/
def resumeAll (c : Comp σ τ ρ ρ) (waiting : List (ρ → σ → Comp σ τ ρ ρ)) : Comp σ τ ρ ρ :=
  waiting.foldl bind c

theorem resumeAll_bind (c : Comp σ τ ρ α) (k : α → σ → Comp σ τ ρ ρ)
    (waiting : List (ρ → σ → Comp σ τ ρ ρ)) :
    (c.bind k).resumeAll waiting = c.bind fun a s => (k a s).resumeAll waiting := by
  induction waiting generalizing k with
  | nil => rfl
  | cons k' waiting ih =>
    rw [resumeAll, List.foldl_cons, bind_assoc]
    exact ih _

/-- What ends on a stack ends by nesting. -/
theorem run_of_unwind {fuel : Nat} {c : Comp σ τ ρ ρ}
    {waiting : List (ρ → σ → Comp σ τ ρ ρ)} {r : ρ × σ}
    (h : unwind perform fuel c waiting = some r) :
    ∃ n, (c.resumeAll waiting).run (answer perform n) = some r := by
  fun_induction unwind perform fuel c waiting with
  | case1 => exact absurd h nofun
  | case2 => exact ⟨0, h⟩
  | case3 fuel a s k waiting ih => exact ih h
  | case4 fuel t s k waiting ih =>
    obtain ⟨n, hn⟩ := ih h
    have hn : (((perform t s).bind k).resumeAll waiting).run (answer perform n) = some r := hn
    rw [resumeAll_bind, run_bind] at hn
    obtain ⟨p, hp, hk⟩ := Option.bind_eq_some_iff.1 hn
    refine ⟨n + 1, ?_⟩
    rw [show ask t s k = (ask t s done).bind k from rfl, resumeAll_bind]
    exact Option.bind_eq_some_iff.2 ⟨p, hp, run_mono (fun _ _ _ => answer_succ) hk⟩

/-- What ends by nesting ends on a stack, and then what waits for it goes on. -/
theorem unwind_of_run {n : Nat} {c : Comp σ τ ρ ρ} {p : ρ × σ}
    (h : c.run (answer perform n) = some p) {fuel : Nat}
    {waiting : List (ρ → σ → Comp σ τ ρ ρ)} {r : ρ × σ}
    (hw : unwind perform fuel (done p.1 p.2) waiting = some r) :
    ∃ fuel', unwind perform fuel' c waiting = some r := by
  induction n generalizing c p fuel waiting with
  | zero =>
    cases c with
    | done a s =>
      obtain rfl := Option.some.inj h
      exact ⟨fuel, hw⟩
    | ask t s k => exact absurd h nofun
  | succ n ihn =>
    induction c generalizing p fuel waiting with
    | done a s =>
      obtain rfl := Option.some.inj h
      exact ⟨fuel, hw⟩
    | ask t s k ihc =>
      obtain ⟨q, hq, hk⟩ := Option.bind_eq_some_iff.1 h
      obtain ⟨f, hf⟩ := ihc q.1 q.2 hk hw
      have stacked : unwind perform (f + 1) (done q.1 q.2) (k :: waiting) = some r := hf
      obtain ⟨f', hf'⟩ := ihn hq stacked
      exact ⟨f' + 1, hf'⟩

/-- **A task has an answer on a stack exactly when it has the same one by nesting.** -/
theorem exists_execute_iff {t : τ} {s : σ} {r : ρ × σ} :
    (∃ fuel, execute perform fuel t s = some r) ↔ ∃ fuel, answer perform fuel t s = some r :=
  ⟨fun ⟨_, h⟩ => (run_of_unwind h).elim fun n hn => ⟨n + 1, hn⟩,
    fun
      | ⟨_ + 1, h⟩ =>
        have ended : unwind perform 1 (done r.1 r.2) [] = some r := rfl
        unwind_of_run h ended⟩

/-- If every answer of one family is one of another that grows, so is every end of a computation. -/
theorem run_of_answers {f g : Nat → τ → σ → Option (ρ × σ)}
    (hg : ∀ {m n}, m ≤ n → ∀ t s r, g m t s = some r → g n t s = some r)
    (h : ∀ t s r n, f n t s = some r → ∃ m, g m t s = some r) {c : Comp σ τ ρ α} {p : α × σ}
    {n : Nat} (hc : c.run (f n) = some p) : ∃ m, c.run (g m) = some p := by
  induction c with
  | done a s => exact ⟨0, hc⟩
  | ask t s k ih =>
    obtain ⟨q, hq, hk⟩ := Option.bind_eq_some_iff.1 hc
    obtain ⟨m, hm⟩ := h t s q n hq
    obtain ⟨m', hm'⟩ := ih q.1 q.2 hk
    exact ⟨max m m', Option.bind_eq_some_iff.2
      ⟨q, hg (Nat.le_max_left m m') t s q hm, run_mono (hg (Nat.le_max_right m m')) hm'⟩⟩

/-- **A computation ends on a stack exactly when it ends in the same way by nesting.** -/
theorem exists_run_execute_iff {c : Comp σ τ ρ α} {p : α × σ} :
    (∃ fuel, c.run (execute perform fuel) = some p)
      ↔ ∃ fuel, c.run (answer perform fuel) = some p :=
  ⟨fun ⟨_, h⟩ => run_of_answers (g := answer perform) (fun hmn _ _ _ => answer_mono hmn)
      (fun _ _ _ n hn => exists_execute_iff.1 ⟨n, hn⟩) h,
    fun ⟨_, h⟩ => run_of_answers (g := execute perform) (fun hmn _ _ _ => execute_mono hmn)
      (fun _ _ _ n hn => exists_execute_iff.2 ⟨n, hn⟩) h⟩

end OpenScript.Comp
