import OpenScript.Machine.Lemmas

/-!
# Proofs/Contract — what holds of the answers of tasks

    perform t s ──asks what `pre` allows, ends in `post`──▸ every answer is in `post`

A contract says when a task may be asked for and what its answer then satisfies.  If performing a
task keeps to the contract while the tasks it asks for keep to it, all answers do
(`post_of_answer`).
If besides it asks only for tasks below itself in a well-founded order, there is an answer
(`exists_answer`).
-/

namespace OpenScript.Comp

variable {σ τ ρ α β : Type}

/-- When a task may be asked for, and what its answer then satisfies. -/
structure Contract (σ τ ρ : Type) where
  pre : τ → σ → Prop
  post : τ → σ → ρ → σ → Prop

/-- A computation asks only for what a contract allows and ends in `Q`, as long as answers satisfy
the contract. -/
def Meets (C : Contract σ τ ρ) (Q : α → σ → Prop) : Comp σ τ ρ α → Prop
  | .done a s => Q a s
  | .ask t s k => C.pre t s ∧ ∀ r s', C.post t s r s' → (k r s').Meets C Q

variable {C : Contract σ τ ρ} {Q : α → σ → Prop}

theorem Meets.bind {c : Comp σ τ ρ α} {next : α → σ → Comp σ τ ρ β} {R : β → σ → Prop}
    (h : c.Meets C Q) (hn : ∀ a s, Q a s → (next a s).Meets C R) : (c.bind next).Meets C R := by
  induction c with
  | done a s => exact hn a s h
  | ask t s k ih => exact ⟨h.1, fun r s' hr => ih r s' (h.2 r s' hr)⟩

/-- A computation that asks for less and ends in less keeps to a wider contract. -/
theorem Meets.mono {c : Comp σ τ ρ α} {pre : τ → σ → Prop} {R : α → σ → Prop}
    (h : c.Meets C Q) (hpre : ∀ t s, C.pre t s → pre t s) (hQ : ∀ a s, Q a s → R a s) :
    c.Meets { C with pre } R := by
  induction c with
  | done a s => exact hQ a s h
  | ask t s k ih => exact ⟨hpre t s h.1, fun r s' hr => ih r s' (h.2 r s' hr)⟩

/-! ## Answers -/

/-- A computation that keeps to a contract ends in `Q` if the answers it gets satisfy it. -/
theorem Meets.post_of_run {c : Comp σ τ ρ α} {answer : τ → σ → Option (ρ × σ)} {p : α × σ}
    (h : c.Meets C Q) (ha : ∀ t s q, C.pre t s → answer t s = some q → C.post t s q.1 q.2)
    (hc : c.run answer = some p) : Q p.1 p.2 := by
  induction c with
  | done a s =>
    obtain rfl := Option.some.inj hc
    exact h
  | ask t s k ih =>
    obtain ⟨q, hq, hk⟩ := Option.bind_eq_some_iff.1 hc
    exact ih q.1 q.2 (h.2 _ _ (ha t s q h.1 hq)) hk

variable {perform : τ → σ → Comp σ τ ρ ρ}

/-- **If performing tasks keeps to a contract, so do their answers.** -/
theorem post_of_answer (hp : ∀ t s, C.pre t s → (perform t s).Meets C (C.post t s)) {n : Nat}
    {t : τ} {s : σ} {p : ρ × σ} (ht : C.pre t s) (h : answer perform n t s = some p) :
    C.post t s p.1 p.2 := by
  induction n generalizing t s p with
  | zero => exact absurd h nofun
  | succ n ih => exact (hp t s ht).post_of_run (fun _ _ _ => ih) h

/-! ## Termination -/

/-- A computation that keeps to a contract ends if the tasks it asks for have answers. -/
theorem Meets.exists_run {c : Comp σ τ ρ α} (h : c.Meets C Q)
    (hp : ∀ n t s q, C.pre t s → answer perform n t s = some q → C.post t s q.1 q.2)
    (he : ∀ t s, C.pre t s → ∃ n q, answer perform n t s = some q) :
    ∃ n p, c.run (answer perform n) = some p := by
  induction c with
  | done a s => exact ⟨0, _, rfl⟩
  | ask t s k ih =>
    obtain ⟨m, q, hq⟩ := he t s h.1
    obtain ⟨n, p, hk⟩ := ih q.1 q.2 (h.2 _ _ (hp m t s q h.1 hq))
    refine ⟨max m n, p, Option.bind_eq_some_iff.2 ⟨q, answer_mono (Nat.le_max_left m n) hq, ?_⟩⟩
    exact run_mono (fun _ _ _ => answer_mono (Nat.le_max_right m n)) hk

/-- **If tasks ask only for tasks below them in a well-founded order, they have answers.** -/
theorem exists_answer {below : τ × σ → τ × σ → Prop} (wf : WellFounded below)
    (hp : ∀ t s, C.pre t s →
      (perform t s).Meets { C with pre := fun t' s' => C.pre t' s' ∧ below (t', s') (t, s) }
        (C.post t s))
    {t : τ} {s : σ} (ht : C.pre t s) : ∃ n p, answer perform n t s = some p := by
  have sound : ∀ n t s q, C.pre t s → answer perform n t s = some q → C.post t s q.1 q.2 :=
    fun _ _ _ _ => post_of_answer fun t s h => (hp t s h).mono (fun _ _ => And.left) fun _ _ => id
  suffices ∀ x : τ × σ, C.pre x.1 x.2 → ∃ n p, answer perform n x.1 x.2 = some p from this (t, s) ht
  intro x
  induction x using wf.induction with
  | _ x ih =>
    intro hx
    obtain ⟨n, p, h⟩ := (hp x.1 x.2 hx).exists_run (fun n t s q ht => sound n t s q ht.1)
      fun t s ht => ih (t, s) ht.2 ht.1
    exact ⟨n + 1, p, h⟩

/-! ## What is asked for -/

/-- A computation asks for a task in a state if it gets the answers there are. -/
inductive Asks (answers : τ → σ → ρ → σ → Prop) : Comp σ τ ρ α → τ → σ → Prop where
  | now {t s k} : Asks answers (.ask t s k) t s
  | later {t s k r s' t' s''} (h : answers t s r s') (hk : Asks answers (k r s') t' s'') :
    Asks answers (.ask t s k) t' s''

/-- A computation ends with a result in a state if it gets the answers there are. -/
inductive Reaches (answers : τ → σ → ρ → σ → Prop) : Comp σ τ ρ α → α → σ → Prop where
  | done {a s} : Reaches answers (.done a s) a s
  | ask {t s k r s' a s''} (h : answers t s r s') (hk : Reaches answers (k r s') a s'') :
    Reaches answers (.ask t s k) a s''

/-- What one computation after another asks for, the first does, or the second where the first
leads to. -/
theorem asks_bind_iff {answers : τ → σ → ρ → σ → Prop} {c : Comp σ τ ρ α}
    {next : α → σ → Comp σ τ ρ β} {t : τ} {s : σ} :
    (c.bind next).Asks answers t s ↔
      c.Asks answers t s ∨ ∃ a s', c.Reaches answers a s' ∧ (next a s').Asks answers t s := by
  induction c with
  | done a s₀ =>
    constructor
    · exact fun h => .inr ⟨a, s₀, .done, h⟩
    · rintro (h | ⟨a', s', reached, h⟩)
      · cases h
      · cases reached
        exact h
  | ask t₀ s₀ k ih =>
    constructor
    · intro h
      cases h with
      | now => exact .inl .now
      | later answered h =>
        rcases (ih _ _).1 h with h | ⟨a, s', reached, h⟩
        · exact .inl (.later answered h)
        · exact .inr ⟨a, s', .ask answered reached, h⟩
    · rintro (h | ⟨a, s', reached, h⟩)
      · cases h with
        | now => exact .now
        | later answered h => exact .later answered ((ih _ _).2 (.inl h))
      · cases reached with
        | ask answered reached => exact .later answered ((ih _ _).2 (.inr ⟨a, s', reached, h⟩))

/-- If all answers that a contract allows are there, what a computation asks for is allowed and it
ends in what it can end in. -/
theorem meets_of_reaches {answers : τ → σ → ρ → σ → Prop} {c : Comp σ τ ρ α}
    (there : ∀ t s r s', C.post t s r s' → answers t s r s')
    (asks : ∀ t s, c.Asks answers t s → C.pre t s) (ends : ∀ a s, c.Reaches answers a s → Q a s) :
    c.Meets C Q := by
  induction c with
  | done a s => exact ends a s .done
  | ask t s k ih =>
    refine ⟨asks t s .now, fun r s' hr => ?_⟩
    have answered := there t s r s' hr
    exact ih r s' (fun t s h => asks t s (.later answered h)) fun a s h => ends a s (.ask answered h)

/-- What a computation asks for is what its contract allows. -/
theorem Meets.pre_of_asks {answers : τ → σ → ρ → σ → Prop} {c : Comp σ τ ρ α} {t : τ} {s : σ}
    (h : c.Meets C Q) (ha : ∀ t s r s', C.pre t s → answers t s r s' → C.post t s r s')
    (hc : c.Asks answers t s) : C.pre t s := by
  induction hc with
  | now => exact h.1
  | later hr _ ih => exact ih (h.2 _ _ (ha _ _ _ _ h.1 hr))

end OpenScript.Comp
