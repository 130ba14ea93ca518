import OpenScript.Eval.Node
import OpenScript.Proofs.Contract

/-!
# Proofs/Ends — evaluations that end

    x >>= f  ends  ⟺  x ends in s₁ and f from there, or x fails

An evaluation ends with an outcome in a state if it does so after some number of steps.  Counting
levels of nesting instead of steps gives the same ends (`Eval.ends_iff`), so they can be taken apart
as evaluations are put together (`Eval.ends_bind_iff`), and contracts on tasks carry over to them.
-/

namespace OpenScript.Eval

variable {α : Type} {x : Eval α} {t : Task} {s s' : State}

/-- An evaluation ends with an outcome and leaves a state, after finitely many steps. -/
def Ends (x : Eval α) (s : State) (r : Outcome α) (s' : State) : Prop :=
  ∃ fuel, x.run fuel s = some (r, s')

/-- An evaluation comes to ask for a task in a state. -/
def Asks (x : Eval α) (s : State) (t : Task) (s' : State) : Prop :=
  (x s).Asks (fun t => (ask t).Ends) t s'

/-- An evaluation comes to a task in a state: it asks for it, or performing a task it came to
does. -/
inductive Comes (x : Eval α) (s : State) : Task → State → Prop where
  | asks {t : Task} {s' : State} (h : x.Asks s t s') : Comes x s t s'
  | within {t t' : Task} {s' s'' : State} (h : Comes x s t s') (ht : t.perform.Asks s' t' s'') :
    Comes x s t' s''

/-- **What ends ends at some depth of nesting.** -/
theorem ends_iff {r : Outcome α} :
    x.Ends s r s' ↔ ∃ n, (x s).run (Comp.answer Task.perform n) = some (r, s') :=
  Comp.exists_run_execute_iff

theorem ends_ask_iff {r : Outcome Flow} :
    (ask t).Ends s r s' ↔ ∃ n, Comp.answer Task.perform n t s = some (r, s') := by
  rw [ends_iff]
  refine exists_congr fun n => ?_
  rw [ask, Comp.run_ask]
  cases Comp.answer Task.perform n t s <;> rfl

/-- A run that comes to an end with some fuel ends, in whatever way it is seen to. -/
theorem exists_ends_of_run (fuel : Nat) (test : Outcome α → State → Bool)
    (h : (x.run fuel s).any (fun p => test p.1 p.2) = true) :
    ∃ r s', x.Ends s r s' ∧ test r s' = true := by
  obtain ⟨⟨r, s'⟩, hp, ht⟩ := (Option.any_eq_true _ _).1 h
  exact ⟨r, s', ⟨fuel, hp⟩, ht⟩

/-- **An evaluation ends in one way.** -/
theorem Ends.unique {out out' : Outcome α} {s₁ s₂ : State} (h : x.Ends s out s₁)
    (h' : x.Ends s out' s₂) : out' = out ∧ s₂ = s₁ := by
  obtain ⟨m, hm⟩ := ends_iff.1 h
  obtain ⟨n, hn⟩ := ends_iff.1 h'
  have one := Comp.run_mono (fun _ _ _ => Comp.answer_mono (Nat.le_max_left m n)) hm
  have other := Comp.run_mono (fun _ _ _ => Comp.answer_mono (Nat.le_max_right m n)) hn
  exact Prod.mk.inj (Option.some.inj (other.symm.trans one))

theorem Ends.iff_eq {out out' : Outcome α} {s₁ s₂ : State} (h : x.Ends s out s₁) :
    x.Ends s out' s₂ ↔ out' = out ∧ s₂ = s₁ := by
  constructor
  · exact h.unique
  · rintro ⟨rfl, rfl⟩
    exact h

/-! ## Sequences -/

variable {β : Type} {s₁ : State}

/-- What asks for nothing and has a result is followed by what that result leads to. -/
theorem bind_of_done {f : α → Eval β} {a : α} (h : x s = .done (.ok a) s₁) :
    (x >>= f) s = f a s₁ := by
  change (x s).bind _ = _
  rw [h]
  rfl

/-- What asks for nothing and fails is followed by nothing. -/
theorem bind_of_error {f : α → Eval β} {e : RuntimeError} (h : x s = .done (.error e) s₁) :
    (x >>= f) s = .done (.error e) s₁ := by
  change (x s).bind _ = _
  rw [h]
  rfl

theorem bind_assoc {γ : Type} (x : Eval α) (f : α → Eval β) (g : β → Eval γ) :
    x >>= f >>= g = x >>= fun a => f a >>= g := by
  funext s
  change ((x s).bind _).bind _ = (x s).bind _
  rw [Comp.bind_assoc]
  congr 1
  funext r s'
  cases r <;> rfl

theorem read_of_eq {g : State → α} {a : α} (h : g s = a) : read g s = .done (.ok a) s := by
  rw [read, h]

/-- Evaluations that go on alike end alike. -/
theorem ends_congr {y : Eval α} {r : Outcome α} (h : x s = y s₁) :
    x.Ends s r s' ↔ y.Ends s₁ r s' := by
  simp only [Ends, run, h]

/-- An evaluation that asks for nothing ends in the one way. -/
theorem ends_of_done {r r' : Outcome α} (h : x s = .done r s₁) :
    x.Ends s r' s' ↔ r' = r ∧ s' = s₁ := by
  simp only [Ends, run, h, Comp.run_done, Option.some.injEq, Prod.mk.injEq, exists_const]
  exact and_congr eq_comm eq_comm

/-- **Asking for a task is performing it.** -/
theorem ends_ask_iff_perform {r : Outcome Flow} :
    (ask t).Ends s r s' ↔ t.perform.Ends s r s' := by
  rw [ends_ask_iff, ends_iff]
  constructor
  · rintro ⟨n, hn⟩
    cases n with
    | zero => exact nomatch hn
    | succ n => exact ⟨n, hn⟩
  · rintro ⟨n, hn⟩
    exact ⟨n + 1, hn⟩

/-- A node ends as performing it does. -/
theorem ends_node_iff {n : Node} {f : FrameId} {r : Outcome Flow} :
    (node n f).Ends s r s' ↔ (performNode f n).Ends s r s' := ends_ask_iff_perform

theorem asks_ask_iff {t' : Task} : (ask t).Asks s t' s' ↔ t' = t ∧ s' = s := by
  constructor
  · intro h
    cases h with
    | now => exact ⟨rfl, rfl⟩
    | later _ rest => exact nomatch rest
  · rintro ⟨rfl, rfl⟩
    exact .now

/-- **A task whose performing asks for nothing comes to itself alone.** -/
theorem comes_ask_iff_of_done {t' : Task} {r : Outcome Flow} (h : t.perform s = .done r s₁) :
    (ask t).Comes s t' s' ↔ t' = t ∧ s' = s := by
  refine ⟨fun comes => ?_, fun same => .asks (asks_ask_iff.2 same)⟩
  induction comes with
  | asks asked => exact asks_ask_iff.1 asked
  | within _ asked ih =>
    obtain ⟨rfl, rfl⟩ := ih
    rw [Asks, h] at asked
    cases asked

/-- **One evaluation after another ends as the second does, or as the first does if that fails.** -/
theorem ends_bind_iff {f : α → Eval β} {r : Outcome β} :
    (x >>= f).Ends s r s' ↔
      (∃ a s₁, x.Ends s (.ok a) s₁ ∧ (f a).Ends s₁ r s') ∨
      ∃ e, x.Ends s (.error e) s' ∧ r = .error e := by
  simp only [ends_iff]
  constructor
  · rintro ⟨n, hn⟩
    have parts := (Comp.run_bind (Comp.answer Task.perform n) (x s) _).symm.trans hn
    obtain ⟨⟨first, s₁⟩, hx, hf⟩ := Option.bind_eq_some_iff.1 parts
    cases first with
    | ok a => exact .inl ⟨a, s₁, ⟨n, hx⟩, ⟨n, hf⟩⟩
    | error e =>
      obtain ⟨rfl, rfl⟩ := Prod.mk.inj (Option.some.inj hf)
      exact .inr ⟨e, ⟨n, hx⟩, rfl⟩
  · rintro (⟨a, s₁, ⟨m, hx⟩, ⟨n, hf⟩⟩ | ⟨e, ⟨n, hx⟩, rfl⟩)
    · have first := Comp.run_mono (fun _ _ _ => Comp.answer_mono (Nat.le_max_left m n)) hx
      have second := Comp.run_mono (fun _ _ _ => Comp.answer_mono (Nat.le_max_right m n)) hf
      refine ⟨max m n, (Comp.run_bind _ (x s) _).trans ?_⟩
      exact Option.bind_eq_some_iff.2 ⟨_, first, second⟩
    · exact ⟨n, (Comp.run_bind _ (x s) _).trans (Option.bind_eq_some_iff.2 ⟨_, hx, rfl⟩)⟩

/-- What follows an evaluation that has a result ends as it does from there. -/
theorem ends_bind_of_ends {f : α → Eval β} {a : α} {r : Outcome β} (h : x.Ends s (.ok a) s₁) :
    (x >>= f).Ends s r s' ↔ (f a).Ends s₁ r s' := by
  rw [ends_bind_iff]
  constructor
  · rintro (⟨a', s₂, h', rest⟩ | ⟨e, h', -⟩)
    · obtain ⟨same, rfl⟩ := h.unique h'
      exact Except.ok.inj same ▸ rest
    · exact nomatch (h.unique h').1
  · exact fun rest => .inl ⟨a, s₁, h, rest⟩

/-- Nothing follows an evaluation that fails. -/
theorem ends_bind_of_fails {f : α → Eval β} {e : RuntimeError} {r : Outcome β}
    (h : x.Ends s (.error e) s₁) : (x >>= f).Ends s r s' ↔ r = .error e ∧ s' = s₁ := by
  rw [ends_bind_iff]
  constructor
  · rintro (⟨a, s₂, h', -⟩ | ⟨e', h', rfl⟩)
    · exact nomatch (h.unique h').1
    · obtain ⟨same, rfl⟩ := h.unique h'
      exact ⟨congrArg _ (Except.error.inj same), rfl⟩
  · rintro ⟨rfl, rfl⟩
    exact .inr ⟨e, h, rfl⟩

/-- An evaluation ends with what it comes to if tasks end as they do. -/
theorem reaches_iff {c : Comp State Task (Outcome Flow) α} {a : α} :
    c.Reaches (fun t => (ask t).Ends) a s' ↔
      ∃ n, c.run (Comp.answer Task.perform n) = some (a, s') := by
  constructor
  · intro h
    induction h with
    | done => exact ⟨0, rfl⟩
    | ask answered _ ih =>
      obtain ⟨m, hm⟩ := ends_ask_iff.1 answered
      obtain ⟨n, hn⟩ := ih
      refine ⟨max m n, Option.bind_eq_some_iff.2 ⟨_, Comp.answer_mono (Nat.le_max_left m n) hm, ?_⟩⟩
      exact Comp.run_mono (fun _ _ _ => Comp.answer_mono (Nat.le_max_right m n)) hn
  · rintro ⟨n, hn⟩
    induction c with
    | done a s =>
      obtain ⟨rfl, rfl⟩ := Prod.mk.inj (Option.some.inj hn)
      exact .done
    | ask t s k ih =>
      obtain ⟨q, answered, rest⟩ := Option.bind_eq_some_iff.1 hn
      exact .ask (ends_ask_iff.2 ⟨n, answered⟩) (ih q.1 q.2 rest)

/-- **One evaluation after another asks for what the first asks for, and then for what the second
does.** -/
theorem asks_bind_iff {f : α → Eval β} :
    (x >>= f).Asks s t s' ↔
      x.Asks s t s' ∨ ∃ a s₁, x.Ends s (.ok a) s₁ ∧ (f a).Asks s₁ t s' := by
  change ((x s).bind _).Asks _ t s' ↔ _
  rw [Comp.asks_bind_iff]
  refine or_congr_right ⟨?_, ?_⟩
  · rintro ⟨r, s₁, reached, asks⟩
    cases r with
    | ok a => exact ⟨a, s₁, ends_iff.2 (reaches_iff.1 reached), asks⟩
    | error e => cases asks
  · rintro ⟨a, s₁, ends, asks⟩
    exact ⟨.ok a, s₁, reaches_iff.2 (ends_iff.1 ends), asks⟩

/-- What is made of a result alone does not change how an evaluation ends. -/
theorem ends_map_iff {g : α → β} {r : Outcome β} :
    (do let a ← x; return g a : Eval β).Ends s r s' ↔
      ∃ r₀, x.Ends s r₀ s' ∧ r = r₀.map g := by
  have made (a : α) {s₁ : State} : (Pure.pure (g a) : Eval β).Ends s₁ r s' ↔
    r = .ok (g a) ∧ s' = s₁ := ends_of_done rfl
  rw [ends_bind_iff]
  constructor
  · rintro (⟨a, s₁, hx, hg⟩ | ⟨e, hx, rfl⟩)
    · obtain ⟨rfl, rfl⟩ := (made a).1 hg
      exact ⟨.ok a, hx, rfl⟩
    · exact ⟨.error e, hx, rfl⟩
  · rintro ⟨r₀, hx, rfl⟩
    cases r₀ with
    | ok a => exact .inl ⟨a, s', hx, (made a).2 ⟨rfl, rfl⟩⟩
    | error e => exact .inr ⟨e, hx, rfl⟩

/-- The value of a node ends as the node does; a signal counts as its value. -/
theorem ends_value_iff {n : Node} {f : FrameId} {out : Outcome Value} :
    (value n f).Ends s out s' ↔ ∃ r, (node n f).Ends s r s' ∧ out = r.map Flow.value :=
  ends_map_iff

/-- What ends normally ends as the evaluation does. -/
theorem ends_normal_iff {x : Eval Value} {r : Outcome Flow} :
    (normal x).Ends s r s' ↔ ∃ out, x.Ends s out s' ∧ r = out.map Flow.normal :=
  ends_map_iff

/-- What is made of a result and ends normally ends as the evaluation does. -/
theorem ends_normal_map_iff {g : α → Value} {r : Outcome Flow} :
    (normal (do let a ← x; return g a)).Ends s r s' ↔
      ∃ r₀, x.Ends s r₀ s' ∧ r = r₀.map fun a => .normal (g a) := by
  rw [ends_normal_iff]
  simp only [ends_map_iff]
  constructor
  · rintro ⟨_, ⟨r₀, hr, rfl⟩, rfl⟩
    exact ⟨r₀, hr, by cases r₀ <;> rfl⟩
  · rintro ⟨r₀, hr, rfl⟩
    exact ⟨_, ⟨r₀, hr, rfl⟩, by cases r₀ <;> rfl⟩

/-- Where a level is left, what is nested ends as it does there. -/
theorem ends_nested_iff (hd : s.depth < s.limit) {out : Outcome α} :
    (nested x).Ends s out s' ↔ ∃ s₁, x.Ends { s with depth := s.depth + 1 } out s₁ ∧
      s' = { s₁ with depth := s₁.depth - 1 } := by
  have opened : nested x s = (x { s with depth := s.depth + 1 }).bind fun r s =>
      .done r { s with depth := s.depth - 1 } := if_neg (Nat.not_le_of_lt hd)
  simp only [ends_iff, opened, Comp.run_bind, Comp.run_done, Option.bind_eq_some_iff,
    Option.some.injEq, Prod.mk.injEq]
  constructor
  · rintro ⟨n, ⟨_, s₁⟩, hn, rfl, rfl⟩
    exact ⟨s₁, ⟨n, hn⟩, rfl⟩
  · rintro ⟨s₁, ⟨n, hn⟩, rfl⟩
    exact ⟨n, _, hn, rfl, rfl⟩

/-- Where no level is left, nothing can be nested. -/
theorem ends_nested_full_iff (hd : s.limit ≤ s.depth) {out : Outcome α} :
    (nested x).Ends s out s' ↔ out = .error (.stackOverflow s.limit) ∧ s' = s :=
  ends_of_done (if_pos hd)

/-! ## Contracts -/

/-- What performing tasks comes to if it keeps to a contract. -/
abbrev Contract := Comp.Contract State Task (Outcome Flow)

variable {C : Contract} {Q : Outcome α → State → Prop}

/-- **An evaluation that keeps to a contract ends in `Q`**, if tasks keep to it. -/
theorem post_of_ends (hp : ∀ t s, C.pre t s → (t.perform s).Meets C (C.post t s))
    (hx : (x s).Meets C Q) {r : Outcome α} (h : x.Ends s r s') : Q r s' := by
  obtain ⟨n, hn⟩ := ends_iff.1 h
  exact hx.post_of_run (fun _ _ _ => Comp.post_of_answer hp) hn

/-- An evaluation keeps to a contract that allows what it asks for and only answers that tasks end
with, and ends in what it ends in. -/
theorem meets_ends (asks : ∀ t s', x.Asks s t s' → C.pre t s')
    (there : ∀ t s r s', C.post t s r s' → (ask t).Ends s r s') :
    (x s).Meets C fun r s' => x.Ends s r s' :=
  Comp.meets_of_reaches there asks fun _ _ reached => ends_iff.2 (reaches_iff.1 reached)

/-- An evaluation that keeps to a contract asks only for what it allows, if tasks keep to it. -/
theorem pre_of_asks (hp : ∀ t s, C.pre t s → (t.perform s).Meets C (C.post t s))
    (hx : (x s).Meets C Q) (h : x.Asks s t s') : C.pre t s' := by
  refine hx.pre_of_asks (fun t s r s' ht hr => ?_) h
  obtain ⟨n, hn⟩ := ends_ask_iff.1 hr
  exact Comp.post_of_answer hp ht hn

end OpenScript.Eval
