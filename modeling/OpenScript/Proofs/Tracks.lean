import OpenScript.Proofs.Alike
import OpenScript.Proofs.Calls
import OpenScript.Proofs.Ends

/-!
# Proofs/Tracks — one run under two limits

    limit n:   ask t s ──answer──▸ done r s              or  stack overflow
    limit m:   ask t s ──answer──▸ done r s

A computation under a limit tracks one under another if both ask for the same tasks in the same
states and end in the same way, up to the limits, as long as the first has not hit its own
(`Eval.Tracks`).  An evaluation that looks at nothing but names, values and methods and that checks
the limit only in calls does so for every higher limit (`Eval.Blind`).
-/

namespace OpenScript

/-- An outcome of a run that hit its limit. -/
def Overflowed {α : Type} (r : Outcome α) : Prop := ∃ limit, r = .error (.stackOverflow limit)

namespace Eval

variable {n m : Nat} {α β : Type}

/-- A computation that has hit its limit. -/
def Lost (n : Nat) (c : Comp State Task (Outcome Flow) (Outcome α)) : Prop :=
  ∃ r s, c = .done r s ∧ s.limit = n ∧ Overflowed r

/-- A computation under the limit `n` goes along with one under the limit `m`, unless it hits `n`;
an answer that has hit `n` ends it. -/
def Tracks (n m : Nat) :
    Comp State Task (Outcome Flow) (Outcome α) → Comp State Task (Outcome Flow) (Outcome α) → Prop
  | .done r s, c' => s.limit = n ∧ (Overflowed r ∨ c' = .done r (s.withLimit m))
  | .ask t s k, c' => s.limit = n ∧ ∃ k', c' = .ask t (s.withLimit m) k' ∧ ∀ r s', s'.limit = n →
    (Overflowed r → Lost n (k r s')) ∧
      (¬ Overflowed r → Tracks n m (k r s') (k' r (s'.withLimit m)))

theorem Lost.tracks {c c' : Comp State Task (Outcome Flow) (Outcome α)} (h : Lost n c) :
    Tracks n m c c' := by
  obtain ⟨r, s, rfl, hl, ho⟩ := h
  exact ⟨hl, .inl ho⟩

/-- **Computations that track each other do so when more follows.** -/
theorem Tracks.bind {c c' : Comp State Task (Outcome Flow) (Outcome α)}
    {next next' : Outcome α → State → Comp State Task (Outcome Flow) (Outcome β)}
    (h : Tracks n m c c') (ho : ∀ r s, s.limit = n → Overflowed r → Lost n (next r s))
    (hn : ∀ r s, s.limit = n → Tracks n m (next r s) (next' r (s.withLimit m))) :
    Tracks n m (c.bind next) (c'.bind next') := by
  induction c generalizing c' with
  | done r s =>
    obtain ⟨hl, hr | rfl⟩ := h
    · exact (ho r s hl hr).tracks
    · exact hn r s hl
  | ask t s k ih =>
    obtain ⟨hl, k', rfl, hk⟩ := h
    refine ⟨hl, _, rfl, fun r s' hl' => ⟨fun hr => ?_, fun hr => ?_⟩⟩
    · obtain ⟨r', s'', e, hl'', hr'⟩ := (hk r s' hl').1 hr
      change Lost n ((k r s').bind next)
      rw [e]
      exact ho r' s'' hl'' hr'
    · exact ih r s' ((hk r s' hl').2 hr)

/-! ## Runs -/

/-- How answers under the limit `n` go along with answers under the limit `m`. -/
def AnswersTrack (n m : Nat) (answer : Task → State → Option (Outcome Flow × State)) : Prop :=
  ∀ t s r s', s.limit = n → answer t s = some (r, s') →
    s'.limit = n ∧ (Overflowed r ∨ answer t (s.withLimit m) = some (r, s'.withLimit m))

theorem Tracks.run {answer : Task → State → Option (Outcome Flow × State)}
    (ha : AnswersTrack n m answer) {c c' : Comp State Task (Outcome Flow) (Outcome α)}
    (h : Tracks n m c c') {r : Outcome α} {s' : State} (hc : c.run answer = some (r, s')) :
    s'.limit = n ∧ (Overflowed r ∨ c'.run answer = some (r, s'.withLimit m)) := by
  induction c generalizing c' with
  | done r s =>
    obtain ⟨rfl, rfl⟩ := Prod.mk.inj (Option.some.inj hc)
    obtain ⟨hl, ho | rfl⟩ := h
    · exact ⟨hl, .inl ho⟩
    · exact ⟨hl, .inr rfl⟩
  | ask t s k ih =>
    obtain ⟨hl, k', rfl, hk⟩ := h
    obtain ⟨⟨q, s₁⟩, hq, hr⟩ := Option.bind_eq_some_iff.1 hc
    obtain ⟨hl₁, hq'⟩ := ha t s q s₁ hl hq
    by_cases ho : Overflowed q
    · obtain ⟨r', s₂, e, hl₂, ho'⟩ := (hk q s₁ hl₁).1 ho
      have hr : (k q s₁).run answer = some (r, s') := hr
      rw [e] at hr
      obtain ⟨rfl, rfl⟩ := Prod.mk.inj (Option.some.inj hr)
      exact ⟨hl₂, .inl ho'⟩
    · obtain ⟨hl', hr'⟩ := ih q s₁ ((hk q s₁ hl₁).2 ho) hr
      refine ⟨hl', hr'.imp_right fun hr' => ?_⟩
      refine Option.bind_eq_some_iff.2 ⟨(q, s₁.withLimit m), ?_, hr'⟩
      exact hq'.resolve_left ho

/-! ## Evaluations -/

/-- An evaluation under the limit `n` that goes along with itself under the limit `m`. -/
def Blind (n m : Nat) (x : Eval α) : Prop :=
  ∀ s, s.limit = n → Tracks n m (x s) (x (s.withLimit m))

theorem blind_pure {a : α} : Blind n m (pure a) := fun _ h => ⟨h, .inr rfl⟩

theorem blind_fail {e : RuntimeError} : Blind n m (fail e : Eval α) := fun _ h => ⟨h, .inr rfl⟩

theorem Blind.bind {x : Eval α} {f : α → Eval β} (hx : Blind n m x) (hf : ∀ a, Blind n m (f a)) :
    Blind n m (x >>= f) := by
  refine fun s hl => Tracks.bind (hx s hl) (fun r s' hl' ho => ?_) fun r s' hl' => ?_
  · obtain ⟨limit, rfl⟩ := ho
    exact ⟨_, _, rfl, hl', limit, rfl⟩
  · cases r with
    | error e => exact ⟨hl', .inr rfl⟩
    | ok a => exact hf a s' hl'

theorem blind_read {f : State → α} (hf : ∀ s, f (s.withLimit m) = f s) : Blind n m (read f) :=
  fun s h => ⟨h, .inr (by rw [read, hf])⟩

/-- What depends on the state may do so as long as it does not depend on the limit. -/
theorem blind_state_bind {g : State → Eval β} (hg : ∀ s, g (s.withLimit m) = g s)
    (h : ∀ s, Blind n m (g s)) : Blind n m (state >>= g) := by
  intro s hl
  have same : (state >>= g) (s.withLimit m) = g s (s.withLimit m) := congrFun (hg s) _
  rw [same]
  exact h s s hl

/-- A change that commutes with a change of the limit keeps the limit. -/
theorem blind_update {f : State → α × State}
    (hf : ∀ s m, f (s.withLimit m) = ((f s).1, (f s).2.withLimit m)) : Blind n m (update f) := by
  intro s hl
  have kept : (f s).2.limit = s.limit := by
    have same : f s = ((f s).1, (f s).2.withLimit s.limit) := hf s s.limit
    rw [same]
    rfl
  exact ⟨kept.trans hl, .inr (by rw [update, hf])⟩

theorem blind_modify {f : State → State} (hf : ∀ s m, f (s.withLimit m) = (f s).withLimit m) :
    Blind n m (modify f) :=
  blind_update (f := fun s => ((), f s)) fun s m => by rw [hf]

theorem blind_ask {t : Task} : Blind n m (ask t) :=
  fun _ h => ⟨h, _, rfl, fun r s' h' => ⟨fun ho => ⟨r, s', rfl, h', ho⟩, fun _ => ⟨h', .inr rfl⟩⟩⟩

/-- **Only a call looks at the limit**, and under a higher one it does the same if it does not fail
under the lower. -/
theorem blind_nested (hnm : n ≤ m) {x : Eval α} (hx : Blind n m x) : Blind n m (nested x) := by
  intro s hl
  by_cases hd : n ≤ s.depth
  · have hlost : nested x s = .done (.error (.stackOverflow n)) s := by
      rw [nested, hl, if_pos hd]
    rw [hlost]
    exact ⟨hl, .inl ⟨n, rfl⟩⟩
  · have hlow : ¬ s.limit ≤ s.depth := hl ▸ hd
    have hhigh : ¬ (s.withLimit m).limit ≤ (s.withLimit m).depth :=
      fun h => hd (Nat.le_trans hnm h)
    rw [nested, nested, if_neg hlow, if_neg hhigh]
    refine Tracks.bind (hx { s with depth := s.depth + 1 } hl) (fun r s' hl' ho => ?_) ?_
    · exact ⟨_, _, rfl, hl', ho⟩
    · exact fun r s' hl' => ⟨hl', .inr rfl⟩

/-- **What ends under a limit without hitting it ends in the same way under a higher one.** -/
theorem Blind.ends {x : Eval α} (hp : ∀ t, Blind n m (Task.perform t)) (hx : Blind n m x)
    {s s' : State} {r : Outcome α} (hl : s.limit = n) (h : x.Ends s r s') (hr : ¬ Overflowed r) :
    s'.limit = n ∧ x.Ends (s.withLimit m) r (s'.withLimit m) := by
  have answers (fuel : Nat) : AnswersTrack n m (Comp.answer Task.perform fuel) := by
    induction fuel with
    | zero => exact fun _ _ _ _ _ h => absurd h nofun
    | succ fuel ih => exact fun t s _ _ hl h => (hp t s hl).run ih h
  obtain ⟨fuel, hfuel⟩ := ends_iff.1 h
  obtain ⟨hl', ho | h'⟩ := (hx s hl).run (answers fuel) hfuel
  · exact absurd ho hr
  · exact ⟨hl', ends_iff.2 ⟨fuel, h'⟩⟩

end Eval

end OpenScript
