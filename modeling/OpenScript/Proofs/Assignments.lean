import OpenScript.Proofs.Constants
import OpenScript.Proofs.Extension

/-!
# Proofs/Assignments — what assigning a constant comes to

    K bound to w:   K = e   ──▸ w        e is not evaluated, nothing changes
    K not bound:    K = e   ──e ends with v──▸ v        K is bound to v, unless e has bound it

Whether a constant is bound is asked twice: before its expression is evaluated, which decides
whether it is, and after that, which decides whether the binding is made.  The expression runs in
the same frame and may bind the constant itself.  The assignment then makes no binding and still
gives the value of the expression (`Eval.ends_setConstant_rebound`).  In all other cases it gives
what the constant reads from then on.
-/

namespace OpenScript

namespace State

variable {s : State} {f : FrameId} {K : String} {v w : Value}

theorem defineConstant_of_bound (h : s.ownConstant? f K = some w) :
    s.defineConstant f K v = (false, s) :=
  if_pos (Std.TreeMap.contains_iff_mem.2 (Std.TreeMap.isSome_getElem?_iff_mem.1
    (Option.isSome_of_mem h)))

theorem defineConstant_of_free (h : s.ownConstant? f K = none) :
    s.defineConstant f K v = (true, s.bindConstant f K v) := by
  refine if_neg fun bound => ?_
  rw [Std.TreeMap.contains_iff_mem, ← Std.TreeMap.isSome_getElem?_iff_mem] at bound
  exact absurd bound (Option.not_isSome_iff_eq_none.2 h)

/-- **After a definition a constant reads what the first one gave it.** -/
theorem get_defineConstant (hs : Shape.of K = .constant) (hf : f < s.frames.size) :
    (s.defineConstant f K v).2.get f K = (s.ownConstant? f K).getD v := by
  cases own : s.ownConstant? f K with
  | none =>
    rw [defineConstant_of_free own]
    exact get_of_ownConstant? hs (ownConstant?_bindConstant_self hf)
  | some w =>
    rw [defineConstant_of_bound own]
    exact get_of_ownConstant? hs own

end State

namespace Eval

variable {s s' s₁ : State} {f : FrameId} {K : String} {v w : Value} {n : Node} {r : Outcome Flow}

/-- A frame is still there after an evaluation. -/
theorem lt_size_frames_of_ends {out : Outcome Value} (h : (value n f).Ends s out s')
    (hf : f < s.frames.size) : f < s'.frames.size := by
  have yields : (Discipline.extending s).Yields (fun _ => True) s (value n f) :=
    Discipline.yields_value (Discipline.fits_extending s) trivial trivial trivial
  have extends' : s.Extends s' := (yields.of_ends h).1.fits.inv
  exact Nat.lt_of_lt_of_le hf extends'.frames.size_le

/-! ## Assignments -/

/-- **Assigning a bound constant gives its value at once.** -/
theorem performNode_setConstant_of_bound (own : s.ownConstant? f K = some w) :
    performNode f (.setConstant K n) s = .done (.ok (.normal w)) s := by
  have found : read (·.ownConstant? f K) s = .done (.ok (some w)) s := read_of_eq own
  exact bind_of_done (bind_of_done found)

/-- Evaluates an expression and defines a constant to be its value. -/
def defining (f : FrameId) (K : String) (n : Node) : Eval Value := do
  let v ← value n f
  let _ ← update (·.defineConstant f K v)
  return v

theorem ends_defining_iff {out : Outcome Value} :
    (defining f K n).Ends s out s' ↔
      (∃ v s₁, (value n f).Ends s (.ok v) s₁ ∧ out = .ok v ∧ s' = (s₁.defineConstant f K v).2) ∨
      ∃ e, (value n f).Ends s (.error e) s' ∧ out = .error e := by
  have bound (v : Value) (s₁ : State) :
      (do let _ ← update (·.defineConstant f K v); return v : Eval Value).Ends s₁ out s' ↔
        out = .ok v ∧ s' = (s₁.defineConstant f K v).2 := ends_of_done rfl
  rw [defining, ends_bind_iff]
  simp only [bound]

/-- **Assigning a constant that is not bound evaluates the expression and defines it.** -/
theorem ends_setConstant_iff_of_free (own : s.ownConstant? f K = none) :
    (node (.setConstant K n) f).Ends s r s' ↔
      (∃ v s₁, (value n f).Ends s (.ok v) s₁ ∧ r = .ok (.normal v) ∧
        s' = (s₁.defineConstant f K v).2) ∨
      ∃ e, (value n f).Ends s (.error e) s' ∧ r = .error e := by
  have found : read (·.ownConstant? f K) s = .done (.ok none) s := read_of_eq own
  have opened : performNode f (.setConstant K n) s = normal (defining f K n) s := by
    change ((read (·.ownConstant? f K) >>= _) s).bind _ = _
    rw [bind_of_done found]
    rfl
  rw [ends_node_iff, ends_congr opened, ends_normal_iff]
  simp only [ends_defining_iff]
  constructor
  · rintro ⟨_, ⟨v, s₁, ends, rfl, rfl⟩ | ⟨e, ends, rfl⟩, rfl⟩
    · exact .inl ⟨v, s₁, ends, rfl, rfl⟩
    · exact .inr ⟨e, ends, rfl⟩
  · rintro (⟨v, s₁, ends, rfl, rfl⟩ | ⟨e, ends, rfl⟩)
    · exact ⟨.ok v, .inl ⟨v, s₁, ends, rfl, rfl⟩, rfl⟩
    · exact ⟨.error e, .inr ⟨e, ends, rfl⟩, rfl⟩

/-- **Assigning a constant gives what the constant reads, unless the expression binds it.**  Where
the frame binds the constant, the assignment ends with the value it is bound to, comes to no other
task and changes nothing.  Where it does not, an assignment that succeeds gives the value of its
expression.  The constant then reads that value, or else the expression has bound the constant
itself: then the constant reads what it was bound to and the state is the one that the expression
left. -/
theorem ends_setConstant (hs : Shape.of K = .constant) (hf : f < s.frames.size) (n : Node) :
    (∀ w, s.ownConstant? f K = some w → s.get f K = w ∧
      (∀ r s', (node (.setConstant K n) f).Ends s r s' ↔ r = .ok (.normal w) ∧ s' = s) ∧
      ∀ t s', (node (.setConstant K n) f).Comes s t s' ↔
        t = .node (.setConstant K n) f ∧ s' = s) ∧
    (s.ownConstant? f K = none → ∀ flow s',
      (node (.setConstant K n) f).Ends s (.ok flow) s' →
      ∃ v s₁, flow = .normal v ∧ (value n f).Ends s (.ok v) s₁ ∧
        (s₁.ownConstant? f K = none ∧ s' = s₁.bindConstant f K v ∧ s'.get f K = v ∨
          s₁.ownConstant? f K = some (s'.get f K) ∧ s' = s₁)) := by
  constructor
  · intro w own
    have done : (Task.node (.setConstant K n) f).perform s = .done (.ok (.normal w)) s :=
      performNode_setConstant_of_bound own
    refine ⟨State.get_of_ownConstant? hs own, fun r s' => ?_, fun t s' => ?_⟩
    · rw [ends_node_iff]
      exact ends_of_done done
    · exact comes_ask_iff_of_done done
  · intro own flow s' ends
    rcases (ends_setConstant_iff_of_free own).1 ends with ⟨v, s₁, run, e, rfl⟩ | ⟨e, -, failed⟩
    · obtain rfl := Except.ok.inj e
      have reads := State.get_defineConstant (v := v) hs (lt_size_frames_of_ends run hf)
      refine ⟨v, s₁, rfl, run, ?_⟩
      cases free : s₁.ownConstant? f K with
      | none =>
        rw [free] at reads
        exact .inl ⟨rfl, congrArg Prod.snd (State.defineConstant_of_free free), reads⟩
      | some w =>
        rw [free] at reads
        exact .inr ⟨congrArg some reads.symm,
          congrArg Prod.snd (State.defineConstant_of_bound free)⟩
    · exact nomatch failed

theorem eq_ok_of_toOption {α : Type} {r : Outcome α} {a : α} (h : r.toOption = some a) :
    r = .ok a := by
  cases r with
  | error e => cases h
  | ok b => exact congrArg Except.ok (Option.some.inj h)

/-- A constant that is assigned a text keeps it when it is assigned again, whatever is assigned. -/
theorem ends_setConstant_again : ∃ v s,
    (node (.setConstant "K" (.text "a")) Core.root).Ends (State.initial 5) (.ok (.normal v)) s ∧
    s.text? v = some "a" ∧ s.get Core.root "K" = v ∧
    ∀ r s', (node (.setConstant "K" (.call none "missing" [])) Core.root).Ends s r s' ↔
      r = .ok (.normal v) ∧ s' = s := by
  have shape : Shape.of "K" = .constant := by decide
  let v : Value := .object 3
  let binds (r : Outcome Flow) (s : State) : Bool :=
    decide (r.toOption = some (.normal v) ∧ s.text? v = some "a" ∧
      s.ownConstant? Core.root "K" = some v ∧ Core.root < s.frames.size)
  obtain ⟨r, s, ends, ok⟩ :=
    exists_ends_of_run (x := node (.setConstant "K" (.text "a")) Core.root) (s := State.initial 5)
      100 binds (by decide +kernel)
  obtain ⟨given, isA, own, there⟩ := of_decide_eq_true ok
  obtain rfl := eq_ok_of_toOption given
  obtain ⟨reads, again, -⟩ :=
    (ends_setConstant shape there (.call none "missing" [])).1 v own
  exact ⟨v, s, ends, isA, reads, again⟩

/-- Binds the constant that it is the value of. -/
def rebinding : Node := .block [.setConstant "K" (.int 1), .int 2]

/-- **An assignment whose expression binds the constant does not give what the constant reads.** -/
theorem ends_setConstant_rebound : ∃ v s, State.Reachable (State.initial 5) ∧
    Shape.of "K" = .constant ∧
    (node (.setConstant "K" rebinding) Core.root).Ends (State.initial 5) (.ok (.normal v)) s ∧
    s.int? v = some 2 ∧ s.int? (s.get Core.root "K") = some 1 ∧ s.get Core.root "K" ≠ v := by
  let v : Value := .object 4
  let differs (r : Outcome Flow) (s : State) : Bool :=
    decide (r.toOption = some (.normal v) ∧ s.int? v = some 2 ∧
      s.int? (s.get Core.root "K") = some 1)
  obtain ⟨r, s, ends, ok⟩ :=
    exists_ends_of_run (x := node (.setConstant "K" rebinding) Core.root) (s := State.initial 5)
      100 differs (by decide +kernel)
  obtain ⟨given, two, one⟩ := of_decide_eq_true ok
  obtain rfl := eq_ok_of_toOption given
  refine ⟨v, s, .fresh 5, by decide, ends, two, one, fun same => ?_⟩
  rw [same, two] at one
  exact absurd (Option.some.inj one) (by decide)

end Eval

end OpenScript
