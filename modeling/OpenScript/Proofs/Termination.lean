import OpenScript.Host
import OpenScript.Proofs.Evaluation
import OpenScript.Proofs.Initial

/-!
# Proofs/Termination — code without loops ends under every limit

    (limit - depth, size) ──part──▸ (=, smaller)        ──call──▸ (less, any)

Performing a task asks for parts of its node at the same level of calls or for anything a level
deeper.  Only a loop asks for itself again, so where no code that can come to run has a loop, the
levels that are left and then the size of the node go down lexicographically
(`Discipline.below_of_loopFree`), and evaluation ends (`Discipline.Keeps.exists_ends`).
-/

namespace OpenScript

/-- Whether a node is a loop. -/
def Node.IsLoop : Node → Prop
  | .whileLoop _ _ => True
  | _ => False

/-- A node without loops, down to the bodies of its methods and lambdas. -/
abbrev Node.LoopFree : Node → Prop := Node.Everywhere fun n => ¬ n.IsLoop

/-- A state where no method and no lambda has a loop. -/
def State.LoopFree (s : State) : Prop := ∀ n, s.Holds (.code n) → n.LoopFree

theorem Node.LoopFree.not_whileLoop {condition : Node} {body : List Node} :
    ¬ (Node.whileLoop condition body).LoopFree := fun h => h.self trivial

/-! ## Progress -/

/-- How large the node of a task is; tasks that are no nodes weigh nothing. -/
noncomputable def Task.weight : Task → Nat
  | .node n _ => sizeOf n + 1
  | .loop .. | .send .. => 0

/-- How many levels of calls are left, and the weight of a task. -/
noncomputable def Task.rank (p : Task × State) : Nat × Nat := (p.2.limit - p.2.depth, p.1.weight)

/-- A task is below another if fewer levels of calls are left for it, or as many and it weighs
less. -/
def Task.Below : Task × State → Task × State → Prop := InvImage (Prod.Lex (· < ·) (· < ·)) Task.rank

theorem Task.wf_below : WellFounded Task.Below :=
  InvImage.wf Task.rank (Prod.lex Nat.lt_wfRel Nat.lt_wfRel).wf

theorem Task.below_of_deeper {t t' : Task} {s s' : State} (hl : s'.limit = s.limit)
    (hd : s.depth < s'.depth) (hle : s'.depth ≤ s.limit) : Task.Below (t', s') (t, s) :=
  Prod.Lex.left _ _ (by simp only; omega)

theorem Task.below_of_weight {t t' : Task} {s s' : State} (hl : s'.limit = s.limit)
    (hd : s'.depth = s.depth) (hw : t'.weight < t.weight) : Task.Below (t', s') (t, s) := by
  have left : s'.limit - s'.depth = s.limit - s.depth := by rw [hl, hd]
  exact Prod.lex_def.2 (.inr ⟨left, hw⟩)

/-! ## Disciplines that end -/

namespace Discipline

variable {D : Discipline} {here : Task → Prop} {s s' : State} {α : Type} {x : Eval α}
  {Q : α → State → Prop}

/-- **Evaluation that keeps to a discipline ends** if what is asked for under it is below what asks
in a well-founded order. -/
theorem Keeps.exists_ends {below : Task × State → Task × State → Prop} (wf : WellFounded below)
    (hb : ∀ {t s t' s'}, D.Admits s t → D.Admits s' t' → t'.Allowed (·.Under t) s.level s' →
      below (t', s') (t, s))
    (hx : D.Keeps here s x Q) : ∃ r s', x.Ends s r s' := by
  let C : Eval.Contract := D.contract fun _ _ => True
  have performs (t : Task) (s : State) (h : C.pre t s) :
      (t.perform s).Meets { C with pre := fun t' s' => C.pre t' s' ∧ below (t', s') (t, s) }
        (C.post t s) :=
    Comp.Meets.mono (C := D.contract (Task.Allowed (·.Under t) s.level)) (keeps_perform h.1 h.2.1)
      (fun t' s' h' => ⟨⟨h'.1, h'.2.1, trivial⟩, hb h.2.1 h'.2.1 h'.2.2⟩) fun _ _ => id
  have sound (n : Nat) (t : Task) (s : State) (q : Outcome Flow × State) (h : C.pre t s)
      (hq : Comp.answer Task.perform n t s = some q) : C.post t s q.1 q.2 :=
    Comp.post_of_answer meets_perform h hq
  have meets : (x s).Meets C fun r s' => D.Leads s s' ∧ ∀ a, r = .ok a → Q a s' :=
    Comp.Meets.mono hx (fun _ _ h => ⟨h.1, h.2.1, trivial⟩) fun _ _ => id
  obtain ⟨n, ⟨r, s'⟩, hp⟩ := meets.exists_run sound fun t s h => Comp.exists_answer wf performs h
  exact ⟨r, s', Eval.ends_iff.2 ⟨n, hp⟩⟩

/-- All code is without loops. -/
def loopFree : Discipline where
  inv _ := True
  has _
    | .code n => n.LoopFree
    | _ => True
  part h hm := h.part hm
  change _ _ _ := by
    refine ⟨trivial, fun _ => id, fun i hi => ?_⟩
    cases i with
    | code n => exact hi.elim
    | _ => trivial
  inv_depth _ := id
  has_depth _ := id

theorem fits_loopFree (h : s.LoopFree) : loopFree.Fits s := by
  refine ⟨trivial, fun {i} hi => ?_⟩
  cases i with
  | code n =>
    rcases hi with hi | hi
    · exact nomatch hi
    · exact h n hi
  | _ => trivial

/-- **Without loops all that is asked for is below what asks.** -/
theorem below_of_loopFree {t t' : Task} (h : loopFree.Admits s t) (h' : loopFree.Admits s' t')
    (ha : t'.Allowed (·.Under t) s.level s') : Task.Below (t', s') (t, s) := by
  obtain ⟨hl, ⟨hd, hu⟩ | ⟨hd, hle⟩⟩ := ha
  · refine Task.below_of_weight hl hd ?_
    cases hu with
    | part hm => exact Nat.succ_lt_succ (Node.sizeOf_lt_of_mem_parts hm)
    | loop => exact absurd h'.1 Node.LoopFree.not_whileLoop
    | condition | body | again => exact absurd h.1 Node.LoopFree.not_whileLoop
    | send => exact Nat.succ_pos _
  · exact Task.below_of_deeper hl hd hle

end Discipline

/-! ## Termination -/

namespace State.LoopFree

open Discipline

variable {s : State} {p : Program}

theorem keeps_statements (h : s.LoopFree) (hp : ∀ n ∈ p, n.LoopFree) (f : FrameId) :
    loopFree.Keeps (fun _ => True) s (Eval.statements p f)
      fun flow s' => loopFree.has s' (.value flow.value) :=
  Discipline.keeps_statements (fits_loopFree h) hp trivial fun _ _ => trivial

theorem keeps_call (h : s.LoopFree) (v : Value) (name : String) (vs : List Value) :
    loopFree.Yields (fun _ => True) s (Eval.call v name vs) :=
  keeps_send (fits_loopFree h) trivial (fun _ _ => trivial) trivial trivial

/-- Calls from the host end too. -/
theorem exists_ends_call (h : s.LoopFree) (v : Value) (name : String) (vs : List Value) :
    ∃ r s', (Eval.call v name vs).Ends s r s' :=
  (h.keeps_call v name vs).exists_ends Task.wf_below below_of_loopFree

/-- Code without loops leaves no loops behind. -/
theorem of_ends (h : s.LoopFree) (hp : ∀ n ∈ p, n.LoopFree) {f : FrameId} {r : Outcome Flow}
    {s' : State} (he : (Eval.statements p f).Ends s r s') : s'.LoopFree :=
  fun n hn => ((h.keeps_statements hp f).of_ends he).1.fits.has (i := .code n) (.inr hn)

end State.LoopFree

namespace Eval

/-- **Code without loops ends**, in every frame, under every limit and however deep calls are nested
already, where no method and no lambda has a loop. -/
theorem exists_ends_of_loopFree {s : State} {p : Program} (h : s.LoopFree)
    (hp : ∀ n ∈ p, n.LoopFree) (f : FrameId) : ∃ r s', (statements p f).Ends s r s' :=
  (h.keeps_statements hp f).exists_ends Task.wf_below Discipline.below_of_loopFree

/-- A method that does nothing but call itself, and a call of it. -/
def recursion : Program := [.defineMethod "again" [] [.call none "again" []], .call none "again" []]

/-- Recursion without an end of its own ends. -/
theorem exists_ends_recursion : (State.initial 3).LoopFree ∧ (∀ n ∈ recursion, n.LoopFree) ∧
    ∃ r s', (statements recursion Core.root).Ends (State.initial 3) r s' := by
  have empty : (State.initial 3).LoopFree := fun n hn => absurd hn State.not_holds_code_initial
  have call : (Node.call none "again" []).LoopFree := .intro id (List.forall_mem_nil _)
  have code : ∀ n ∈ recursion, n.LoopFree := by
    refine List.forall_mem_cons.2 ⟨.intro id ?_, ?_⟩
    · exact List.forall_mem_singleton.2 call
    · exact List.forall_mem_singleton.2 call
  exact ⟨empty, code, exists_ends_of_loopFree empty code Core.root⟩

end Eval

end OpenScript
