import OpenScript.Core
import OpenScript.Proofs.Ends

/-!
# Proofs/Signals — where a `next` or a `return` can come from

    next ─▸ block, if, else                 stops at a loop, a call, an operand
    return ─▸ block, if, else, while        stops at a call, an operand

A node ends with a signal only if it is that signal or stands for statements one of which does
(`Node.Signals`).  Everything else ends through `Eval.normal`, whatever it runs, so no signal
crosses a call, a class body, a namespace body or an operand (`Eval.signs_perform`).
-/

namespace OpenScript

/-- What sets the flows on their way out apart. -/
inductive Signal where
  | next
  | return

/-- The signal that a flow carries. -/
def Flow.signal? : Flow → Option Signal
  | .normal _ => none
  | .return _ => some .return
  | .skip => some .next

namespace Node

/-- A signal stands in a node where statements stand: behind blocks, branches and, if it is a
`return`, loop bodies, but behind nothing else. -/
inductive Signals : Node → Signal → Prop where
  | next : Signals .next .next
  | return {value : Option Node} : Signals (.return value) .return
  | block {k : Signal} {n : Node} {body : List Node} (hn : n ∈ body) (h : Signals n k) :
    Signals (.block body) k
  | body {k : Signal} {n condition : Node} {body : List Node} {otherwise : Option Node}
    (hn : n ∈ body) (h : Signals n k) : Signals (.ifElse condition body otherwise) k
  | otherwise {k : Signal} {n condition : Node} {body : List Node} (h : Signals n k) :
    Signals (.ifElse condition body (some n)) k
  | loop {n condition : Node} {body : List Node} (hn : n ∈ body) (h : Signals n .return) :
    Signals (.whileLoop condition body) .return

/-- Whether a node stands for statements or is a signal; the others are expressions and
definitions. -/
def IsStatement : Node → Prop
  | .ifElse .. | .whileLoop .. | .block _ | .return _ | .next => True
  | _ => False

theorem Signals.isStatement {k : Signal} {n : Node} (h : n.Signals k) : n.IsStatement := by
  cases h <;> trivial

end Node

/-- The signals that a task may end with. -/
def Task.Signals : Task → Signal → Prop
  | .node n _, k => n.Signals k
  | .loop _ body _ _, k => k = .return ∧ ∃ n ∈ body, n.Signals .return
  | .send .., _ => False

namespace Eval

/-! ## What evaluation ends with -/

/-- An outcome carries only the signals in `P`. -/
def Carries (P : Signal → Prop) (r : Outcome Flow) : Prop :=
  ∀ flow k, r = .ok flow → flow.signal? = some k → P k

/-- Tasks may be asked for anywhere and end only with the signals in them. -/
def signalling : Contract where
  pre _ _ := True
  post t _ r _ := Carries t.Signals r

/-- An evaluation ends only with the signals in `P` if tasks end only with those in them. -/
def Signs (P : Signal → Prop) (x : Eval Flow) : Prop :=
  ∀ s, (x s).Meets signalling fun r _ => Carries P r

variable {α : Type} {P R : Signal → Prop}

theorem signs_pure {flow : Flow} (h : ∀ k, flow.signal? = some k → P k) : Signs P (pure flow) := by
  intro s flow' k e
  obtain rfl := Except.ok.inj e
  exact h k

theorem signs_ask {t : Task} (h : ∀ k, t.Signals k → P k) : Signs P (ask t) :=
  fun _ => ⟨trivial, fun _ _ hr flow k e hk => h k (hr flow k e hk)⟩

/-- What evaluation that ends in a flow is followed by may use the signals it ends with. -/
theorem Signs.bind {x : Eval Flow} {f : Flow → Eval Flow} (hx : Signs P x)
    (hf : ∀ flow, (∀ k, flow.signal? = some k → P k) → Signs R (f flow)) : Signs R (x >>= f) := by
  intro s
  refine Comp.Meets.bind (hx s) fun r s' hr => ?_
  cases r with
  | error e => exact fun _ _ e => absurd e nofun
  | ok flow => exact hf flow (fun k => hr flow k rfl) s'

theorem meets_signalling (c : Comp State Task (Outcome Flow) α) :
    c.Meets signalling fun _ _ => True := by
  induction c with
  | done a s => trivial
  | ask t s k ih => exact ⟨trivial, fun r s' _ => ih r s'⟩

/-- Only the last evaluation counts. -/
theorem signs_after {x : Eval α} {f : α → Eval Flow} (hf : ∀ a, Signs P (f a)) :
    Signs P (x >>= f) := by
  intro s
  refine Comp.Meets.bind (meets_signalling (x s)) fun r s' _ => ?_
  cases r with
  | error e => exact fun _ _ e => absurd e nofun
  | ok a => exact hf a s'

/-- **What ends normally carries no signal**, whatever it ran. -/
theorem signs_normal {x : Eval Value} : Signs P (normal x) :=
  signs_after fun _ => signs_pure nofun

theorem signs_statementsFrom {f : FrameId} {ns : List Node} {last : Value} :
    Signs (fun k => ∃ n ∈ ns, n.Signals k) (statementsFrom f last ns) := by
  induction ns generalizing last with
  | nil => exact signs_pure nofun
  | cons n ns ih =>
    have first : Signs n.Signals (node n f) := signs_ask fun _ => id
    refine first.bind fun flow hs => ?_
    have here (k) (hk : flow.signal? = some k) : ∃ m ∈ n :: ns, m.Signals k :=
      ⟨n, List.mem_cons_self, hs k hk⟩
    cases flow with
    | normal v =>
      refine fun s => Comp.Meets.mono (ih s) (fun _ _ => id) fun r _ hr flow k e hk => ?_
      obtain ⟨m, hm, hmk⟩ := hr flow k e hk
      exact ⟨m, List.mem_cons_of_mem n hm, hmk⟩
    | «return» v => exact signs_pure here
    | skip => exact signs_pure here

theorem signs_statements {f : FrameId} {ns : List Node} (h : ∀ n ∈ ns, ∀ k, n.Signals k → P k) :
    Signs P (statements ns f) := by
  refine fun s => Comp.Meets.mono (signs_statementsFrom s) (fun _ _ => id) ?_
  intro r _ hr flow k e hk
  obtain ⟨n, hn, hnk⟩ := hr flow k e hk
  exact h n hn k hnk

/-! ## What tasks end with -/

theorem signs_performNode (f : FrameId) (n : Node) : Signs n.Signals (performNode f n) := by
  cases n with
  | true | false | nil => exact signs_pure nofun
  | self => exact signs_after fun _ => signs_pure nofun
  | ifElse condition body otherwise =>
    refine signs_after fun v => signs_after fun b => ?_
    split
    · exact signs_statements fun n hn k h => .body hn h
    · cases otherwise with
      | some n => exact signs_ask fun k h => .otherwise h
      | none => exact signs_pure nofun
  | whileLoop condition body =>
    refine signs_ask fun k h => ?_
    obtain ⟨rfl, n, hn, h⟩ := h
    exact .loop hn h
  | block body => exact signs_statements fun n hn k h => .block hn h
  | «return» value =>
    cases value with
    | none => exact signs_pure fun | _, rfl => .return
    | some n => exact signs_after fun v => signs_pure fun | _, rfl => .return
  | next => exact signs_pure fun | _, rfl => .next
  | _ => exact signs_normal

/-- A loop absorbs every `next`. -/
theorem signs_performLoop {condition : Node} {body : List Node} {f : FrameId} {last : Value} :
    Signs (fun k => k = .return ∧ ∃ n ∈ body, n.Signals .return)
      (performLoop condition body f last) := by
  refine signs_after fun v => signs_after fun b => ?_
  split
  · have run : Signs (fun k => ∃ n ∈ body, n.Signals k) (statements body f) :=
      signs_statements fun n hn k h => ⟨n, hn, h⟩
    refine run.bind fun flow hs => ?_
    cases flow with
    | normal v => exact signs_ask fun _ => id
    | skip => exact signs_ask fun _ => id
    | «return» v => exact signs_pure fun | _, rfl => ⟨rfl, hs .return rfl⟩
  · exact signs_pure nofun

theorem signs_perform (t : Task) : Signs t.Signals t.perform := by
  cases t with
  | node n f => exact signs_performNode f n
  | loop condition body f last => exact signs_performLoop
  | send receiver name vs caller => exact signs_normal

end Eval

/-! ## Signals -/

variable {n : Node} {f : FrameId} {s s' : State} {flow : Flow}

/-- **A node ends with a signal only if the signal stands in it where statements stand**, and all
expressions and definitions end normally or with an error. -/
theorem Node.signals_of_ends (h : (Eval.node n f).Ends s (.ok flow) s') :
    (flow = .skip → n.Signals .next) ∧ ((∃ v, flow = .return v) → n.Signals .return)
      ∧ (¬ n.IsStatement → ∃ v, flow = .normal v) := by
  have carries : Eval.Carries n.Signals (.ok flow) :=
    Eval.post_of_ends (fun t s _ => Eval.signs_perform t s)
      (Eval.signs_ask (t := .node n f) (fun _ => id) s) h
  have signals (k : Signal) (hk : flow.signal? = some k) : n.Signals k := carries flow k rfl hk
  refine ⟨?_, ?_, fun hn => ?_⟩
  · rintro rfl
    exact signals .next rfl
  · rintro ⟨v, rfl⟩
    exact signals .return rfl
  · cases flow with
    | normal v => exact ⟨v, rfl⟩
    | «return» v => exact absurd (signals .return rfl).isStatement hn
    | skip => exact absurd (signals .next rfl).isStatement hn

/-- A call of a method that ends with a `next`, and then a `return` in a branch. -/
def Node.returning : Node :=
  .block [.defineMethod "skip" [] [.next], .call none "skip" [],
    .ifElse .true [.return (some (.int 7))] none, .next]

/-- The `next` stays in the method, the `return` gets out. -/
theorem signals_of_ends_returning : ∃ v s',
    (Eval.node .returning Core.root).Ends (State.initial 3) (.ok (.return v)) s' ∧
    Node.returning.Signals .return := by
  let returns (r : Outcome Flow) : Bool := match r with
    | .ok (Flow.return _) => true
    | _ => false
  obtain ⟨r, s', h, ok⟩ : ∃ r s', (Eval.node .returning Core.root).Ends (State.initial 3) r s' ∧
      returns r = true :=
    Eval.exists_ends_of_run 100 (fun r _ => returns r) (by decide +kernel)
  match r, ok with
  | .ok (.return v), _ => exact ⟨v, s', h, (Node.signals_of_ends h).2.1 ⟨v, rfl⟩⟩

end OpenScript
