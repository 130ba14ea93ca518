import Mathlib.Logic.Relation
import OpenScript.Host
import OpenScript.Proofs.Depths.Noted
import OpenScript.Proofs.Initial

/-!
# Proofs/Depths/Balanced — every call that is entered is left

    depth d ──call: d + 1 ≤ limit──▸ ⋯ ──value, signal or error──▸ depth d

Entering a call makes the depth one more, if it is below the limit, and leaving it one less,
however the call ends.  So what starts within the limit stays within it, never gets below the depth
it starts at and ends at that depth (`Noted.Balanced`).  A fresh interpreter is at depth 0 again
after whatever its host has done (`State.depth_balanced`).
-/

namespace OpenScript

namespace Discipline

/-- Everything may be handled in all states: all that is left to say of a run is how deep it is. -/
def free : Discipline where
  inv _ := True
  has _ _ := True
  part _ _ := trivial
  change _ _ _ := ⟨trivial, fun _ _ => trivial, fun _ _ => trivial⟩
  inv_depth _ _ := trivial
  has_depth _ _ := trivial

theorem fits_free (s : State) : free.Fits s := ⟨trivial, fun _ => trivial⟩

theorem admits_free (s : State) (t : Task) : free.Admits s t := by
  cases t with
  | node n f => exact ⟨trivial, trivial⟩
  | loop c body f v => exact ⟨trivial, trivial, trivial⟩
  | send v name vs caller => exact ⟨trivial, fun _ _ => trivial, trivial⟩

theorem leads_free {s s' : State} (h : s'.level = s.level) : free.Leads s s' :=
  ⟨fits_free s', fun _ => trivial, h⟩

/-- What keeps to a discipline runs, whatever it asks for and gives. -/
theorem Keeps.runs {D : Discipline} {here : Task → Prop} {s : State} {α : Type} {x : Eval α}
    {Q : α → State → Prop} (h : D.Keeps here s x Q) : D.Runs (fun _ => True) s x := by
  refine Comp.Meets.mono h (fun t s' pre => ?_) fun r s' post => ⟨post.1, fun _ _ => trivial⟩
  obtain ⟨fits, admits, limit, place⟩ := pre
  exact ⟨fits, admits, limit, place.imp_left (And.imp_right fun _ => trivial)⟩

end Discipline

open Discipline

namespace Noted

variable {α β : Type} {lo hi : Nat}

/-- The depth of a state and all that were noted are at least `lo` and at most the limit, `hi`. -/
structure InRange (lo hi : Nat) (p : Noting) : Prop where
  limit : p.1.limit = hi
  lower : lo ≤ p.1.depth
  upper : p.1.depth ≤ hi
  noted : ∀ d ∈ p.2, lo ≤ d ∧ d ≤ hi

theorem InRange.setDepth {p : Noting} (h : InRange lo hi p) {d : Nat} (hl : lo ≤ d) (hu : d ≤ hi) :
    InRange lo hi (setDepth d p) :=
  ⟨h.limit, hl, hu, List.forall_mem_cons.2 ⟨⟨hl, hu⟩, h.noted⟩⟩

/-- Tasks are asked for in range, and they end in range and at the depth they start at. -/
def contract (lo hi : Nat) : Comp.Contract Noting Task (Outcome Flow) where
  pre _ p := InRange lo hi p
  post _ p _ p' := InRange lo hi p' ∧ p'.1.depth = p.1.depth

/-- A noted evaluation that stays in range and ends at the depth it starts at. -/
def Balanced (lo hi : Nat) (y : Run α) : Prop :=
  ∀ p, InRange lo hi p →
    (y p).Meets (contract lo hi) fun _ p' => InRange lo hi p' ∧ p'.1.depth = p.1.depth

variable {x : Eval α} {y : Run α}

/-- **One evaluation after another is balanced if both are.** -/
theorem Balanced.bind {f : α → Run β} (h : Balanced lo hi y) (hf : ∀ a, Balanced lo hi (f a)) :
    Balanced lo hi (y >>= f) := by
  refine fun p hp => Comp.Meets.bind (h p hp) fun r p' hr => ?_
  cases r with
  | error e => exact hr
  | ok a =>
    refine (hf a p' hr.1).mono (fun _ _ => id) fun r p'' hr' => ?_
    exact ⟨hr'.1, hr'.2.trans hr.2⟩

theorem balanced_pure {a : α} : Balanced lo hi (pure a) := fun _ hp => ⟨hp, rfl⟩

/-- **A call is balanced if what it runs is**: it is entered only below the limit, and left however
it ends. -/
theorem balanced_nested (h : Balanced lo hi y) : Balanced lo hi (nested y) := by
  intro p hp
  rw [nested]
  by_cases full : p.1.limit ≤ p.1.depth
  · rw [if_pos full]
    exact ⟨hp, rfl⟩
  · rw [if_neg full]
    have below : p.1.depth + 1 ≤ hi := hp.limit ▸ Nat.lt_of_not_le full
    have entered : InRange lo hi (setDepth (p.1.depth + 1) p) :=
      hp.setDepth (Nat.le_succ_of_le hp.lower) below
    refine Comp.Meets.bind (h _ entered) fun r p' hr => ?_
    have back : p'.1.depth - 1 = p.1.depth := by rw [hr.2]; rfl
    exact ⟨hr.1.setDepth (back ▸ hp.lower) (back ▸ hp.upper), back⟩

theorem meets_liftComp {d : Nat} {c : Comp State Task (Outcome Flow) (Outcome α)} {ds : List Nat}
    (hl : lo ≤ d) (hu : d ≤ hi) (hds : ∀ d ∈ ds, lo ≤ d ∧ d ≤ hi)
    (h : c.Meets (free.contract (Task.Allowed (fun _ => True) (d, hi))) fun _ s =>
      s.level = (d, hi)) :
    (liftComp ds c).Meets (contract lo hi) fun _ p => InRange lo hi p ∧ p.1.depth = d := by
  induction c generalizing ds with
  | done r s =>
    obtain ⟨depth, limit⟩ := Prod.mk.inj h
    exact ⟨⟨limit, depth ▸ hl, depth ▸ hu, hds⟩, depth⟩
  | ask t s k ih =>
    obtain ⟨⟨-, -, limit, place⟩, next⟩ := h
    have range : lo ≤ s.depth ∧ s.depth ≤ hi := by
      rcases place with ⟨depth, -⟩ | ⟨deeper, le⟩
      · exact ⟨depth ▸ hl, depth ▸ hu⟩
      · exact ⟨Nat.le_trans hl (Nat.le_of_lt deeper), le⟩
    refine ⟨⟨limit, range.1, range.2, hds⟩, fun r p' hr => ?_⟩
    have level : p'.1.level = s.level := Prod.ext hr.2 (hr.1.limit.trans limit.symm)
    exact ih r p'.1 hr.1.noted (next r p'.1 ⟨leads_free level, fun _ _ => trivial⟩)

/-- What enters no call itself is balanced. -/
theorem balanced_lift (h : ∀ s, free.Runs (fun _ => True) s x) : Balanced lo hi (lift x) := by
  intro p hp
  have level : p.1.level = (p.1.depth, hi) := Prod.ext rfl hp.limit
  have runs := h p.1
  rw [Runs, Keeps, level] at runs
  exact meets_liftComp hp.lower hp.upper hp.noted
    (runs.mono (fun _ _ => id) fun _ s' hr => hr.1.level.trans level)

theorem balanced_read (look : State → α) : Balanced lo hi (lift (Eval.read look)) :=
  balanced_lift fun s => keeps_read (fits_free s) trivial

theorem balanced_fail (e : RuntimeError) : Balanced lo hi (lift (Eval.fail e : Eval α)) :=
  balanced_lift fun s => keeps_fail (fits_free s)

/-- Statements after something is entered are balanced. -/
theorem balanced_body {f : State → FrameId × State} (ns : List Node)
    (hf : ∀ s : State, s.Change (fun _ => True) (f s).2) :
    Balanced lo hi (lift do return (← Eval.statements ns (← Eval.update f)).value) := by
  refine balanced_lift fun s => ?_
  have enter : free.Runs (fun _ => True) s (Eval.update f) :=
    keeps_update (fits_free s) (hf s) fun _ => trivial
  exact enter.bind fun g s' leads _ => yields_body leads.fits (fun _ _ => trivial) trivial

/-! ## Calls -/

theorem balanced_applyClosure (c : Closure) (vs : List Value) :
    Balanced lo hi (applyClosure c vs) :=
  balanced_nested (balanced_body c.body fun _ => .enterClosure trivial fun _ _ => trivial)

theorem balanced_builtin (receiver : Value) (vs : List Value) (caller : FrameId) (b : Builtin) :
    Balanced lo hi (builtin receiver vs caller b) := by
  have plain (b : Builtin) : Balanced lo hi (lift (b.run receiver vs caller)) :=
    balanced_lift fun s =>
      yields_builtin (fun _ _ _ _ => trivial) (fits_free s) trivial (fun _ _ => trivial) trivial b
  have failing : Balanced lo hi (lift (Eval.failType "Lambda" receiver : Eval Value)) :=
    balanced_lift fun s => keeps_failType (fits_free s)
  cases b with
  | lambdaCall =>
    refine (balanced_read _).bind fun c? => ?_
    cases c? with
    | some c => exact balanced_applyClosure c vs
    | none => exact failing
  | _ => exact plain _

theorem balanced_native (receiver : Value) (vs : List Value) (caller : FrameId) (n : Native) :
    Balanced lo hi (native receiver vs caller n) := by
  have plain (n : Native) : Balanced lo hi (lift (n.run receiver vs caller)) :=
    balanced_lift fun s =>
      yields_native (fun _ _ _ _ => trivial) (fits_free s) trivial (fun _ _ => trivial) trivial n
  cases n with
  | builtin b => exact balanced_builtin receiver vs caller b
  | _ => exact plain _

theorem balanced_invoke (receiver : Value) (owner : ClassId) (m : Method) (vs : List Value)
    (caller : FrameId) : Balanced lo hi (invoke receiver owner m vs caller) := by
  obtain ⟨name, body⟩ := m
  cases body with
  | native n => exact balanced_nested (balanced_native receiver vs caller n)
  | user params body =>
    exact balanced_nested (balanced_body body fun _ => .enter trivial trivial fun _ _ => trivial)

theorem balanced_noMethod (v : State → Value) (name : String) :
    Balanced lo hi (lift (do Eval.fail (.noMethod (← Eval.read fun s => s.classNameOf (v s)) name) :
      Eval Value)) :=
  balanced_lift fun s => keeps_read_bind (keeps_fail (fits_free s))

theorem balanced_dispatch (receiver : Value) (name : String) (vs : List Value)
    (caller : FrameId) : Balanced lo hi (dispatch receiver name vs caller) := by
  refine (balanced_read _).bind fun found => ?_
  cases found with
  | some found => exact balanced_invoke receiver found.1 found.2 vs caller
  | none => exact balanced_noMethod (fun _ => receiver) name

theorem balanced_callParent (f : FrameId) (a : State.Activation) (vs : List Value) :
    Balanced lo hi (callParent f a vs) := by
  refine (balanced_read id).bind fun s => ?_
  dsimp only
  cases (s.classAt a.cls).parent.bind (s.findMethod? · a.name) with
  | some found => exact balanced_invoke a.receiver found.1 found.2 vs f
  | none => exact balanced_fail _

theorem balanced_superArguments (f : FrameId) (a : State.Activation) (given : Option (List Node)) :
    Balanced lo hi (lift (Eval.superArguments f a given)) := by
  cases given with
  | none => exact balanced_read _
  | some ns =>
    refine balanced_lift fun s => ?_
    have keeps : free.Keeps (fun _ => True) s (Eval.arguments f ns) _ :=
      keeps_arguments (fits_free s) (fun _ _ => trivial) trivial fun _ _ => trivial
    exact keeps.runs

theorem balanced_callSuper (f : FrameId) (given : Option (List Node)) :
    Balanced lo hi (callSuper f given) := by
  refine (balanced_read _).bind fun a? => ?_
  cases a? with
  | none => exact balanced_noMethod (fun s => (s.frameAt f).self) "super"
  | some a => exact (balanced_superArguments f a given).bind fun vs => balanced_callParent f a vs

theorem balanced_normal {y : Run Value} (h : Balanced lo hi y) : Balanced lo hi (normal y) :=
  h.bind fun _ => balanced_pure

/-- **Every task is balanced** if the tasks it asks for are. -/
theorem balanced_perform (t : Task) : Balanced lo hi (perform t) := by
  have plain (t : Task) : Balanced lo hi (lift t.perform) :=
    balanced_lift fun s => (keeps_perform (fits_free s) (admits_free s t)).runs
  cases t with
  | node n f =>
    cases n with
    | super given => exact balanced_normal (balanced_callSuper f given)
    | _ => exact plain _
  | loop => exact plain _
  | send receiver name vs caller =>
    exact balanced_normal (balanced_dispatch receiver name vs caller)

/-! ## Runs -/

/-- **What is balanced ends in range**, at the depth it starts at. -/
theorem Balanced.of_ends (h : Balanced lo hi y) {p p' : Noting} (hp : InRange lo hi p)
    {r : Outcome α} (he : y.Ends p r p') : InRange lo hi p' ∧ p'.1.depth = p.1.depth := by
  obtain ⟨n, hn⟩ := Run.ends_iff.1 he
  exact (h p hp).post_of_run (fun _ _ _ => Comp.post_of_answer fun t p => balanced_perform t p) hn

theorem Balanced.of_asks (h : Balanced lo hi y) {p p' : Noting} (hp : InRange lo hi p) {t : Task}
    (ha : y.Asks p t p') : InRange lo hi p' := by
  refine (h p hp).pre_of_asks (fun t p r p' hp hr => ?_) ha
  have asked : Balanced lo hi (ask t) :=
    balanced_lift fun s => keeps_ask (fits_free s) (admits_free s t) trivial
  exact asked.of_ends hp hr

/-- **What is balanced comes to tasks in range.** -/
theorem Balanced.of_comes (h : Balanced lo hi y) {p p' : Noting} (hp : InRange lo hi p) {t : Task}
    (hc : y.Comes p t p') : InRange lo hi p' := by
  induction hc with
  | asks ha => exact h.of_asks hp ha
  | within _ ht ih => exact (balanced_perform _).of_asks ih ht

end Noted

/-! ## What a host can start -/

/-- What can be evaluated from outside, and what it gives. -/
inductive Operation : Type → Type where
  | node (n : Node) (f : FrameId) : Operation Flow
  | statements (ns : Program) (f : FrameId) : Operation Flow
  | program (ns : Program) (f : FrameId) : Operation Value
  | send (receiver : Value) (name : String) (vs : List Value) (caller : FrameId) : Operation Value
  | apply (c : Closure) (vs : List Value) : Operation Value
  | stringify (v : Value) : Operation String
  | inspect (v : Value) : Operation String

namespace Operation

variable {α : Type}

/-- The evaluation. -/
def eval : Operation α → Eval α
  | node n f => Eval.node n f
  | statements ns f => Eval.statements ns f
  | program ns f => Eval.programIn ns f
  | send receiver name vs caller => Eval.send receiver name vs caller
  | apply c vs => Eval.applyClosure c vs
  | stringify v => Eval.stringify v
  | inspect v => Eval.inspect v

/-- The same, noting every depth it sets. -/
def noted : Operation α → Noted.Run α
  | apply c vs => Noted.applyClosure c vs
  | op => Noted.lift op.eval

theorem follows (op : Operation α) : Noted.Follows op.eval op.noted := by
  cases op with
  | apply c vs => exact Noted.follows_applyClosure c vs
  | _ => exact Noted.follows_lift

theorem runs (op : Operation α) (s : State) : free.Runs (fun _ => True) s op.eval := by
  have statements (ns : Program) (f : FrameId) :
      free.Keeps (fun _ => True) s (Eval.statements ns f) fun _ _ => True :=
    keeps_statements (fits_free s) (fun _ _ => trivial) trivial fun _ _ => trivial
  cases op with
  | node n f => exact keeps_node (fits_free s) trivial trivial trivial
  | statements ns f => exact statements ns f
  | program ns f => exact (statements ns f).bind fun _ _ leads _ => keeps_pure leads.fits trivial
  | send v name vs f =>
    exact keeps_send (fits_free s) trivial (fun _ _ => trivial) trivial trivial
  | apply c vs =>
    exact yields_applyClosure (fits_free s) trivial (fun _ _ => trivial) fun _ _ => trivial
  | stringify v => exact runs_stringify (fun _ _ _ _ => trivial) (fits_free s) trivial
  | inspect v => exact runs_inspect (fun _ _ _ _ => trivial) (fits_free s) trivial

theorem balanced {lo hi : Nat} (op : Operation α) : Noted.Balanced lo hi op.noted := by
  cases op with
  | apply c vs => exact Noted.balanced_applyClosure c vs
  | node n f => exact Noted.balanced_lift (node n f).runs
  | statements ns f => exact Noted.balanced_lift (statements ns f).runs
  | program ns f => exact Noted.balanced_lift (program ns f).runs
  | send v name vs f => exact Noted.balanced_lift (send v name vs f).runs
  | stringify v => exact Noted.balanced_lift (stringify v).runs
  | inspect v => exact Noted.balanced_lift (inspect v).runs

variable {op : Operation α} {s s' : State} {r : Outcome α}

theorem level_of_ends (h : op.eval.Ends s r s') : s'.level = s.level :=
  ((op.runs s).of_ends h).1.level

/-- A run of an operation, finished or under way, has set a depth. -/
inductive Sets (op : Operation α) (s : State) (d : Nat) : Prop where
  | ended {r : Outcome α} {s' : State} {ds : List Nat} (h : op.noted.Ends (s, []) r (s', ds))
    (hd : d ∈ ds)
  | underWay {t : Task} {s' : State} {ds : List Nat} (h : op.noted.Comes (s, []) t (s', ds))
    (hd : d ∈ ds)

/-- However an operation ends, it ends at the depth it starts at, and all along the depth is at
least that and at most the limit.  All its runs are noted. -/
structure KeepsDepth (op : Operation α) (s : State) : Prop where
  ends {r : Outcome α} {s' : State} (h : op.eval.Ends s r s') :
    s'.depth = s.depth ∧ ∃ ds, op.noted.Ends (s, []) r (s', ds)
  comes {t : Task} {s' : State} (h : op.eval.Comes s t s') :
    s.depth ≤ s'.depth ∧ s'.depth ≤ s.limit ∧ ∃ ds, op.noted.Comes (s, []) t (s', ds)
  sets {d : Nat} (h : op.Sets s d) : s.depth ≤ d ∧ d ≤ s.limit

/-- **What starts within the limit stays within it and comes back to its depth.** -/
theorem keepsDepth (op : Operation α) (h : s.depth ≤ s.limit) : op.KeepsDepth s := by
  have start : Noted.InRange s.depth s.limit (s, []) :=
    ⟨rfl, Nat.le_refl _, h, List.forall_mem_nil _⟩
  refine ⟨fun h => ?_, fun h => ?_, fun h => ?_⟩
  · exact ⟨congrArg Prod.fst (level_of_ends h), (op.follows.ends_iff []).1 h⟩
  · obtain ⟨ds, noted⟩ := op.follows.comes [] h
    have range := op.balanced.of_comes start noted
    exact ⟨range.lower, range.upper, ds, noted⟩
  · cases h with
    | ended h hd => exact (op.balanced.of_ends start h).1.noted _ hd
    | underWay h hd => exact (op.balanced.of_comes start h).noted _ hd

end Operation

namespace State

/-- What a host does with an interpreter. -/
inductive HostStep : State → State → Prop where
  | run {α : Type} {s s' : State} {op : Operation α} {r : Outcome α} (h : op.eval.Ends s r s') :
    HostStep s s'
  | source {s s' : State} {fuel : Nat} {parse : Parser} {text : String} {r : Except Failure Value}
    (h : s.evaluateSource fuel parse text = some (r, s')) : HostStep s s'
  | load {s s' : State} {fuel : Nat} {parse : Parser} {path : String} {file : FileEntry}
    {r : Except Failure (Option Value)} (h : s.load fuel parse path file = some (r, s')) :
    HostStep s s'
  /-- It boxes data, sets instance variables, binds names. -/
  | change {s s' : State} (h : s.Change (fun _ => True) s') : HostStep s s'
  | probe (s : State) (c : ClassId) (ofClass : Bool) (name : String) (p : Probe) :
    HostStep s (s.defineProbe c ofClass name p)
  | drain (s : State) : HostStep s s.takeOutput.2

variable {s s' : State}

theorem depth_of_evaluateSource {fuel : Nat} {parse : Parser} {text : String}
    {r : Except Failure Value} (h : s.evaluateSource fuel parse text = some (r, s')) :
    s'.depth = s.depth := by
  unfold evaluateSource at h
  split at h
  · next p _ =>
    obtain ⟨⟨r', s''⟩, ran, same⟩ := Option.map_eq_some_iff.1 h
    obtain ⟨-, rfl⟩ := Prod.mk.inj same
    have ends : (Operation.program p Core.root).eval.Ends s r' s'' := ⟨fuel, ran⟩
    exact congrArg Prod.fst (Operation.level_of_ends ends)
  · obtain ⟨-, rfl⟩ := Prod.mk.inj (Option.some.inj h)
    rfl

theorem depth_of_load {fuel : Nat} {parse : Parser} {path : String} {file : FileEntry}
    {r : Except Failure (Option Value)} (h : s.load fuel parse path file = some (r, s')) :
    s'.depth = s.depth := by
  unfold load at h
  split at h
  · obtain ⟨-, rfl⟩ := Prod.mk.inj (Option.some.inj h)
    rfl
  · split at h
    · obtain ⟨⟨r', s''⟩, ran, same⟩ := Option.map_eq_some_iff.1 h
      obtain ⟨-, rfl⟩ := Prod.mk.inj same
      exact depth_of_evaluateSource ran
    · obtain ⟨-, rfl⟩ := Prod.mk.inj (Option.some.inj h)
      rfl

theorem HostStep.depth (h : s.HostStep s') : s'.depth = s.depth := by
  cases h with
  | run h => exact congrArg Prod.fst (Operation.level_of_ends h)
  | source h => exact depth_of_evaluateSource h
  | load h => exact depth_of_load h
  | change h => exact congrArg Prod.fst h.level
  | probe =>
    unfold defineProbe
    dsimp only
    split <;> rfl
  | drain => rfl

theorem depth_of_hostSteps (h : Relation.ReflTransGen HostStep s s') : s'.depth = s.depth := by
  induction h with
  | refl => rfl
  | tail _ step ih => exact step.depth.trans ih

/-- **The depth is balanced**: whatever is evaluated in a state within the limit comes back to the
depth it starts at, by a value, a signal or an error, and all along stays between that depth and the
limit; and a fresh interpreter is at depth 0 after whatever its host has done. -/
theorem depth_balanced :
    (∀ {α : Type} (op : Operation α) (s : State), s.depth ≤ s.limit → op.KeepsDepth s) ∧
    ∀ (limit : Nat) (s : State), Relation.ReflTransGen HostStep (State.initial limit) s →
      s.depth = 0 := by
  refine ⟨fun op s h => op.keepsDepth h, fun limit s h => (depth_of_hostSteps h).trans ?_⟩
  rw [initial_eq]
  rfl

/-- A method that does nothing but call itself, and a call of it. -/
def descending : Program :=
  [.defineMethod "down" [] [.call none "down" []], .call none "down" []]

/-- Calls that go down to the limit, 3, fail and leave the interpreter at depth 0. -/
theorem depth_balanced_descending : ∃ e s', (State.initial 3).depth ≤ (State.initial 3).limit ∧
    (Operation.statements descending Core.root).eval.Ends (State.initial 3) (.error e) s' ∧
    (Operation.statements descending Core.root).Sets (State.initial 3) 3 ∧
    s'.depth = (State.initial 3).depth ∧ s'.depth = 0 := by
  let op : Operation Flow := .statements descending Core.root
  have within : (State.initial 3).depth ≤ (State.initial 3).limit := by
    rw [initial_eq]
    exact Nat.zero_le 3
  have ran : ((op.noted (State.initial 3, [])).run (Comp.execute Noted.perform 100)).any
      (fun q => !q.1.toBool && q.2.2.contains 3) = true := by decide +kernel
  obtain ⟨⟨r, s', ds⟩, hq, ht⟩ := (Option.any_eq_true _ _).1 ran
  obtain ⟨fails, deep⟩ := Bool.and_eq_true_iff.1 ht
  have noted : op.noted.Ends (State.initial 3, []) r (s', ds) := ⟨100, hq⟩
  have ends : op.eval.Ends (State.initial 3) r s' := (op.follows.ends_iff []).2 ⟨ds, noted⟩
  obtain ⟨keeps, fresh⟩ := depth_balanced
  have back : s'.depth = (State.initial 3).depth := ((keeps op _ within).ends ends).1
  cases r with
  | ok flow => exact nomatch fails
  | error e =>
    exact ⟨e, s', within, ends, .ended noted (List.contains_iff_mem.1 deep), back,
      fresh 3 s' (.single (.run ends))⟩

end State

end OpenScript
