import OpenScript.Proofs.Checked.Library
import OpenScript.Proofs.Reachable

/-!
# Proofs/Checked/Node — nodes, loops and calls with every index checked

    task ──Checked.perform──▸ the tasks it asks for, or a fault

What a node, a loop or a call does, with classes looked up, changed and made under checks.  Checked
tasks follow tasks wherever those keep to the discipline of indices (`Checked.follows_perform`), so
whatever a host runs in a state that an interpreter can get to uses no index out of range
(`State.Reachable.indices_in_range`).  A value that is not from the interpreter may:
calling a class that is not there stops at a fault (`Checked.ends_call_of_noClass`).
-/

namespace OpenScript

namespace Checked

open Discipline

/-! ## Text -/

/-- Appends what segments stand for to a text. -/
def appendSegments (f : FrameId) (text : String) : List Segment → Run String
  | [] => return text
  | .literal t :: rest => appendSegments f (text ++ t) rest
  | .reference name :: rest => do
    let v ← look (get · f name)
    let t ← stringify v
    appendSegments f (text ++ t) rest

/-- A text with its markers replaced. -/
def interpolate (f : FrameId) (text : String) : Run String :=
  if Segment.hasMarker text then appendSegments f "" (Segment.scan text) else return text

/-! ## Methods -/

/-- Runs a method that was found in the class `owner`. -/
def invoke (receiver : Value) (owner : ClassId) (m : Method) (vs : List Value) (caller : FrameId) :
    Run Value :=
  nested do
    match m.body with
    | .native n => native receiver vs caller n
    | .user params body =>
      let classFrame := (← look (classAt · owner)).frame
      lift do
        let space ← Eval.read (·.governing classFrame)
        let g ← Eval.update (·.newReceiver classFrame receiver space)
        let f ← Eval.update (·.newActivation g m.name vs none)
        Eval.modify (·.bindParams f params vs)
        return (← Eval.statements body f).value

/-- Calls the method that a receiver answers a name with. -/
def dispatch (receiver : Value) (name : String) (vs : List Value) (caller : FrameId) :
    Run Value := do
  match ← look (methodOf? · receiver name) with
  | some (owner, m) => invoke receiver owner m vs caller
  | none => fail (.noMethod (← look (classNameOf · receiver)) name)

/-- The running method as the parent of the class that defines it knows it. -/
def parentMethod? (s : State) (a : State.Activation) :
    Except Fault (Option (ClassId × Method)) := do
  match (← classAt s a.cls).parent with
  | some p => find s (·.methods) a.name p
  | none => return none

/-- Calls the method of a run as the parent of the class that defines it knows it. -/
def callParent (f : FrameId) (a : State.Activation) (vs : List Value) : Run Value := do
  match ← look (parentMethod? · a) with
  | some (owner, m) => invoke a.receiver owner m vs f
  | none => do
    let parent := (← look (classAt · a.cls)).parent
    fail (.noMethod (← look (classAt · (parent.getD a.cls))).name a.name)

/-- Calls the running method as the parent of the class that defines it knows it. -/
def callSuper (f : FrameId) (given : Option (List Node)) : Run Value := do
  match ← lift (Eval.read (·.active? f)) with
  | none => do
    let self := (← lift (Eval.read (·.frameAt f))).self
    fail (.noMethod (← look (classNameOf · self)) "super")
  | some a => do
    let vs ← match given with
      | some ns => lift (Eval.arguments f ns)
      | none => look (forwardedArguments · a)
    callParent f a vs

/-! ## Classes -/

/-- The class that a new class extends. -/
def parentClass (f : FrameId) : Option String → Run ClassId
  | none => return Core.object
  | some name => do
    match ← look (get · f name) with
    | .cls c => return c
    | _ => fail (.undefinedClass name)

/-- The class of a name, made if the name is `nil`. -/
def defineClass (f : FrameId) (name : String) (parent : Option String) : Run ClassId := do
  match ← look (get · f name) with
  | .cls c => return c
  | .nil => do
    let p ← parentClass f parent
    step (createClass · f name p)
  | v => failType "class" v

/-! ## Nodes -/

/-- Writes the value of a node under a name. -/
def assign (f : FrameId) (name : String) (n : Node) : Run Value := do
  let v ← lift (Eval.value n f)
  change (set · f name v)
  return v

/-- Ends normally with a value. -/
def normal (x : Run Value) : Run Flow := do return .normal (← x)

/-- Evaluates a node. -/
def performNode (f : FrameId) : Node → Run Flow
  | .text t => normal do lift (Eval.string (← interpolate f t))
  | .getLocal name => normal do
    let s ← lift Eval.state
    let v ← look fun _ => get s f name
    let self := (s.frameAt f).self
    let called ← look fun _ => if v == .nil then respondsTo s self name else .ok false
    if called then lift (Eval.send self name [] f) else return v
  | .getConstant name | .getGlobal name | .getClassVar name | .getInstanceVar name =>
    normal (look (get · f name))
  | .setLocal name n | .setGlobal name n | .setClassVar name n | .setInstanceVar name n =>
    normal (assign f name n)
  | .super given => normal (callSuper f given)
  | .defineClass name parent body => normal do
    let c ← defineClass f name parent
    let g := (← look (classAt · c)).frame
    let _ ← lift (Eval.statements body g)
    return .cls c
  | .property names => normal do
    let c := (← lift (Eval.read (·.frameAt f))).cls
    change (names.foldlM (addProperty c) ·)
    return .nil
  | .defineMethod name params body => normal do
    let c := (← lift (Eval.read (·.frameAt f))).cls
    change (defineMethod · c ⟨name, .user params body⟩)
    return .nil
  | .getFromNamespace space name => normal do
    match ← lift (Eval.read (·.findNamespace? f space)) with
    | some g => look (get · g name)
    | none => return .nil
  -- The others use no index: what they read and make has to do with frames and objects only.
  | n => lift (Eval.performNode f n)

/-- What a task does. -/
def perform : Task → Run Flow
  | .node n f => performNode f n
  | .loop condition body f last => lift (Eval.performLoop condition body f last)
  | .send receiver name vs caller => normal (dispatch receiver name vs caller)

/-- A checked evaluation ends, at a fault or not, and leaves a state. -/
def Run.Ends {α : Type} (y : Run α) (s : State) (r : Except Fault (Outcome α)) (s' : State) :
    Prop :=
  ∃ fuel, (y s).run (Comp.execute perform fuel) = some (r, s')

theorem Run.ends_iff {α : Type} {y : Run α} {s s' : State} {r : Except Fault (Outcome α)} :
    y.Ends s r s' ↔ ∃ n, (y s).run (Comp.answer perform n) = some (r, s') :=
  Comp.exists_run_execute_iff

/-! ## Following -/

section Following

variable {s : State} {f : FrameId} {receiver v : Value} {vs : List Value} {caller : FrameId}

theorem follows_appendSegments {text : String} {segments : List Segment} (h : s.Indexed) :
    Follows s (Eval.appendSegments f text segments) (appendSegments f text segments) := by
  induction segments generalizing s text with
  | nil => exact follows_pure
  | cons segment rest ih =>
    cases segment with
    | literal t => exact ih h
    | reference name =>
      refine follows_look_bind (get_eq (known_in h) f name) ?_
      have got : (Item.value (s.get f name)).In s := h.has (State.known_get s f name)
      exact (follows_stringify h got).bind (runs_stringify (fun _ _ _ _ => trivial) h got)
        fun _ _ l₁ _ => ih l₁.fits

theorem follows_interpolate {text : String} (h : s.Indexed) :
    Follows s (Eval.interpolate f text) (interpolate f text) := by
  unfold Eval.interpolate interpolate
  split
  · exact follows_appendSegments h
  · exact follows_pure

theorem follows_invoke {owner : ClassId} {m : Method} (h : s.Indexed)
    (hr : (Item.value receiver).In s) (ho : owner < s.classes.size)
    (hv : ∀ v ∈ vs, (Item.value v).In s) :
    Follows s (Eval.invoke receiver owner m vs caller) (invoke receiver owner m vs caller) := by
  refine follows_nested ?_
  obtain ⟨name, body⟩ := m
  cases body with
  | native n => exact follows_native (h.depth (s.depth + 1)) hr hv n
  | user params body => exact follows_look_bind (classAt_eq ho) follows_lift

theorem follows_dispatch {name : String} (h : s.Indexed) (hr : (Item.value receiver).In s)
    (hv : ∀ v ∈ vs, (Item.value v).In s) :
    Follows s (Eval.dispatch receiver name vs caller) (dispatch receiver name vs caller) := by
  refine follows_look_bind (methodOf?_eq (known_in h) hr name) ?_
  cases hm : s.methodOf? receiver name with
  | some found =>
    have owner : (Item.value (.cls found.1)).In s :=
      (State.known_methodOf? hm).1.elim (fun e => e ▸ hr) h.has
    exact follows_invoke h hr owner hv
  | none => exact follows_look_bind (classNameOf_eq (known_in h) receiver) follows_fail

/-- The class above the one that defines the running method is there, and so is what it finds. -/
theorem parentMethod?_eq (h : s.Indexed) {a : State.Activation} (there : a.cls < s.classes.size) :
    parentMethod? s a
      = .ok ((s.classAt a.cls).parent.bind fun p => s.findMethod? p a.name) := by
  rw [parentMethod?, classAt_eq there]
  change (match (s.classAt a.cls).parent with
    | some p => find s (·.methods) a.name p
    | none => .ok none) = _
  cases hp : (s.classAt a.cls).parent with
  | none => rfl
  | some p =>
    have parent : p < s.classes.size := h.has (State.known_class_parent hp)
    exact find_eq (known_in h) (·.methods) a.name parent

theorem follows_callParent (h : s.Indexed) {a : State.Activation}
    (there : a.cls < s.classes.size) (hr : (Item.value a.receiver).In s)
    (hv : ∀ v ∈ vs, (Item.value v).In s) :
    Follows s (Eval.callParent f a vs) (callParent f a vs) := by
  refine follows_state_bind (follows_looked (parentMethod?_eq h there) ?_)
  dsimp only
  cases hm : (s.classAt a.cls).parent.bind (s.findMethod? · a.name) with
  | some found =>
    obtain ⟨p, hp, hm⟩ := Option.bind_eq_some_iff.1 hm
    have parent : (Item.value (.cls p)).In s := h.has (State.known_class_parent hp)
    have owner : (Item.value (.cls found.1)).In s :=
      (State.known_findMethod? hm).1.elim (fun e => e ▸ parent) h.has
    exact follows_invoke h hr owner hv
  | none =>
    have above : (s.classAt a.cls).parent.getD a.cls < s.classes.size := by
      cases hp : (s.classAt a.cls).parent with
      | none => exact there
      | some p => exact h.has (State.known_class_parent hp)
    exact follows_looked (classAt_eq there) (follows_looked (classAt_eq above) follows_fail)

theorem follows_callSuper {given : Option (List Node)} (h : s.Indexed)
    (hf : (Item.frame f).In s) :
    Follows s (Eval.callSuper f given) (callSuper f given) := by
  refine follows_lift_read_bind ?_
  cases ha : s.active? f with
  | none =>
    refine follows_lift_read_bind ?_
    exact follows_look_bind (classNameOf_eq (known_in h) _) follows_fail
  | some a =>
    obtain ⟨receiver, cls, -⟩ := State.known_active? ha
    have there : a.cls < s.classes.size := h.has cls
    cases given with
    | none =>
      have forwarded (v) (hv : v ∈ Eval.forwardedArguments s a) : (Item.value v).In s :=
        h.has (State.known_forwardedArguments ha hv)
      refine follows_look_bind (forwardedArguments_eq (known_in h) ha) ?_
      exact follows_callParent h there (h.has receiver) forwarded
    | some ns =>
      have given : Discipline.indexed.Keeps (fun _ => True) s (Eval.arguments f ns)
          fun vs s' => ∀ v ∈ vs, (Item.value v).In s' :=
        keeps_arguments h (fun _ _ => trivial) hf fun _ _ => trivial
      exact follows_lift.bind given fun vs s₁ l₁ hv =>
        follows_callParent l₁.fits (l₁.has (i := .value (.cls a.cls)) there)
          (l₁.has (h.has receiver)) hv

theorem follows_parentClass {parent : Option String} (h : s.Indexed) :
    Follows s (Eval.parentClass f parent) (parentClass f parent) := by
  cases parent with
  | none => exact follows_pure
  | some name =>
    refine follows_look_bind (get_eq (known_in h) f name) ?_
    cases s.get f name with
    | cls c => exact follows_pure
    | nil | object => exact follows_fail

theorem follows_defineClass {name : String} {parent : Option String} (h : s.Indexed) :
    Follows s (Eval.defineClass f name parent) (defineClass f name parent) := by
  refine follows_look_bind (get_eq (known_in h) f name) ?_
  cases s.get f name with
  | cls c => exact follows_pure
  | object o => exact follows_failType h
  | nil =>
    refine (follows_parentClass h).bind (keeps_parentClass h) fun p s' _ hp => ?_
    obtain ⟨rfl, hp⟩ := hp
    exact follows_step (createClass_eq h f name hp)

theorem follows_assign {name : String} {n : Node} (h : s.Indexed) (hf : (Item.frame f).In s) :
    Follows s (Eval.assign f name n) (assign f name n) := by
  have value : Discipline.indexed.Yields (fun _ => True) s (Eval.value n f) :=
    yields_value h trivial hf trivial
  refine follows_lift.bind value fun v s₁ l₁ _ => ?_
  exact (follows_change (set_eq (known_in l₁.fits) f name v)).then fun _ _ => follows_pure

theorem follows_normal {x : Eval Value} {y : Run Value} (h : Follows s x y) :
    Follows s (Eval.normal x) (normal y) := by
  refine Agrees.after h fun r _ => ?_
  cases r <;> rfl

/-- Accessors are added within bounds. -/
theorem foldlM_addProperty_eq {c : ClassId} (hc : c < s.classes.size) (names : List String) :
    names.foldlM (addProperty c) s = .ok (names.foldl (Eval.addProperty c) s) := by
  induction names generalizing s with
  | nil => rfl
  | cons name names ih =>
    have there : c < (Eval.addProperty c s name).classes.size := by
      rwa [Eval.addProperty, State.size_classes_defineMethod, State.size_classes_defineMethod]
    rw [List.foldlM_cons, addProperty_eq hc]
    exact ih there

/-- **A node uses only indices in range.** -/
theorem follows_performNode (n : Node) (h : s.Indexed) (hf : (Item.frame f).In s) :
    Follows s (Eval.performNode f n) (performNode f n) := by
  have cls : (s.frameAt f).cls < s.classes.size := h.has (State.known_frame_cls s f)
  cases n with
  | text t => exact follows_normal ((follows_interpolate h).then fun _ _ => follows_lift)
  | getLocal name =>
    refine follows_normal (follows_lift_state_bind (follows_looked (get_eq (known_in h) f name) ?_))
    -- The method is looked for only if nothing is bound, and only then is there anything to check.
    have called : (if s.get f name == .nil then respondsTo s (s.frameAt f).self name else .ok false)
        = .ok (s.get f name == .nil && s.respondsTo (s.frameAt f).self name) := by
      rw [respondsTo_eq (known_in h) (h.has (State.known_self s f))]
      cases s.get f name == .nil <;> rfl
    refine follows_looked called ?_
    dsimp only
    split
    · exact follows_lift
    · exact follows_pure
  | getConstant name | getGlobal name | getClassVar name | getInstanceVar name =>
    exact follows_normal (follows_look (get_eq (known_in h) f name))
  | setLocal name m | setGlobal name m | setClassVar name m | setInstanceVar name m =>
    exact follows_normal (follows_assign h hf)
  | super given => exact follows_normal (follows_callSuper h hf)
  | defineClass name parent body =>
    have code : Discipline.indexed.has s (.code (.defineClass name parent body)) := trivial
    refine follows_normal ((follows_defineClass h).bind (keeps_defineClass h hf code) ?_)
    intro c s₁ l₁ hc
    exact follows_look_bind (classAt_eq hc) (follows_lift.then fun _ _ => follows_pure)
  | property names =>
    refine follows_normal (follows_lift_read_bind ?_)
    exact (follows_change (foldlM_addProperty_eq cls names)).then fun _ _ => follows_pure
  | defineMethod name params body =>
    refine follows_normal (follows_lift_read_bind ?_)
    exact (follows_change (defineMethod_eq cls ⟨name, .user params body⟩)).then fun _ _ =>
      follows_pure
  | getFromNamespace space name =>
    refine follows_normal (follows_lift_read_bind ?_)
    cases s.findNamespace? f space with
    | some g => exact follows_look (get_eq (known_in h) g name)
    | none => exact follows_pure
  | int | float | symbol | true | false | nil | self | setConstant | call | lambda | ifElse
    | whileLoop | block | «return» | next | and | or | not | inNamespace => exact follows_lift

/-- **Tasks use only indices in range.** -/
theorem follows_perform {t : Task} (h : s.Indexed) (ht : Discipline.indexed.Admits s t) :
    Follows s t.perform (perform t) := by
  cases t with
  | node n f => exact follows_performNode n h ht.2
  | loop condition body f last => exact follows_lift
  | send receiver name vs caller =>
    exact follows_normal (follows_dispatch h ht.1 ht.2.1)

end Following

/-! ## Runs -/

/-- What keeps to the discipline of indices runs alike with checks and without. -/
theorem run_lift {α : Type} {s : State} {x : Eval α} {Q : α → State → Prop}
    (hx : Discipline.indexed.Keeps (fun _ => True) s x Q) (n : Nat) :
    (lift x s).run (Comp.answer perform n)
      = ((x s).run (Comp.answer Task.perform n)).map unfaulted := by
  refine (agrees_lift (x s)).run_eq hx.meets (fun _ _ _ => Comp.post_of_answer meets_perform) ?_
  exact fun t s' ht => answer_eq meets_perform (fun _ _ ht => follows_perform ht.1 ht.2.1) n ht

/-- Calling a class that is not there stops at a fault. -/
theorem ends_call_of_noClass {s : State} {c : ClassId} (hc : s.classes.size ≤ c) (name : String)
    (vs : List Value) : (lift (Eval.call (.cls c) name vs)).Ends s (.error (.noClass c)) s := by
  have missing : find s (·.classMethods) name c = .error (.noClass c) := by
    rw [find, classAt, Array.getElem?_eq_none hc]
    rfl
  refine Run.ends_iff.2 ⟨1, ?_⟩
  have faulty : perform (.send (.cls c) name vs Core.root) s = .done (.error (.noClass c)) s := by
    change Comp.bind (Comp.bind (look (methodOf? · (.cls c) name) s) _) _ = _
    rw [look, step, methodOf?, missing]
    rfl
  have answered : Comp.answer perform 1 (.send (.cls c) name vs Core.root) s
      = some (.error (.noClass c), s) := congrArg (Comp.run _) faulty
  change Comp.run _ (liftComp (Comp.bind (.ask (.send (.cls c) name vs Core.root) s .done) _)) = _
  rw [Comp.bind, liftComp, Comp.run, answered]
  rfl

end Checked

namespace State

variable {s : State}

/-- **No run uses an index out of range.**  In a state that an interpreter can get to, whatever is
stored or bound is there, and handles are handles of names.  Whatever a host runs there ends, with
every index checked, as it does without checks, and never at a fault. -/
theorem Reachable.indices_in_range (h : s.Reachable) :
    (∀ i, s.Known i → i.In s) ∧ s.SymbolsFit ∧ ∀ x, Request s x → ∀ r s',
      (Checked.lift x).Ends s r s' ↔ ∃ o, r = .ok o ∧ x.Ends s o s' := by
  refine ⟨Discipline.known_in h.indexed, h.indexed.inv.2, fun x hx r s' => ?_⟩
  have keeps := yields_request h.indexed (fun _ => id) hx
  simp only [Checked.Run.ends_iff, Checked.run_lift keeps, Option.map_eq_some_iff, Eval.ends_iff]
  constructor
  · rintro ⟨n, ⟨o, s''⟩, ran, same⟩
    obtain ⟨rfl, rfl⟩ := Prod.mk.inj same
    exact ⟨o, rfl, n, ran⟩
  · rintro ⟨o, rfl, n, ran⟩
    exact ⟨n, (o, s'), ran, rfl⟩

/-- A class with a property and a method that shows a symbol, and calls of them. -/
def tagging : Program :=
  [.defineClass "Dog" none [.property ["age"],
      .defineMethod "tag" [] [.call (some (.symbol "dog")) "inspect" []]],
    .setLocal "d" (.call (some (.getConstant "Dog")) "new" []),
    .call (some (.getLocal "d")) "age=" [.int 3],
    .call (some (.call (some (.getLocal "d")) "tag" [])) "+" [.text "!"]]

/-- With every index checked, the program ends with the text it ends with without checks. -/
theorem indices_in_range_tagging : ∃ (s' : State) (v : Value),
    (Checked.lift (Eval.program tagging)).Ends (State.initial 5) (.ok (.ok v)) s' ∧
    s'.text? v = some ":dog!" := by
  have start : Core.root < (State.initial 5).frames.size := by
    rw [size_frames_initial]
    decide
  let test (r : Outcome Value) (s : State) : Bool := match r with
    | .ok v => s.text? v == some ":dog!"
    | .error _ => false
  obtain ⟨r, s', h, ht⟩ : ∃ r s', (Eval.program tagging).Ends (State.initial 5) r s' ∧
      test r s' = true := Eval.exists_ends_of_run 200 test (by decide +kernel)
  cases r with
  | error e => exact absurd ht nofun
  | ok v =>
    obtain ⟨-, -, alike⟩ := (Reachable.fresh 5).indices_in_range
    have ends := (alike _ (.program tagging start) (.ok (.ok v)) s').2 ⟨.ok v, rfl, h⟩
    exact ⟨s', v, ends, beq_iff_eq.1 ht⟩

end State

end OpenScript
