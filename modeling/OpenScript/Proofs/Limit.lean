import OpenScript.Proofs.Tracks

/-!
# Proofs/Limit — a higher limit changes nothing for runs that did not hit the lower

Nothing but a call looks at the limit or the depth: neither names nor methods nor any built-in
method (`Eval.blind_perform`).  So a run that has not hit its limit is the same under a higher one
(`Eval.Blind.ends`).
-/

namespace OpenScript

namespace State

variable (s : State) (m : Nat)

theorem setIvar_withLimit (v : Value) (key : String) (w : Value) :
    (s.withLimit m).setIvar v key w = (s.setIvar v key w).withLimit m := by
  cases v <;> rfl

theorem set_withLimit (f : FrameId) (name : String) (v : Value) :
    (s.withLimit m).set f name v = (s.set f name v).withLimit m := by
  have h := s.alike_withLimit m
  unfold set
  dsimp only
  rw [h.localOwner, h.ivarOwner, setIvar_withLimit]
  split <;> rfl

theorem defineConstant_withLimit (f : FrameId) (name : String) (v : Value) :
    (s.withLimit m).defineConstant f name v
      = ((s.defineConstant f name v).1, (s.defineConstant f name v).2.withLimit m) := by
  have h := s.alike_withLimit m
  unfold defineConstant
  rw [h.frameAt]
  split <;> rfl

theorem register_withLimit (f : FrameId) (name : String) (space : FrameId) :
    (s.withLimit m).register f name space = (s.register f name space).withLimit m := by
  rw [register, register, (s.alike_withLimit m).governing]
  rfl

theorem createClass_withLimit (f : FrameId) (name : String) (parent : ClassId) :
    Eval.createClass (s.withLimit m) f name parent
      = ((Eval.createClass s f name parent).1,
          (Eval.createClass s f name parent).2.withLimit m) := by
  unfold Eval.createClass
  dsimp only
  rw [← set_withLimit]
  rfl

theorem createSpace_withLimit (f : FrameId) (name : String) :
    Eval.createSpace (s.withLimit m) f name
      = ((Eval.createSpace s f name).1, (Eval.createSpace s f name).2.withLimit m) := by
  unfold Eval.createSpace
  dsimp only
  rw [← register_withLimit]
  rfl

theorem addProperty_withLimit (c : ClassId) (names : List String) :
    names.foldl (Eval.addProperty c) (s.withLimit m)
      = (names.foldl (Eval.addProperty c) s).withLimit m := by
  induction names generalizing s with
  | nil => rfl
  | cons name names ih => exact ih (Eval.addProperty c s name)

theorem enter_withLimit (receiver : Value) (owner : ClassId) (name : String) (params : List String)
    (vs : List Value) :
    (s.withLimit m).enter receiver owner name params vs
      = ((s.enter receiver owner name params vs).1,
          (s.enter receiver owner name params vs).2.withLimit m) := by
  have frame : (s.withLimit m).receiverFrame receiver owner = s.receiverFrame receiver owner := by
    rw [receiverFrame, receiverFrame, (s.alike_withLimit m).governing]
    rfl
  rw [enter_eq, enter_eq, frame]
  rfl

theorem enterClosure_withLimit (c : Closure) (vs : List Value) :
    (s.withLimit m).enterClosure c vs
      = ((s.enterClosure c vs).1, (s.enterClosure c vs).2.withLimit m) := by
  rw [enterClosure_eq, enterClosure_eq]
  rfl

end State

namespace Eval

variable {n m : Nat} {α : Type}

/-! ## Evaluations -/

theorem blind_value {k : Node} {f : FrameId} : Blind n m (value k f) :=
  blind_ask.bind fun _ => blind_pure

theorem blind_send {v : Value} {name : String} {vs : List Value} {caller : FrameId} :
    Blind n m (send v name vs caller) := blind_ask.bind fun _ => blind_pure

theorem blind_statementsFrom {f : FrameId} {ns : List Node} {last : Value} :
    Blind n m (statementsFrom f last ns) := by
  induction ns generalizing last with
  | nil => exact blind_pure
  | cons k ns ih =>
    refine blind_ask.bind fun flow => ?_
    cases flow with
    | normal v => exact ih
    | «return» v => exact blind_pure
    | skip => exact blind_pure

theorem blind_statements {ns : List Node} {f : FrameId} : Blind n m (statements ns f) :=
  blind_statementsFrom

theorem blind_arguments {f : FrameId} {ns : List Node} : Blind n m (arguments f ns) := by
  induction ns with
  | nil => exact blind_pure
  | cons k ns ih => exact blind_value.bind fun _ => ih.bind fun _ => blind_pure

theorem blind_box {c : ClassId} {p : Payload} : Blind n m (box c p) := blind_update fun _ _ => rfl

theorem blind_symbol {name : String} : Blind n m (symbol name) :=
  (blind_update fun _ _ => rfl).bind fun _ => blind_box

theorem blind_classNameOf {v : Value} : Blind n m (read (·.classNameOf v)) :=
  blind_read fun _ => rfl

theorem blind_failType {expected : String} {v : Value} :
    Blind n m (failType expected v : Eval α) := blind_classNameOf.bind fun _ => blind_fail

theorem blind_stringify {v : Value} : Blind n m (stringify v) := by
  refine blind_send.bind fun shown => (blind_read fun _ => rfl).bind fun text => ?_
  cases text with
  | some t => exact blind_pure
  | none => exact blind_failType

theorem blind_body {ns : List Node} {f : FrameId} :
    Blind n m (do return (← statements ns f).value) :=
  blind_statements.bind fun _ => blind_pure

theorem blind_applyClosure (hnm : n ≤ m) {c : Closure} {vs : List Value} :
    Blind n m (applyClosure c vs) := by
  have enter : Blind n m (update (·.enterClosure c vs)) :=
    blind_update fun s m => s.enterClosure_withLimit m c vs
  rw [applyClosure_eq]
  exact blind_nested hnm (enter.bind fun _ => blind_body)

/-! ## Built-in methods -/

theorem blind_expect {method : String} {expected : Nat} {vs : List Value} :
    Blind n m (expect method expected vs) := by
  unfold expect
  split
  · exact blind_pure
  · exact blind_fail

theorem blind_onlyArgument {method : String} {vs : List Value} :
    Blind n m (onlyArgument method vs) := by
  unfold onlyArgument
  split
  · exact blind_pure
  · exact blind_fail

theorem blind_theClass {v : Value} : Blind n m (theClass v) := by
  unfold theClass
  split
  · exact blind_pure
  · exact blind_failType

theorem blind_theText {v : Value} : Blind n m (theText v) := by
  refine (blind_read fun _ => rfl).bind fun text => ?_
  cases text with
  | some t => exact blind_pure
  | none => exact blind_failType

theorem blind_theNumber {v : Value} : Blind n m (theNumber v) := by
  refine (blind_read fun _ => rfl).bind fun payload => ?_
  split
  · exact blind_pure
  · exact blind_failType

theorem blind_number {k : Number} : Blind n m (number k) := by
  cases k <;> exact blind_box

theorem blind_inspect {v : Value} : Blind n m (inspect v) := by
  refine blind_state_bind (fun _ => rfl) fun s => ?_
  split
  · exact blind_pure
  · exact blind_pure
  · exact blind_pure
  · exact blind_stringify

theorem blind_printed {method : String} {receiver : Value} {vs : List Value} :
    Blind n m (printed method receiver vs) := by
  unfold printed
  split
  · exact blind_stringify
  · exact blind_stringify
  · exact blind_fail

theorem blind_print {text : String} : Blind n m (print text) := blind_modify fun _ _ => rfl

variable {receiver : Value} {vs : List Value} {caller : FrameId}

theorem blind_builtin (hnm : n ≤ m) (b : Builtin) : Blind n m (b.run receiver vs caller) := by
  cases b with
  | classNew =>
    refine blind_theClass.bind fun c => (blind_update fun _ _ => rfl).bind fun v => ?_
    refine (blind_read fun s => (s.alike_withLimit m).respondsTo v "init").bind fun b => ?_
    split
    · exact blind_send.bind fun _ => blind_pure
    · exact blind_expect.bind fun _ => blind_pure
  | className =>
    exact blind_expect.bind fun _ => blind_theClass.bind fun c =>
      (blind_read fun _ => rfl).bind fun _ => blind_box
  | classSuperclass =>
    exact blind_expect.bind fun _ => blind_theClass.bind fun c =>
      (blind_read fun _ => rfl).bind fun _ => blind_pure
  | objectToString =>
    refine blind_expect.bind fun _ => ?_
    split
    · exact (blind_read fun _ => rfl).bind fun _ => blind_box
    · exact blind_classNameOf.bind fun _ => blind_box
  | objectInspect => exact blind_expect.bind fun _ => blind_inspect.bind fun _ => blind_box
  | objectClass =>
    exact blind_expect.bind fun _ => (blind_read fun _ => rfl).bind fun _ => blind_pure
  | objectIs =>
    cases vs with
    | nil => exact blind_pure
    | cons v vs => exact (blind_read fun _ => rfl).bind fun _ => blind_pure
  | objectEqual =>
    exact blind_onlyArgument.bind fun v => (blind_read fun _ => rfl).bind fun _ => blind_pure
  | objectNotEqual =>
    exact blind_expect.bind fun _ => blind_send.bind fun equal =>
      (blind_read fun _ => rfl).bind fun _ => blind_pure
  | objectRespondsTo =>
    refine blind_onlyArgument.bind fun v => blind_state_bind (fun s => ?_) fun s => ?_
    · have same (name : String) :
          (s.withLimit m).respondsTo receiver name = s.respondsTo receiver name :=
        (s.alike_withLimit m).respondsTo receiver name
      simp only [same]
      rfl
    · split
      · exact blind_pure
      · exact blind_theText.bind fun _ => blind_pure
  | objectIsNil => exact blind_expect.bind fun _ => blind_pure
  | objectPrint => exact blind_printed.bind fun _ => blind_print.bind fun _ => blind_pure
  | objectPrintln => exact blind_printed.bind fun _ => blind_print.bind fun _ => blind_pure
  | numberArithmetic op =>
    refine blind_onlyArgument.bind fun v => ?_
    refine blind_theNumber.bind fun a => blind_theNumber.bind fun b => ?_
    split
    · exact blind_number
    · exact blind_fail
  | numberComparison op =>
    refine blind_onlyArgument.bind fun v => (blind_read fun _ => rfl).bind fun p => ?_
    split
    · exact blind_pure
    · exact blind_theNumber.bind fun a => blind_theNumber.bind fun b => blind_pure
  | numberToString => exact blind_expect.bind fun _ => blind_theNumber.bind fun _ => blind_box
  | numberToInt => exact blind_expect.bind fun _ => blind_theNumber.bind fun _ => blind_box
  | numberToFloat => exact blind_expect.bind fun _ => blind_theNumber.bind fun _ => blind_number
  | stringConcat =>
    exact blind_onlyArgument.bind fun v => blind_theText.bind fun _ =>
      blind_stringify.bind fun _ => blind_box
  | stringLength | stringUpcase | stringDowncase =>
    exact blind_expect.bind fun _ => blind_theText.bind fun _ => blind_box
  | stringToString => exact blind_expect.bind fun _ => blind_pure
  | stringToSymbol => exact blind_expect.bind fun _ => blind_theText.bind fun _ => blind_symbol
  | symbolNew =>
    dsimp only [Builtin.run]
    split
    · exact blind_symbol
    · exact blind_stringify.bind fun _ => blind_symbol
    · exact blind_fail
  | symbolIs =>
    refine blind_state_bind (fun _ => rfl) fun s => ?_
    split
    · exact blind_pure
    · exact blind_pure
  | symbolToString =>
    refine blind_expect.bind fun _ => blind_state_bind (fun _ => rfl) fun s => ?_
    split
    · exact blind_box
    · exact blind_failType
  | booleanToString =>
    exact blind_expect.bind fun _ => (blind_read fun _ => rfl).bind fun _ => blind_box
  | booleanNot =>
    exact blind_expect.bind fun _ => (blind_read fun _ => rfl).bind fun _ => blind_pure
  | nilToString => exact blind_expect.bind fun _ => blind_box
  | lambdaCall =>
    refine (blind_read fun _ => rfl).bind fun closure => ?_
    split
    · exact blind_applyClosure hnm
    · exact blind_failType

theorem blind_probe (p : Probe) : Blind n m (p.run receiver vs caller) := by
  cases p with
  | peek name => exact blind_read fun s => (s.alike_withLimit m).get caller name
  | frameKind => exact (blind_read fun _ => rfl).bind fun _ => blind_box
  | callerSelf => exact (blind_read fun _ => rfl).bind fun _ => blind_pure
  | receiver => exact blind_pure
  | argumentCount => exact blind_box
  | activeMethod =>
    refine (blind_read fun s => (s.alike_withLimit m).active? caller).bind fun a => ?_
    split
    · exact blind_box
    · exact blind_pure
  | pair =>
    dsimp only [Probe.run]
    split
    · exact (blind_read fun _ => rfl).bind fun _ => blind_pure
    · exact blind_fail
  | fail message => exact blind_fail

theorem blind_native (hnm : n ≤ m) (k : Native) : Blind n m (k.run receiver vs caller) := by
  cases k with
  | builtin b => exact blind_builtin hnm b
  | reader name =>
    exact blind_expect.bind fun _ => (blind_read fun _ => rfl).bind fun _ => blind_pure
  | writer name =>
    refine blind_onlyArgument.bind fun v => ?_
    exact (blind_modify fun s m => s.setIvar_withLimit m receiver name v).bind fun _ => blind_pure
  | probe p => exact blind_probe p

/-! ## Methods, text, classes and namespaces -/

theorem blind_invoke (hnm : n ≤ m) {owner : ClassId} {method : Method} :
    Blind n m (invoke receiver owner method vs caller) := by
  obtain ⟨name, body⟩ := method
  cases body with
  | native k =>
    rw [invoke_native]
    exact blind_nested hnm (blind_native hnm k)
  | user params body =>
    have enter : Blind n m (update (·.enter receiver owner name params vs)) :=
      blind_update fun s m => s.enter_withLimit m receiver owner name params vs
    rw [invoke_user]
    exact blind_nested hnm (enter.bind fun _ => blind_body)

theorem blind_dispatch (hnm : n ≤ m) {name : String} :
    Blind n m (dispatch receiver name vs caller) := by
  refine (blind_read fun s => (s.alike_withLimit m).methodOf? receiver name).bind fun found => ?_
  split
  · exact blind_invoke hnm
  · exact blind_classNameOf.bind fun _ => blind_fail

variable {f : FrameId}

theorem blind_callParent (hnm : n ≤ m) {a : State.Activation} :
    Blind n m (callParent f a vs) := by
  refine blind_state_bind (fun s => ?_) fun s => ?_
  · have h := s.alike_withLimit m
    simp only [h.classAt, h.findMethod?]
  · dsimp only
    split
    · exact blind_invoke hnm
    · exact blind_fail

theorem blind_callSuper (hnm : n ≤ m) {given : Option (List Node)} :
    Blind n m (callSuper f given) := by
  refine (blind_read fun s => (s.alike_withLimit m).active? f).bind fun active => ?_
  split
  · exact (blind_read fun _ => rfl).bind fun self => blind_classNameOf.bind fun _ => blind_fail
  · next a =>
    split
    · exact blind_arguments.bind fun vs => blind_callParent hnm
    · have forwarded : Blind n m (read (forwardedArguments · a)) :=
        blind_read fun s => (s.alike_withLimit m).forwardedArguments a
      exact forwarded.bind fun vs => blind_callParent hnm

theorem blind_appendSegments {text : String} {segments : List Segment} :
    Blind n m (appendSegments f text segments) := by
  induction segments generalizing text with
  | nil => exact blind_pure
  | cons segment rest ih =>
    cases segment with
    | literal t => exact ih
    | reference name =>
      refine (blind_read fun s => (s.alike_withLimit m).get f name).bind fun v => ?_
      exact blind_stringify.bind fun t => ih

theorem blind_interpolate {text : String} : Blind n m (interpolate f text) := by
  unfold interpolate
  split
  · exact blind_appendSegments
  · exact blind_pure

theorem blind_parentClass {parent : Option String} : Blind n m (parentClass f parent) := by
  cases parent with
  | none => exact blind_pure
  | some name =>
    refine (blind_read fun s => (s.alike_withLimit m).get f name).bind fun v => ?_
    split
    · exact blind_pure
    · exact blind_fail

theorem blind_defineClass {name : String} {parent : Option String} :
    Blind n m (defineClass f name parent) := by
  refine (blind_read fun s => (s.alike_withLimit m).get f name).bind fun v => ?_
  split
  · exact blind_pure
  · exact blind_parentClass.bind fun c => blind_update fun s m => s.createClass_withLimit m f name c
  · exact blind_failType

theorem blind_openSpace {name : String} : Blind n m (openSpace f name) := by
  refine (blind_read fun s => (s.alike_withLimit m).registered? f name).bind fun found => ?_
  split
  · exact blind_pure
  · exact blind_update fun s m => s.createSpace_withLimit m f name

theorem blind_assign {name : String} {k : Node} : Blind n m (assign f name k) :=
  blind_value.bind fun v =>
    (blind_modify fun s m => s.set_withLimit m f name v).bind fun _ => blind_pure

/-! ## Tasks -/

theorem blind_normal {x : Eval Value} (hx : Blind n m x) : Blind n m (normal x) :=
  hx.bind fun _ => blind_pure

theorem blind_performNode (hnm : n ≤ m) (k : Node) : Blind n m (performNode f k) := by
  cases k with
  | int k => exact blind_normal blind_box
  | float x => exact blind_normal blind_box
  | text t => exact blind_normal (blind_interpolate.bind fun _ => blind_box)
  | symbol name => exact blind_normal blind_symbol
  | true | false | nil => exact blind_pure
  | self => exact (blind_read fun _ => rfl).bind fun _ => blind_pure
  | getLocal name =>
    refine blind_normal (blind_state_bind (fun s => ?_) fun s => ?_)
    · have h := s.alike_withLimit m
      simp only [h.get, h.frameAt, h.respondsTo]
    · dsimp only
      split
      · exact blind_send
      · exact blind_pure
  | getConstant name | getGlobal name | getClassVar name | getInstanceVar name =>
    exact blind_normal (blind_read fun s => (s.alike_withLimit m).get f name)
  | setLocal name k | setGlobal name k | setClassVar name k | setInstanceVar name k =>
    exact blind_normal blind_assign
  | setConstant name k =>
    refine blind_normal ((blind_read fun _ => rfl).bind fun own => ?_)
    split
    · exact blind_pure
    · refine blind_value.bind fun v => ?_
      exact (blind_update fun s m => s.defineConstant_withLimit m f name v).bind fun _ => blind_pure
  | call receiver method ns =>
    refine blind_normal ?_
    cases receiver with
    | some k => exact blind_value.bind fun v => blind_arguments.bind fun vs => blind_send
    | none =>
      exact (blind_read fun _ => rfl).bind fun self => blind_arguments.bind fun vs => blind_send
  | super given => exact blind_normal (blind_callSuper hnm)
  | defineClass name parent body =>
    exact blind_normal (blind_defineClass.bind fun c => (blind_read fun _ => rfl).bind fun g =>
      blind_statements.bind fun _ => blind_pure)
  | property names =>
    refine blind_normal ((blind_read fun _ => rfl).bind fun x => ?_)
    exact (blind_modify fun s m => s.addProperty_withLimit m x.cls names).bind fun _ => blind_pure
  | defineMethod name params body =>
    refine blind_normal ((blind_read fun _ => rfl).bind fun x => ?_)
    exact (blind_modify fun _ _ => rfl).bind fun _ => blind_pure
  | lambda params body => exact blind_normal blind_box
  | ifElse condition body otherwise =>
    refine blind_value.bind fun v => (blind_read fun _ => rfl).bind fun b => ?_
    split
    · exact blind_statements
    · split
      · exact blind_ask
      · exact blind_pure
  | whileLoop condition body => exact blind_ask
  | block body => exact blind_statements
  | «return» value =>
    cases value with
    | none => exact blind_pure
    | some k => exact blind_value.bind fun _ => blind_pure
  | next => exact blind_pure
  | and left right | or left right =>
    refine blind_normal (blind_value.bind fun v => (blind_read fun _ => rfl).bind fun b => ?_)
    split
    · first | exact blind_value | exact blind_pure
    · first | exact blind_pure | exact blind_value
  | not operand =>
    refine blind_normal (blind_value.bind fun v => ?_)
    exact (blind_read fun _ => rfl).bind fun _ => blind_pure
  | inNamespace name body =>
    exact blind_normal (blind_openSpace.bind fun g => blind_statements.bind fun _ => blind_pure)
  | getFromNamespace space name =>
    refine blind_normal ?_
    refine (blind_read fun s => (s.alike_withLimit m).findNamespace? f space).bind fun found => ?_
    split
    · next g => exact blind_read fun s => (s.alike_withLimit m).get g name
    · exact blind_pure

theorem blind_performLoop {condition : Node} {body : List Node} {last : Value} :
    Blind n m (performLoop condition body f last) := by
  refine blind_value.bind fun v => (blind_read fun _ => rfl).bind fun b => ?_
  split
  · refine blind_statements.bind fun flow => ?_
    cases flow with
    | normal w => exact blind_ask
    | skip => exact blind_ask
    | «return» w => exact blind_pure
  · exact blind_pure

/-- **No task looks at the limit**, but for the calls in it. -/
theorem blind_perform (hnm : n ≤ m) (t : Task) : Blind n m t.perform := by
  cases t with
  | node k f => exact blind_performNode hnm k
  | loop condition body f last => exact blind_performLoop
  | send receiver name vs caller => exact blind_normal (blind_dispatch hnm)

/-- **A run that has not hit its limit is the same under a higher one**: it has the same outcome and
leaves the same state, up to the limit. -/
theorem ends_withLimit {p : Program} {f : FrameId} {s s' : State} {r : Outcome Flow} (hnm : n ≤ m)
    (h : (statements p f).Ends (s.withLimit n) r s')
    (hr : ∀ limit, r ≠ .error (.stackOverflow limit)) :
    (statements p f).Ends (s.withLimit m) r (s'.withLimit m) ∧ s'.limit = n := by
  have spared : ¬ Overflowed r := fun ⟨limit, e⟩ => hr limit e
  obtain ⟨hl, h'⟩ := blind_statements.ends (blind_perform hnm) rfl h spared
  exact ⟨h', hl⟩

/-- Two calls, one within the other, that print on their way. -/
def nestedCalls : Program :=
  [.defineMethod "inner" ["x"] [.call none "print" [.getLocal "x"], .getLocal "x"],
    .defineMethod "outer" ["x"] [.call none "inner" [.getLocal "x"]],
    .call none "outer" [.int 7]]

/-- Five levels are enough for them, so nine change nothing. -/
theorem ends_withLimit_nestedCalls : 5 ≤ 9 ∧ ∃ r s',
    (statements nestedCalls Core.root).Ends ((State.initial 0).withLimit 5) r s' ∧
    (∀ limit, r ≠ .error (.stackOverflow limit)) ∧
    (statements nestedCalls Core.root).Ends ((State.initial 0).withLimit 9) r (s'.withLimit 9) ∧
    s'.limit = 5 := by
  obtain ⟨r, s', h, ok⟩ : ∃ r s', (statements nestedCalls Core.root).Ends
      ((State.initial 0).withLimit 5) r s' ∧ r.toBool = true :=
    exists_ends_of_run 200 (fun r _ => r.toBool) (by decide +kernel)
  have spared (limit : Nat) : r ≠ .error (.stackOverflow limit) := by
    rintro rfl
    exact absurd ok nofun
  exact ⟨by decide, r, s', h, spared, ends_withLimit (by decide) h spared⟩

end Eval

end OpenScript
