import OpenScript.Proofs.Checked.Run
import OpenScript.Proofs.Natives

/-!
# Proofs/Checked/Library — the built-in methods with every index checked

Methods that use no index are lifted as they are.  The others look classes, names and arguments up
with checks, and follow the methods without (`Checked.follows_native`).
-/

namespace OpenScript

namespace Checked

open Discipline

/-! ## Methods -/

/-- Fails because a value of one class stands where something else is needed. -/
def failType (expected : String) (v : Value) : Run α := do
  fail (.type expected (← look (classNameOf · v)))

/-- The text that a value becomes. -/
def stringify (v : Value) : Run String := do
  let shown ← lift (Eval.send v "to_string" [] Core.root)
  match ← lift (Eval.read (·.text? shown)) with
  | some text => return text
  | none => failType "String from to_string" shown

/-- The only argument, which is taken by its place once there is one. -/
def onlyArgument (method : String) (vs : List Value) : Run Value := do
  lift (Eval.expect method 1 vs)
  look fun _ => argument vs 0

/-- The class that a value is. -/
def theClass : Value → Run ClassId
  | .cls c => return c
  | v => failType "Class" v

/-- The text in a value. -/
def theText (v : Value) : Run String := do
  match ← lift (Eval.read (·.text? v)) with
  | some text => return text
  | none => failType "String" v

/-- The number in a value. -/
def theNumber (v : Value) : Run Number := do
  match Number.ofPayload? (← lift (Eval.read (·.payload v))) with
  | some n => return n
  | none => failType "number" v

/-- The text that shows a value. -/
def inspect (v : Value) : Run String := do
  let s ← lift Eval.state
  match s.payload v, v with
  | .text t, _ => return Text.shown t
  | .symbol i, _ => return ":" ++ (← look (resolve · i))
  | _, .nil => return "nil"
  | _, _ => stringify v

/-- The text that `print` writes. -/
def printed (method : String) (receiver : Value) (vs : List Value) : Run String :=
  match vs.length with
  | 0 => stringify receiver
  | 1 => do stringify (← look fun _ => argument vs 0)
  | n => fail (.arity method 1 n)

/-- What a method without arguments does with the text of the receiver. -/
def onText (method : String) (receiver : Value) (vs : List Value) (use : String → Eval Value) :
    Run Value := do
  lift (Eval.expect method 0 vs)
  let text ← theText receiver
  lift (use text)

/-- What a method without arguments does with the number of the receiver. -/
def onNumber (method : String) (receiver : Value) (vs : List Value) (use : Number → Eval Value) :
    Run Value := do
  lift (Eval.expect method 0 vs)
  let n ← theNumber receiver
  lift (use n)

/-- Does what a built-in method does. -/
def builtin (receiver : Value) (vs : List Value) (caller : FrameId) : Builtin → Run Value
  | .classNew => do
    let c ← theClass receiver
    let v ← lift (Eval.update (·.instantiate c))
    if ← look (respondsTo · v "init") then
      let _ ← lift (Eval.send v "init" vs caller)
    else
      lift (Eval.expect "new" 0 vs)
    return v
  | .className => do
    lift (Eval.expect "name" 0 vs)
    let c ← theClass receiver
    lift (Eval.string (← look (classAt · c)).name)
  | .classSuperclass => do
    lift (Eval.expect "superclass" 0 vs)
    let c ← theClass receiver
    return ((← look (classAt · c)).parent.map .cls).getD .nil
  | .objectToString => do
    lift (Eval.expect "to_string" 0 vs)
    match receiver with
    | .cls c => lift (Eval.string (← look (classAt · c)).name)
    | v => lift (Eval.string ("<" ++ (← look (classNameOf · v)) ++ ">"))
  | .objectInspect => do
    lift (Eval.expect "inspect" 0 vs)
    lift (Eval.string (← inspect receiver))
  | .objectRespondsTo => do
    let v ← onlyArgument "responds_to" vs
    let s ← lift Eval.state
    let name ← match s.symbol? v with
      | some i => look (resolve · i)
      | none => theText v
    return Core.bool (← look fun _ => respondsTo s receiver name)
  | .objectPrint => do
    lift (Eval.print (← printed "print" receiver vs))
    return .nil
  | .objectPrintln => do
    lift (Eval.print ((← printed "println" receiver vs) ++ "\n"))
    return .nil
  | .numberArithmetic op => do
    let v ← onlyArgument op.label vs
    let a ← theNumber receiver
    let b ← theNumber v
    match Number.arithmetic? op a b with
    | some n => lift (Eval.number n)
    | none => fail .dividedByZero
  | .numberComparison op => do
    let v ← onlyArgument op.label vs
    match op, Number.ofPayload? (← lift (Eval.read (·.payload v))) with
    | .equal, none => return Core.bool false
    | _, _ =>
      let a ← theNumber receiver
      let b ← theNumber v
      return Core.bool (Number.compare op a b)
  | .numberToString => onNumber "to_string" receiver vs fun n => Eval.string n.text
  | .numberToInt => onNumber "to_int" receiver vs fun n => Eval.integer n.toInt64
  | .numberToFloat => onNumber "to_float" receiver vs fun n => Eval.number (.float n.toFloat)
  | .stringConcat => do
    let v ← onlyArgument "+" vs
    let text ← theText receiver
    lift (Eval.string (text ++ (← stringify v)))
  | .stringLength =>
    onText "length" receiver vs fun text => Eval.integer (Int64.ofNat text.length)
  | .stringUpcase => onText "upcase" receiver vs fun text => Eval.string (Text.upper text)
  | .stringDowncase => onText "downcase" receiver vs fun text => Eval.string (Text.lower text)
  | .stringToSymbol => onText "to_symbol" receiver vs Eval.symbol
  | .symbolNew => do
    match vs with
    | [] => lift (Eval.symbol "nil")
    | [v] => lift (Eval.symbol (← stringify v))
    | vs => fail (.arity "new" 1 vs.length)
  | .symbolToString => do
    lift (Eval.expect "to_string" 0 vs)
    let s ← lift Eval.state
    match s.symbol? receiver with
    | some i => lift (Eval.string (← look (resolve · i)))
    | none => failType "Symbol" receiver
  | .lambdaCall => do
    match ← lift (Eval.read (·.closure? receiver)) with
    | some c => lift (Eval.applyClosure c vs)
    | none => failType "Lambda" receiver
  -- The others use no index: they compare, negate or return what they have.
  | b => lift (b.run receiver vs caller)

/-- Does what a method does that is not written in the language. -/
def native (receiver : Value) (vs : List Value) (caller : FrameId) : Native → Run Value
  | .builtin b => builtin receiver vs caller b
  | .reader name => do
    lift (Eval.expect name 0 vs)
    return (← look (ivar? · receiver name)).getD .nil
  | .writer name => do
    let v ← onlyArgument (name ++ "=") vs
    change (setIvar · receiver name v)
    return v
  | .probe (.peek name) => look (get · caller name)
  | .probe p => lift (p.run receiver vs caller)

/-! ## Following -/

section Following

variable {s : State} {receiver v : Value} {vs : List Value} {caller : FrameId} {α : Type}

theorem follows_failType {expected : String} (h : s.Indexed) :
    Follows (α := α) s (Eval.failType expected v) (failType expected v) :=
  follows_look_bind (classNameOf_eq (known_in h) v) rfl

theorem follows_stringify (h : s.Indexed) (hv : (Item.value v).In s) :
    Follows s (Eval.stringify v) (stringify v) := by
  have sent : Discipline.indexed.Yields (fun _ => True) s (Eval.send v "to_string" [] Core.root) :=
    Discipline.keeps_send h hv nofun (h.has (.inl .root)) trivial
  refine follows_lift.bind sent fun shown s₁ l₁ _ => follows_lift_read_bind ?_
  cases s₁.text? shown with
  | some text => exact follows_pure
  | none => exact follows_failType l₁.fits

/-- **The first argument is there where it is taken.** -/
theorem follows_onlyArgument {method : String} :
    Follows s (Eval.onlyArgument method vs) (onlyArgument method vs) := by
  match vs with
  | [] => rfl
  | [v] => rfl
  | v :: w :: vs =>
    have more : (v :: w :: vs).length ≠ 1 := by simp
    rw [onlyArgument, Eval.expect, if_neg more]
    rfl

theorem follows_theClass (h : s.Indexed) : Follows s (Eval.theClass v) (theClass v) := by
  cases v with
  | cls c => exact follows_pure
  | nil | object o => exact follows_failType h

theorem follows_theText (h : s.Indexed) : Follows s (Eval.theText v) (theText v) := by
  refine follows_lift_read_bind ?_
  cases s.text? v with
  | some text => exact follows_pure
  | none => exact follows_failType h

theorem follows_theNumber (h : s.Indexed) : Follows s (Eval.theNumber v) (theNumber v) := by
  refine follows_lift_read_bind ?_
  cases Number.ofPayload? (s.payload v) with
  | some n => exact follows_pure
  | none => exact follows_failType h

theorem follows_inspect (h : s.Indexed) (hv : (Item.value v).In s) :
    Follows s (Eval.inspect v) (inspect v) := by
  refine follows_lift_state_bind ?_
  cases hp : s.payload v with
  | text t => exact follows_pure
  | symbol i =>
    exact follows_looked (g := (resolve · i)) (resolve_eq (symbol_lt h hp)) follows_pure
  | _ => cases v with
    | nil => exact follows_pure
    | cls | object => exact follows_stringify h hv

theorem follows_printed {method : String} (h : s.Indexed) (hr : (Item.value receiver).In s)
    (hv : ∀ v ∈ vs, (Item.value v).In s) :
    Follows s (Eval.printed method receiver vs) (printed method receiver vs) := by
  match vs with
  | [] => exact follows_stringify h hr
  | [v] => exact follows_looked rfl (follows_stringify h (hv v List.mem_cons_self))
  | v :: w :: vs => exact follows_fail

theorem follows_onText {method : String} {use : String → Eval Value} (h : s.Indexed) :
    Follows s (do Eval.expect method 0 vs; use (← Eval.theText receiver))
      (onText method receiver vs use) := by
  refine follows_lift.bind (runs_expect h) fun _ s₁ l₁ _ => ?_
  exact (follows_theText l₁.fits).then fun text _ => follows_lift

theorem follows_onNumber {method : String} {use : Number → Eval Value} (h : s.Indexed) :
    Follows s (do Eval.expect method 0 vs; use (← Eval.theNumber receiver))
      (onNumber method receiver vs use) := by
  refine follows_lift.bind (runs_expect h) fun _ s₁ l₁ _ => ?_
  exact (follows_theNumber l₁.fits).then fun n _ => follows_lift

/-- Both operands are there where they are taken. -/
theorem follows_operands {x : Number → Number → Eval Value}
    {y : Number → Number → Run Value} (h : s.Indexed)
    (hxy : ∀ a b s', Follows s' (x a b) (y a b)) :
    Follows s (do x (← Eval.theNumber receiver) (← Eval.theNumber v))
      (do y (← theNumber receiver) (← theNumber v)) := by
  refine (follows_theNumber h).bind (runs_theNumber h) fun a s₁ l₁ _ => ?_
  exact (follows_theNumber l₁.fits).then fun b s₂ => hxy a b s₂

theorem follows_builtin (h : s.Indexed) (hr : (Item.value receiver).In s)
    (hv : ∀ v ∈ vs, (Item.value v).In s) (b : Builtin) :
    Follows s (b.run receiver vs caller) (builtin receiver vs caller b) := by
  cases b with
  | classNew =>
    refine (follows_theClass h).bind (keeps_theClass h hr) fun c s₁ l₁ hcls => ?_
    refine follows_lift.bind (yields_instantiate l₁.fits hcls) fun v s₂ l₂ hv₂ => ?_
    refine follows_look_bind (respondsTo_eq (known_in l₂.fits) hv₂ "init") ?_
    split
    · exact follows_lift.then fun _ _ => follows_pure
    · exact follows_lift.then fun _ _ => follows_pure
  | className =>
    refine follows_lift.bind (runs_expect h) fun _ s₁ l₁ _ => ?_
    refine (follows_theClass l₁.fits).bind
      (keeps_theClass l₁.fits (l₁.has hr)) fun c s₂ l₂ hcls => ?_
    exact follows_look_bind (classAt_eq hcls) follows_lift
  | classSuperclass =>
    refine follows_lift.bind (runs_expect h) fun _ s₁ l₁ _ => ?_
    refine (follows_theClass l₁.fits).bind
      (keeps_theClass l₁.fits (l₁.has hr)) fun c s₂ l₂ hcls => ?_
    exact follows_look_bind (classAt_eq hcls) follows_pure
  | objectToString =>
    refine follows_lift.bind (runs_expect h) fun _ s₁ l₁ _ => ?_
    cases receiver with
    | cls c =>
      exact follows_look_bind (classAt_eq (l₁.has (i := .value (.cls c)) hr)) follows_lift
    | nil | object => exact follows_look_bind (classNameOf_eq (known_in l₁.fits) _) follows_lift
  | objectInspect =>
    refine follows_lift.bind (runs_expect h) fun _ s₁ l₁ _ => ?_
    exact (follows_inspect l₁.fits (l₁.has hr)).then fun _ _ => follows_lift
  | objectRespondsTo =>
    refine follows_onlyArgument.bind (yields_onlyArgument h hv) fun v s₁ l₁ hv₁ => ?_
    refine follows_lift_state_bind ?_
    have answers (name : String) {s₂} : Follows s₂ (pure (Core.bool (s₁.respondsTo receiver name)))
        (do return Core.bool (← look fun _ => respondsTo s₁ receiver name)) :=
      follows_looked (respondsTo_eq (known_in l₁.fits) (l₁.has hr) name) follows_pure
    cases hi : s₁.symbol? v with
    | some i =>
      exact follows_looked (g := (resolve · i)) (resolve_eq (symbol?_lt l₁.fits hi)) (answers _)
    | none =>
      exact (follows_theText l₁.fits).then fun name _ => answers name
  | objectPrint | objectPrintln =>
    refine (follows_printed h hr hv).then fun text _ => ?_
    exact follows_lift.then fun _ _ => follows_pure
  | numberArithmetic op =>
    refine follows_onlyArgument.bind (yields_onlyArgument h hv) fun v s₁ l₁ _ => ?_
    refine follows_operands l₁.fits fun a b s₂ => ?_
    cases Number.arithmetic? op a b with
    | some n => exact follows_lift
    | none => exact follows_fail
  | numberComparison op =>
    refine follows_onlyArgument.bind (yields_onlyArgument h hv) fun v s₁ l₁ _ => ?_
    refine follows_lift_read_bind ?_
    have compared : Follows s₁
        (do return Core.bool (Number.compare op (← Eval.theNumber receiver) (← Eval.theNumber v)))
        (do return Core.bool (Number.compare op (← theNumber receiver) (← theNumber v))) :=
      follows_operands l₁.fits fun _ _ _ => follows_pure
    cases Number.ofPayload? (s₁.payload v) with
    | some n => cases op <;> exact compared
    | none => cases op with
      | equal => exact follows_pure
      | _ => exact compared
  | numberToString | numberToInt | numberToFloat => exact follows_onNumber h
  | stringConcat =>
    refine follows_onlyArgument.bind (yields_onlyArgument h hv) fun v s₁ l₁ hv₁ => ?_
    refine (follows_theText l₁.fits).bind (runs_theText l₁.fits) fun text s₂ l₂ _ => ?_
    exact (follows_stringify l₂.fits (l₂.has hv₁)).then fun _ _ => follows_lift
  | stringLength | stringUpcase | stringDowncase | stringToSymbol => exact follows_onText h
  | symbolNew =>
    match vs with
    | [] => exact follows_lift
    | [v] => exact (follows_stringify h (hv v List.mem_cons_self)).then fun _ _ => follows_lift
    | v :: w :: vs => exact follows_fail
  | symbolToString =>
    refine follows_lift.bind (runs_expect h) fun _ s₁ l₁ _ => follows_lift_state_bind ?_
    cases hi : s₁.symbol? receiver with
    | some i =>
      exact follows_looked (g := (resolve · i)) (resolve_eq (symbol?_lt l₁.fits hi)) follows_lift
    | none => exact follows_failType l₁.fits
  | lambdaCall =>
    refine follows_lift_read_bind ?_
    cases s.closure? receiver with
    | some c => exact follows_lift
    | none => exact follows_failType h
  | objectClass | objectIs | objectEqual | objectNotEqual | objectIsNil | stringToString | symbolIs
    | booleanToString | booleanNot | nilToString => exact follows_lift

/-- **A method that is not written in the language uses only indices in range.** -/
theorem follows_native (h : s.Indexed) (hr : (Item.value receiver).In s)
    (hv : ∀ v ∈ vs, (Item.value v).In s) (n : Native) :
    Follows s (n.run receiver vs caller) (native receiver vs caller n) := by
  cases n with
  | builtin b => exact follows_builtin h hr hv b
  | reader name =>
    refine follows_lift.bind (runs_expect h) fun _ s₁ l₁ _ => ?_
    exact follows_look_bind (ivar?_eq (l₁.has hr) name) follows_pure
  | writer name =>
    refine follows_onlyArgument.bind (yields_onlyArgument h hv) fun v s₁ l₁ _ => ?_
    exact (follows_change (setIvar_eq (l₁.has hr) name v)).then fun _ _ => follows_pure
  | probe p =>
    cases p with
    | peek name => exact follows_look (get_eq (known_in h) caller name)
    | frameKind | callerSelf | receiver | argumentCount | activeMethod | pair | fail message =>
      exact follows_lift

end Following

end Checked

end OpenScript
