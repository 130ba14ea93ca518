import OpenScript.Library
import OpenScript.Segment

/-!
# Eval/Node — what nodes, loops and calls do

`Task.perform` says what each task does in terms of the tasks it asks for.  A node ends with a
signal only if it is one or stands for statements: all others end through `normal`, with the value
of what they evaluate, so a `return` or `next` in an operand, a class body or a called method goes
no further.
-/

namespace OpenScript

namespace Eval

/-! ## Text -/

/-- Appends what segments stand for to a text. -/
def appendSegments (f : FrameId) (text : String) : List Segment → Eval String
  | [] => return text
  | .literal t :: rest => appendSegments f (text ++ t) rest
  | .reference name :: rest => do
    let v ← read (·.get f name)
    let t ← stringify v
    appendSegments f (text ++ t) rest

/-- A text with its markers replaced. -/
def interpolate (f : FrameId) (text : String) : Eval String :=
  if Segment.hasMarker text then appendSegments f "" (Segment.scan text) else return text

/-! ## Methods -/

/-- Runs a method that was found in the class `owner`.  One written in the language runs in a frame
of its own, inside a frame for the receiver, inside the body of `owner`. -/
def invoke (receiver : Value) (owner : ClassId) (m : Method) (vs : List Value) (caller : FrameId) :
    Eval Value :=
  nested do
    match m.body with
    | .native n => n.run receiver vs caller
    | .user params body =>
      let classFrame := (← read (·.classAt owner)).frame
      let space ← read (·.governing classFrame)
      let g ← update (·.newReceiver classFrame receiver space)
      let f ← update (·.newActivation g m.name vs none)
      modify (·.bindParams f params vs)
      return (← statements body f).value

/-- Calls the method that a receiver answers a name with. -/
def dispatch (receiver : Value) (name : String) (vs : List Value) (caller : FrameId) :
    Eval Value := do
  match ← read (·.methodOf? receiver name) with
  | some (owner, m) => invoke receiver owner m vs caller
  | none => fail (.noMethod (← read (·.classNameOf receiver)) name)

/-- The arguments that a bare `super` passes on: the current values of the parameters, then the
surplus arguments of the running call. -/
def forwardedArguments (s : State) (a : State.Activation) : List Value :=
  let params := ((s.findMethod? a.cls a.name).map fun (_, m) => m.params).getD []
  params.map (fun p => (s.lookupOwn a.frame p).getD .nil) ++ a.arguments.drop params.length

/-- Calls the running method as the parent of the class that defines it knows it. -/
def callSuper (f : FrameId) (given : Option (List Node)) : Eval Value := do
  match ← read (·.active? f) with
  | none => do
    let self := (← read (·.frameAt f)).self
    fail (.noMethod (← read (·.classNameOf self)) "super")
  | some a => do
    let vs ← match given with
      | some ns => arguments f ns
      | none => read (forwardedArguments · a)
    let s ← state
    let parent := (s.classAt a.cls).parent
    match parent.bind (s.findMethod? · a.name) with
    | some (owner, m) => invoke a.receiver owner m vs f
    | none => fail (.noMethod (s.classAt (parent.getD a.cls)).name a.name)

/-! ## Classes and namespaces -/

/-- The class that a new class extends. -/
def parentClass (f : FrameId) : Option String → Eval ClassId
  | none => return Core.object
  | some name => do
    match ← read (·.get f name) with
    | .cls c => return c
    | _ => fail (.undefinedClass name)

/-- Adds a class with its body in a frame and binds its name there. -/
def createClass (s : State) (f : FrameId) (name : String) (parent : ClassId) : ClassId × State :=
  let c := s.classes.size
  let (frame, s) := s.newClassBody f c
  let (_, s) := s.addClass { name, parent := some parent, frame }
  (c, s.set f name (.cls c))

/-- The class of a name, made if the name is `nil`. -/
def defineClass (f : FrameId) (name : String) (parent : Option String) : Eval ClassId := do
  match ← read (·.get f name) with
  | .cls c => return c
  | .nil => do
    let p ← parentClass f parent
    update (createClass · f name p)
  | v => failType "class" v

/-- Adds a reader and a writer to a class. -/
def addProperty (c : ClassId) (s : State) (name : String) : State :=
  (s.defineMethod c ⟨name, .native (.reader name)⟩).defineMethod c
    ⟨name ++ "=", .native (.writer name)⟩

/-- Adds a namespace in a frame and registers it. -/
def createSpace (s : State) (f : FrameId) (name : String) : FrameId × State :=
  let (self, s) := s.instantiate Core.object
  let (space, s) := s.newSpace f self Core.object
  (space, s.register f name space)

/-- The namespace of a name, made if there is none. -/
def openSpace (f : FrameId) (name : String) : Eval FrameId := do
  match ← read (·.registered? f name) with
  | some space => return space
  | none => update (createSpace · f name)

/-! ## Nodes -/

/-- Writes the value of a node under a name. -/
def assign (f : FrameId) (name : String) (n : Node) : Eval Value := do
  let v ← value n f
  modify (·.set f name v)
  return v

/-- Ends normally with a value. -/
def normal (x : Eval Value) : Eval Flow := do return .normal (← x)

/-- Evaluates a node. -/
def performNode (f : FrameId) : Node → Eval Flow
  | .int n => normal (integer n)
  | .float x => normal (box Core.float (.float x))
  | .text t => normal do string (← interpolate f t)
  | .symbol name => normal (symbol name)
  | .true => return .normal (Core.bool true)
  | .false => return .normal (Core.bool false)
  | .nil => return .normal .nil
  | .self => do return .normal (← read (·.frameAt f)).self
  | .getLocal name => normal do
    let s ← state
    let v := s.get f name
    let self := (s.frameAt f).self
    if v == .nil && s.respondsTo self name then send self name [] f else return v
  | .getConstant name | .getGlobal name | .getClassVar name | .getInstanceVar name =>
    normal (read (·.get f name))
  | .setLocal name n | .setGlobal name n | .setClassVar name n | .setInstanceVar name n =>
    normal (assign f name n)
  | .setConstant name n => normal do
    match ← read (·.ownConstant? f name) with
    | some v => return v
    | none =>
      let v ← value n f
      let _ ← update (·.defineConstant f name v)
      return v
  | .call receiver method ns => normal do
    let v ← match receiver with
      | some n => value n f
      | none => do pure (← read (·.frameAt f)).self
    let vs ← arguments f ns
    send v method vs f
  | .super given => normal (callSuper f given)
  | .defineClass name parent body => normal do
    let c ← defineClass f name parent
    let g := (← read (·.classAt c)).frame
    let _ ← statements body g
    return .cls c
  | .property names => normal do
    let c := (← read (·.frameAt f)).cls
    modify (names.foldl (addProperty c) ·)
    return .nil
  | .defineMethod name params body => normal do
    let c := (← read (·.frameAt f)).cls
    modify (·.defineMethod c ⟨name, .user params body⟩)
    return .nil
  | .lambda params body => normal (box Core.lambda (.lambda ⟨params, body, f⟩))
  | .ifElse condition body otherwise => do
    let v ← value condition f
    if ← read (·.isTruthy v) then statements body f
    else match otherwise with
      | some n => node n f
      | none => return .normal .nil
  | .whileLoop condition body => ask (.loop condition body f .nil)
  | .block body => statements body f
  | .return none => return .return .nil
  | .return (some n) => do return .return (← value n f)
  | .next => return .skip
  | .and left right => normal do
    let v ← value left f
    if ← read (·.isTruthy v) then value right f else return v
  | .or left right => normal do
    let v ← value left f
    if ← read (·.isTruthy v) then return v else value right f
  | .not operand => normal do
    let v ← value operand f
    return Core.bool !(← read (·.isTruthy v))
  | .inNamespace name body => normal do
    let g ← openSpace f name
    return (← statements body g).value
  | .getFromNamespace space name => normal do
    match ← read (·.findNamespace? f space) with
    | some g => read (·.get g name)
    | none => return .nil

/-- Runs one iteration of a loop and then the others. -/
def performLoop (condition : Node) (body : List Node) (f : FrameId) (last : Value) : Eval Flow := do
  let v ← value condition f
  if ← read (·.isTruthy v) then
    match ← statements body f with
    | .normal v => ask (.loop condition body f v)
    | .skip => ask (.loop condition body f last)
    | .return v => return .return v
  else return .normal last

end Eval

/-- What a task does, in terms of the tasks it asks for. -/
def Task.perform : Task → Eval Flow
  | .node n f => Eval.performNode f n
  | .loop condition body f last => Eval.performLoop condition body f last
  | .send receiver name vs caller => Eval.normal (Eval.dispatch receiver name vs caller)

/-- Runs an evaluation from a state: its outcome and the state it leaves, unless one of its tasks
takes more steps than the fuel. -/
def Eval.run (fuel : Nat) (x : Eval α) (s : State) : Option (Outcome α × State) :=
  (x s).run (Comp.execute Task.perform fuel)

end OpenScript
