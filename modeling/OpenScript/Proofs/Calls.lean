import OpenScript.Proofs.Known

/-!
# Proofs/Calls — the frames of a call in one piece

    body of the owner ◂─parent─ receiver's frame ◂─parent─ activation, parameters bound

Entering a method or a lambda adds frames and binds parameters one after the other.  In one piece
(`State.enter_eq`, `State.enterClosure_eq`) it adds frames that have their locals from the start.
-/

namespace OpenScript

/-- The locals of a call: the parameters, bound in order. -/
def boundLocals (locals : Store Value) : List String → List Value → Store Value
  | [], _ => locals
  | p :: ps, [] => boundLocals (locals.insert p .nil) ps []
  | p :: ps, v :: vs => boundLocals (locals.insert p v) ps vs

@[grind →] theorem has_boundLocals {v : Value} : ∀ {ps : List String} {vs : List Value}
    {locals : Store Value},
    Store.Has (boundLocals locals ps vs) v → Store.Has locals v ∨ v = .nil ∨ v ∈ vs
  | [], _, _, h => .inl h
  | p :: ps, [], locals, h => by
    have h : Store.Has (boundLocals (locals.insert p .nil) ps []) v := h
    rcases has_boundLocals h with h | h
    · exact (Store.has_of_insert h).elim (fun h => .inr (.inl h)) .inl
    · exact .inr h
  | p :: ps, w :: vs, locals, h => by
    have h : Store.Has (boundLocals (locals.insert p w) ps vs) v := h
    rcases has_boundLocals h with h | h | h
    · rcases Store.has_of_insert h with rfl | h
      · exact .inr (.inr List.mem_cons_self)
      · exact .inl h
    · exact .inr (.inl h)
    · exact .inr (.inr (List.mem_cons_of_mem _ h))

/-- The activation of a method or a lambda in a frame. -/
def Frame.activation (x : Frame) (f : FrameId) (name : String) (params : List String)
    (vs : List Value) (captured : Option FrameId) : Frame :=
  { self := x.self, cls := x.cls, parent := some f, locals := boundLocals {} params vs,
    role := .activation name vs captured }

/-- Calls the method of a run as the parent of the class that defines it knows it: what `super` does
once it has its arguments. -/
def Eval.callParent (f : FrameId) (a : State.Activation) (vs : List Value) : Eval Value := do
  let s ← state
  let parent := (s.classAt a.cls).parent
  match parent.bind (s.findMethod? · a.name) with
  | some (owner, m) => invoke a.receiver owner m vs f
  | none => fail (.noMethod (s.classAt (parent.getD a.cls)).name a.name)

namespace State

variable (s : State)

/-- Enters a method: its receiver's frame and its activation. -/
def enter (receiver : Value) (owner : ClassId) (name : String) (params : List String)
    (vs : List Value) : FrameId × State :=
  let classFrame := (s.classAt owner).frame
  let (g, s) := s.newReceiver classFrame receiver (s.governing classFrame)
  let (f, s) := s.newActivation g name vs none
  (f, s.bindParams f params vs)

/-- Enters a lambda. -/
def enterClosure (c : Closure) (vs : List Value) : FrameId × State :=
  let (f, s) := s.newActivation c.captured "lambda" vs (some c.captured)
  (f, s.bindParams f c.params vs)

/-- The frame around the activation of a method. -/
def receiverFrame (receiver : Value) (owner : ClassId) : Frame :=
  let classFrame := (s.classAt owner).frame
  { self := receiver, cls := (s.frameAt classFrame).cls, parent := some classFrame,
    role := .receiver (s.governing classFrame) }

/-- Parameters bound in the latest frame are as good as bound from the start. -/
theorem bindParams_addFrame (vs : List Value) (x : Frame) (ps : List String) :
    (s.addFrame x).2.bindParams s.frames.size ps vs
      = (s.addFrame { x with locals := boundLocals x.locals ps vs }).2 := by
  have step (x : Frame) (p : String) (v : Value) :
      (s.addFrame x).2.bindLocal s.frames.size p v
        = (s.addFrame { x with locals := x.locals.insert p v }).2 := by
    simp only [bindLocal, modifyFrame, addFrame]
    congr 1
    refine Array.ext_getElem? fun i => ?_
    grind
  induction ps generalizing x vs with
  | nil => rfl
  | cons p ps ih =>
    cases vs with
    | nil => rw [bindParams, step]; exact ih [] _
    | cons v vs => rw [bindParams, step]; exact ih vs _

theorem bindParams_newActivation (f : FrameId) (name : String) (params : List String)
    (vs : List Value) (captured : Option FrameId) :
    (s.newActivation f name vs captured).2.bindParams s.frames.size params vs
      = (s.addFrame ((s.frameAt f).activation f name params vs captured)).2 :=
  s.bindParams_addFrame vs _ params

theorem enterClosure_eq (c : Closure) (vs : List Value) :
    s.enterClosure c vs = s.addFrame
      ((s.frameAt c.captured).activation c.captured "lambda" c.params vs (some c.captured)) :=
  Prod.ext rfl (s.bindParams_newActivation c.captured "lambda" c.params vs (some c.captured))

theorem enter_eq (receiver : Value) (owner : ClassId) (name : String) (params : List String)
    (vs : List Value) :
    s.enter receiver owner name params vs
      = (s.addFrame (s.receiverFrame receiver owner)).2.addFrame
          ((s.receiverFrame receiver owner).activation s.frames.size name params vs none) := by
  have h := bindParams_newActivation (s.addFrame (s.receiverFrame receiver owner)).2
    s.frames.size name params vs none
  rw [frameAt_addFrame_size] at h
  exact Prod.ext rfl h

end State

/-! ## Calls -/

namespace Eval

/-- A lambda is entered in one piece. -/
theorem applyClosure_eq (c : Closure) (vs : List Value) :
    applyClosure c vs = nested do
      let f ← update (·.enterClosure c vs)
      return (← statements c.body f).value := rfl

/-- A method written in the language is entered in one piece. -/
theorem invoke_user (receiver : Value) (owner : ClassId) (name : String) (params : List String)
    (body : Program) (vs : List Value) (caller : FrameId) :
    invoke receiver owner ⟨name, .user params body⟩ vs caller = nested do
      let f ← update (·.enter receiver owner name params vs)
      return (← statements body f).value := rfl

theorem invoke_native (receiver : Value) (owner : ClassId) (name : String) (n : Native)
    (vs : List Value) (caller : FrameId) :
    invoke receiver owner ⟨name, .native n⟩ vs caller = nested (n.run receiver vs caller) := rfl

end Eval

end OpenScript
