import OpenScript.Proofs.Indexed

/-!
# Proofs/Checked/Lookup — looking things up with every index checked

    id of a class, handle of a name, place of an argument ──in range?──▸ what it names, or a fault

Looking something up in a table goes wrong if the index names nothing there (`Fault`).  The lookups
here check each index they use.  Where whatever can be got out of a state is there, they find what
the lookups without checks do.

Ids and handles are numbers of any size.  Where they are stored in 32 bits they are these numbers as
long as there are fewer than `2 ^ 32` classes and names.
-/

namespace OpenScript

/-- An index that names nothing. -/
inductive Fault where
  | noClass (c : ClassId)
  | noName (i : SymbolId)
  | noArgument (place : Nat)
  deriving DecidableEq, Repr

/-! ## Lookups -/

namespace Checked

/-- The class with the given id. -/
def classAt (s : State) (c : ClassId) : Except Fault Class :=
  match s.classes[c]? with
  | some x => .ok x
  | none => .error (.noClass c)

/-- The name of a handle. -/
def resolve (s : State) (i : SymbolId) : Except Fault String :=
  match s.symbols.names[i]? with
  | some name => .ok name
  | none => .error (.noName i)

/-- The argument at a place. -/
def argument (vs : List Value) (place : Nat) : Except Fault Value :=
  match vs[place]? with
  | some v => .ok v
  | none => .error (.noArgument place)

/-- Updates a class. -/
def modifyClass (s : State) (c : ClassId) (update : Class → Class) : Except Fault State := do
  let _ ← classAt s c
  return s.modifyClass c update

/-- What the nearest ancestor that has an entry for a name in a table has there. -/
def find (s : State) (table : Class → Store Method) (name : String) (c : ClassId) :
    Except Fault (Option (ClassId × Method)) := do
  let x ← classAt s c
  match (table x)[name]? with
  | some m => return some (c, m)
  | none =>
    match x.parent with
    | some p => if _h : p < c then find s table name p else return none
    | none => return none
termination_by c

/-- The name of the class of a value. -/
def classNameOf (s : State) (v : Value) : Except Fault String := do
  return (← classAt s (s.classOf v)).name

/-- The method that a value answers a name with, and the class that defines it. -/
def methodOf? (s : State) (v : Value) (name : String) : Except Fault (Option (ClassId × Method)) :=
  match v with
  | .cls c => do
    match ← find s (·.classMethods) name c with
    | some found => return some found
    | none => find s (·.methods) name Core.cls
  | v => find s (·.methods) name (s.classOf v)

/-- Whether a value answers a name. -/
def respondsTo (s : State) (v : Value) (name : String) : Except Fault Bool := do
  return (← methodOf? s v name).isSome

/-- An instance variable of an object or of a class used as a value. -/
def ivar? (s : State) (v : Value) (key : String) : Except Fault (Option Value) :=
  match v with
  | .cls c => do return (← classAt s c).ivars[key]?
  | v => .ok (s.objectIvar? v key)

/-- Writes an instance variable of an object or of a class used as a value. -/
def setIvar (s : State) (v : Value) (key : String) (w : Value) : Except Fault State :=
  match v with
  | .cls c => modifyClass s c fun x => { x with ivars := x.ivars.insert key w }
  | v => .ok (s.setObjectIvar v key w)

/-- What a name is bound to in a frame's own stores.  Class variables are in the class of the frame,
instance variables may be those of a class, and no other name has to do with classes. -/
def lookupOwn (s : State) (f : FrameId) (name : String) : Except Fault (Option Value) :=
  let shape := Shape.of name
  match shape with
  | .classVar => do return (← classAt s (s.frameAt f).cls).classVars[shape.key name]?
  | .instanceVar => ivar? s (s.ivarOwner f) (shape.key name)
  | _ => .ok (s.lookupOwn f name)

/-- The value of a name as seen from a frame. -/
def get (s : State) (f : FrameId) (name : String) : Except Fault Value :=
  if (Shape.of name).delegates then .ok (s.get f name)
  else do return (← lookupOwn s f name).getD .nil

/-- Writes a name into a frame's own stores. -/
def set (s : State) (f : FrameId) (name : String) (v : Value) : Except Fault State :=
  let shape := Shape.of name
  match shape with
  | .classVar => modifyClass s (s.frameAt f).cls fun x =>
      { x with classVars := x.classVars.insert (shape.key name) v }
  | .instanceVar => setIvar s (s.ivarOwner f) (shape.key name) v
  | _ => .ok (s.set f name v)

/-- Adds an instance method, or replaces the one of the same name. -/
def defineMethod (s : State) (c : ClassId) (m : Method) : Except Fault State :=
  modifyClass s c fun x => { x with methods := x.methods.insert m.name m }

/-- Adds a reader and a writer to a class. -/
def addProperty (c : ClassId) (s : State) (name : String) : Except Fault State := do
  defineMethod (← defineMethod s c ⟨name, .native (.reader name)⟩) c
    ⟨name ++ "=", .native (.writer name)⟩

/-- Adds a class with its body in a frame and binds its name there. -/
def createClass (s : State) (f : FrameId) (name : String) (parent : ClassId) :
    Except Fault (ClassId × State) := do
  let c := s.classes.size
  let (frame, s) := s.newClassBody f c
  let (_, s) := s.addClass { name, parent := some parent, frame }
  let s ← set s f name (.cls c)
  let _ ← classAt s parent
  return (c, s)

/-- The arguments that a bare `super` passes on. -/
def forwardedArguments (s : State) (a : State.Activation) : Except Fault (List Value) := do
  let params := ((← find s (·.methods) a.name a.cls).map fun (_, m) => m.params).getD []
  let current ← params.mapM fun p => do return (← lookupOwn s a.frame p).getD .nil
  return current ++ a.arguments.drop params.length

end Checked

/-! ## Checks that pass -/

namespace Checked

variable {s : State} {c : ClassId} {f : FrameId} {name : String} {v w : Value}

theorem classAt_eq (hc : c < s.classes.size) : classAt s c = .ok (s.classAt c) := by
  rw [classAt, State.classAt, Array.getElem?_eq_getElem hc]
  rfl

theorem resolve_eq {i : SymbolId} (hi : i < s.symbols.size) :
    resolve s i = .ok (s.symbols.resolve i) := by
  rw [resolve, SymbolTable.resolve, Array.getElem?_eq_getElem hi]
  rfl

theorem modifyClass_eq (hc : c < s.classes.size) (update : Class → Class) :
    modifyClass s c update = .ok (s.modifyClass c update) := by
  rw [modifyClass, classAt_eq hc]
  rfl

theorem ivar?_eq (hv : (Item.value v).In s) (key : String) :
    ivar? s v key = .ok (s.ivar? v key) := by
  cases v with
  | nil | object o => rfl
  | cls c => rw [ivar?, classAt_eq hv]; rfl

theorem setIvar_eq (hv : (Item.value v).In s) (key : String) (w : Value) :
    setIvar s v key w = .ok (s.setIvar v key w) := by
  cases v with
  | nil | object o => rfl
  | cls c => exact modifyClass_eq hv _

theorem defineMethod_eq (hc : c < s.classes.size) (m : Method) :
    defineMethod s c m = .ok (s.defineMethod c m) := modifyClass_eq hc _

theorem addProperty_eq (hc : c < s.classes.size) (name : String) :
    addProperty c s name = .ok (Eval.addProperty c s name) := by
  rw [addProperty, defineMethod_eq hc]
  exact defineMethod_eq (by rwa [State.size_classes_defineMethod]) _

/-- Whose instance variables a frame reads is the self of a frame. -/
theorem ivarOwner_eq_self (s : State) (f : FrameId) :
    ∃ g, s.ivarOwner f = (s.frameAt g).self := by
  induction f using Nat.strongRecOn with
  | _ f ih =>
    rw [State.ivarOwner]
    split
    · next p _ _ =>
      split
      · next older => exact ih p older
      · exact ⟨f, rfl⟩
    · exact ⟨f, rfl⟩

section Known

variable (hk : ∀ i, s.Known i → i.In s)
include hk

theorem frame_cls_lt (f : FrameId) : (s.frameAt f).cls < s.classes.size :=
  hk _ (State.known_frame_cls s f)

theorem ivarOwner_in (f : FrameId) : (Item.value (s.ivarOwner f)).In s := by
  obtain ⟨g, hg⟩ := ivarOwner_eq_self s f
  rw [hg]
  exact hk _ (State.known_self s g)

theorem lookupOwn_eq (f : FrameId) (name : String) :
    lookupOwn s f name = .ok (s.lookupOwn f name) := by
  rw [lookupOwn, State.lookupOwn]
  split
  · next hs => rw [classAt_eq (frame_cls_lt hk f), hs]; rfl
  · next hs => rw [ivar?_eq (ivarOwner_in hk f), hs]
  · rfl

theorem get_eq (f : FrameId) (name : String) : get s f name = .ok (s.get f name) := by
  rw [get]
  split
  · rfl
  · next h => rw [lookupOwn_eq hk, State.get, State.lookup, if_neg h]; rfl

theorem set_eq (f : FrameId) (name : String) (v : Value) :
    set s f name v = .ok (s.set f name v) := by
  rw [set, State.set]
  split
  · next hs => rw [modifyClass_eq (frame_cls_lt hk f), hs]
  · next hs => rw [setIvar_eq (ivarOwner_in hk f), hs]
  · rfl

/-- **Method tables are searched within bounds.** -/
theorem find_eq (table : Class → Store Method) (name : String) (hc : c < s.classes.size) :
    find s table name c
      = .ok ((s.ancestors c).findSome? fun a => (table (s.classAt a))[name]?.map (a, ·)) := by
  -- The search goes up parent by parent, as `ancestors` does, and what is above is there too.
  induction c using Nat.strongRecOn with
  | _ c ih =>
    rw [find, classAt_eq hc, State.ancestors, List.findSome?_cons]
    dsimp only [bind, Except.bind]
    cases (table (s.classAt c))[name]? with
    | some m => rfl
    | none =>
      cases hp : (s.classAt c).parent with
      | none => rfl
      | some p =>
        by_cases older : p < c
        · simp only [dif_pos older, if_pos older, Option.map_none]
          exact ih p older (hk _ (State.known_class_parent hp))
        · simp only [dif_neg older, if_neg older]
          rfl

theorem classNameOf_eq (v : Value) : classNameOf s v = .ok (s.classNameOf v) := by
  have there : s.classOf v < s.classes.size := hk _ (State.known_classOf s v)
  rw [classNameOf, classAt_eq there]
  rfl

theorem methodOf?_eq (hv : (Item.value v).In s) (name : String) :
    methodOf? s v name = .ok (s.methodOf? v name) := by
  have ofInstances (w : Value) : find s (·.methods) name (s.classOf w)
      = .ok (s.findMethod? (s.classOf w) name) :=
    find_eq hk (·.methods) name (hk _ (State.known_classOf s w))
  cases v with
  | nil => exact ofInstances .nil
  | object o => exact ofInstances (.object o)
  | cls c =>
    rw [methodOf?, find_eq hk (·.classMethods) name hv, State.methodOf?, State.findClassMethod?]
    dsimp only [bind, Except.bind]
    split
    · next found hf => rw [hf]; rfl
    · next hf => rw [hf]; exact ofInstances (.cls c)

theorem respondsTo_eq (hv : (Item.value v).In s) (name : String) :
    respondsTo s v name = .ok (s.respondsTo v name) := by
  rw [respondsTo, methodOf?_eq hk hv]
  rfl

theorem forwardedArguments_eq {a : State.Activation} (ha : s.active? f = some a) :
    forwardedArguments s a = .ok (Eval.forwardedArguments s a) := by
  have there : a.cls < s.classes.size := hk _ (State.known_active? ha).2.1
  have current (params : List String) :
      params.mapM (fun p => do return (← lookupOwn s a.frame p).getD .nil : String → Except Fault _)
        = .ok (params.map fun p => (s.lookupOwn a.frame p).getD .nil) := by
    induction params with
    | nil => rfl
    | cons p params ih => rw [List.mapM_cons, lookupOwn_eq hk, ih]; rfl
  rw [forwardedArguments, find_eq hk (·.methods) a.name there]
  change ((_ : Except Fault (List Value)) >>= _) = _
  rw [current]
  rfl

end Known

/-- **A class is made within bounds**, if its parent is there. -/
theorem createClass_eq (h : s.Indexed) (f : FrameId) (name : String) {p : ClassId}
    (hp : p < s.classes.size) : createClass s f name p = .ok (Eval.createClass s f name p) := by
  let made : State := ((s.newClassBody f s.classes.size).2.addClass
    { name, parent := some p, frame := s.frames.size }).2
  have classes : made.classes.size = s.classes.size + 1 := Array.size_push _
  have frames : made.frames.size = s.frames.size + 1 := Array.size_push _
  have self : (Item.value (.cls s.classes.size)).In made :=
    (classes ▸ Nat.lt_succ_self _ : s.classes.size < made.classes.size)
  have stays {i : Item} (hi : i.In s) : i.In made :=
    hi.of_size_le (classes ▸ Nat.le_succ _) (frames ▸ Nat.le_succ _) (Nat.le_refl _)
  -- The name is bound while the state is not in order yet, so the discipline says nothing about it:
  -- what can be got out of it was there before, or belongs to the new class or its body.
  have known (i : Item) (hi : made.Known i) : i.In made := by
    rcases hi with core | held
    · exact stays (h.has (.inl core))
    · rcases State.holds_addClass held with held | held
      · rcases State.holds_addFrame held with held | held
        · exact stays (h.has (.inr held))
        · rcases Frame.holds_new rfl rfl held with rfl | rfl <;> exact self
      · rcases Class.holds_new held with rfl | rfl
        · exact stays (i := .value (.cls p)) hp
        · exact (frames ▸ Nat.lt_succ_self _ : s.frames.size < made.frames.size)
  have set : set made f name (.cls s.classes.size) = .ok (made.set f name (.cls s.classes.size)) :=
    set_eq known f name _
  have parent : p < (made.set f name (.cls s.classes.size)).classes.size := by
    rw [State.size_classes_set, classes]
    exact Nat.lt_succ_of_lt hp
  change (Checked.set made f name (.cls s.classes.size) >>= _) = _
  rw [set]
  change (classAt _ p >>= _) = _
  rw [classAt_eq parent]
  rfl

end Checked

end OpenScript
