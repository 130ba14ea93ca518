import OpenScript.Eval.Node
import OpenScript.Proofs.Chains

/-!
# Proofs/Alike — what a state is read for

    classes, frames, objects, globals ──▸ every name, method, namespace and running method

Names, methods, namespaces and running methods are looked up in the arenas and the globals alone, so
states that are alike there give the same answers, whatever their symbols, their output and their
level of calls.
-/

namespace OpenScript.State

/-! ## What methods depend on -/

section Methods

variable {s s' : State} (parent : ∀ c, (s'.classAt c).parent = (s.classAt c).parent)
include parent

theorem ancestors_congr (c : ClassId) : s'.ancestors c = s.ancestors c := by
  induction c using Nat.strongRecOn with
  | _ c ih =>
    rw [ancestors, ancestors, parent]
    cases (s.classAt c).parent with
    | none => rfl
    | some p =>
      by_cases hlt : p < c
      · simp only [if_pos hlt, ih p hlt]
      · simp only [if_neg hlt]

theorem findClassMethod?_congr
    (classMethods : ∀ c, (s'.classAt c).classMethods = (s.classAt c).classMethods) (c : ClassId)
    (name : String) : s'.findClassMethod? c name = s.findClassMethod? c name := by
  simp only [findClassMethod?, ancestors_congr parent, classMethods]

variable (methods : ∀ c, (s'.classAt c).methods = (s.classAt c).methods)
include methods

theorem findMethod?_congr (c : ClassId) (name : String) :
    s'.findMethod? c name = s.findMethod? c name := by
  simp only [findMethod?, ancestors_congr parent, methods]

/-- **What a value answers depends on its class, and on the parents and the tables of classes.** -/
theorem methodOf?_congr
    (classMethods : ∀ c, (s'.classAt c).classMethods = (s.classAt c).classMethods) {v : Value}
    (cls : s'.classOf v = s.classOf v) (name : String) :
    s'.methodOf? v name = s.methodOf? v name := by
  cases v with
  | cls c =>
    rw [methodOf?, methodOf?, findClassMethod?_congr parent classMethods,
      findMethod?_congr parent methods]
  | nil | object o =>
    change s'.findMethod? (s'.classOf _) name = s.findMethod? (s.classOf _) name
    rw [cls, findMethod?_congr parent methods]

end Methods

/-- Two states with the same arenas and globals. -/
structure Alike (s s' : State) : Prop where
  classes : s'.classes = s.classes
  frames : s'.frames = s.frames
  objects : s'.objects = s.objects
  globals : s'.globals = s.globals

/-- The same state under another limit. -/
def withLimit (s : State) (limit : Nat) : State := { s with limit }

theorem alike_withLimit (s : State) (m : Nat) : s.Alike (s.withLimit m) := ⟨rfl, rfl, rfl, rfl⟩

theorem alike_depth (s : State) (d : Nat) : s.Alike { s with depth := d } := ⟨rfl, rfl, rfl, rfl⟩

namespace Alike

variable {s s' : State} (h : s.Alike s')
include h

/-! ## Places -/

theorem classAt (c : ClassId) : s'.classAt c = s.classAt c := by
  rw [State.classAt, State.classAt, h.classes]

theorem frameAt (f : FrameId) : s'.frameAt f = s.frameAt f := by
  rw [State.frameAt, State.frameAt, h.frames]

theorem objectAt (o : ObjectId) : s'.objectAt o = s.objectAt o := by
  rw [State.objectAt, State.objectAt, h.objects]

theorem ivar? (v : Value) (key : String) : s'.ivar? v key = s.ivar? v key := by
  cases v with
  | nil => rfl
  | object o => exact congrArg (·.ivars[key]?) (h.objectAt o)
  | cls c => exact congrArg (·.ivars[key]?) (h.classAt c)

/-! ## Classes and methods -/

theorem ancestors (c : ClassId) : s'.ancestors c = s.ancestors c :=
  ancestors_congr (fun d => by rw [h.classAt]) c

theorem findMethod? (c : ClassId) (name : String) :
    s'.findMethod? c name = s.findMethod? c name :=
  findMethod?_congr (fun d => by rw [h.classAt]) (fun d => by rw [h.classAt]) c name

theorem findClassMethod? (c : ClassId) (name : String) :
    s'.findClassMethod? c name = s.findClassMethod? c name :=
  findClassMethod?_congr (fun d => by rw [h.classAt]) (fun d => by rw [h.classAt]) c name

theorem classOf (v : Value) : s'.classOf v = s.classOf v := by
  cases v with
  | object o => exact congrArg (·.cls) (h.objectAt o)
  | nil | cls c => rfl

theorem classNameOf (v : Value) : s'.classNameOf v = s.classNameOf v := by
  rw [State.classNameOf, State.classNameOf, h.classOf, h.classAt]

theorem methodOf? (v : Value) (name : String) : s'.methodOf? v name = s.methodOf? v name :=
  methodOf?_congr (fun d => by rw [h.classAt]) (fun d => by rw [h.classAt])
    (fun d => by rw [h.classAt]) (h.classOf v) name

theorem respondsTo (v : Value) (name : String) : s'.respondsTo v name = s.respondsTo v name := by
  rw [State.respondsTo, State.respondsTo, h.methodOf?]

/-! ## Names -/

theorem closureChain (f : FrameId) : s'.closureChain f = s.closureChain f :=
  closureChain_of_grow (framesGrow_of_eq h.frames f)

theorem searchPath (f : FrameId) : s'.searchPath f = s.searchPath f :=
  searchPath_of_grow (framesGrow_of_eq h.frames f)

theorem ivarOwner (f : FrameId) : s'.ivarOwner f = s.ivarOwner f :=
  ivarOwner_of_grow (framesGrow_of_eq h.frames f)

theorem local? (f : FrameId) (name : String) : s'.local? f name = s.local? f name := by
  simp only [State.local?, nearest?_eq, h.closureChain, h.frameAt]

theorem localOwner (f : FrameId) (name : String) : s'.localOwner f name = s.localOwner f name := by
  have binds : s'.bindsLocal name = s.bindsLocal name :=
    funext fun g => by rw [bindsLocal, bindsLocal, h.frameAt]
  rw [State.localOwner, State.localOwner, h.closureChain, binds]

theorem lookupOwn (f : FrameId) (name : String) : s'.lookupOwn f name = s.lookupOwn f name := by
  simp only [State.lookupOwn, h.frameAt, h.local?, h.globals, h.classAt, h.ivar?, h.ivarOwner]

theorem lookup (f : FrameId) (name : String) : s'.lookup f name = s.lookup f name := by
  simp only [State.lookup, seek?_eq, h.searchPath, h.lookupOwn]

theorem get (f : FrameId) (name : String) : s'.get f name = s.get f name := by
  rw [State.get, State.get, h.lookup]

/-! ## Namespaces and running methods -/

theorem governing (f : FrameId) : s'.governing f = s.governing f :=
  governing_of_grow (framesGrow_of_eq h.frames f)

theorem registered? (f : FrameId) (name : String) :
    s'.registered? f name = s.registered? f name := by
  simp only [State.registered?, registeredIn, h.governing, h.frameAt]

theorem findNamespace? (f : FrameId) (name : String) :
    s'.findNamespace? f name = s.findNamespace? f name := by
  induction f using Nat.strongRecOn with
  | _ f ih =>
    rw [State.findNamespace?, State.findNamespace?, h.registered?, h.governing, h.frameAt]
    split
    · rfl
    · split
      · next p _ =>
        by_cases hlt : p < f
        · rw [if_pos hlt, if_pos hlt, ih p hlt]
        · rw [if_neg hlt, if_neg hlt]
      · rfl

theorem active? (f : FrameId) : s'.active? f = s.active? f := by
  have activation : s'.activation? = s.activation? :=
    funext fun g => by rw [activation?, activation?, h.frameAt]
  rw [State.active?, State.active?, enclosing_of_grow (framesGrow_of_eq h.frames f), activation]

theorem forwardedArguments (a : Activation) :
    Eval.forwardedArguments s' a = Eval.forwardedArguments s a := by
  simp only [Eval.forwardedArguments, h.findMethod?, h.lookupOwn]

end Alike

end OpenScript.State
