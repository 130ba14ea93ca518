import OpenScript.Proofs.Chains
import OpenScript.Proofs.Change

/-!
# Proofs/Growth — evaluation only adds

    s ──Change──▸ s'     every class, frame and object of s is in s', at the same place and grown

Whatever is in an arena stays at its place and keeps what it refers to and every name it binds; it
may bind more names, and bound names may get other values (`State.Change.grows`).
-/

namespace OpenScript

/-! ## Arenas -/

/-- All that is in an arena is in another at the same place, grown. -/
def ArenaGrows {α : Type} (r : α → α → Prop) (xs ys : Array α) : Prop :=
  ∀ (i : Nat) (x : α), xs[i]? = some x → ∃ y, ys[i]? = some y ∧ r x y

section Arenas

variable {α : Type} {r : α → α → Prop} {xs ys zs : Array α}

theorem ArenaGrows.trans (h : ArenaGrows r xs ys) (h' : ArenaGrows r ys zs)
    (hr : ∀ {x y z}, r x y → r y z → r x z) : ArenaGrows r xs zs := by
  intro i x hx
  obtain ⟨y, hy, hxy⟩ := h i x hx
  obtain ⟨z, hz, hyz⟩ := h' i y hy
  exact ⟨z, hz, hr hxy hyz⟩

theorem ArenaGrows.size_le (h : ArenaGrows r xs ys) : xs.size ≤ ys.size := by
  refine Nat.le_of_not_lt fun hlt => ?_
  obtain ⟨y, hy, -⟩ := h ys.size _ (Array.getElem?_eq_getElem hlt)
  exact Nat.lt_irrefl _ (Array.getElem?_eq_some_iff.1 hy).1

variable (hr : ∀ x, r x x)
include hr

theorem ArenaGrows.refl (xs : Array α) : ArenaGrows r xs xs := fun _ x hx => ⟨x, hx, hr x⟩

theorem arenaGrows_push (xs : Array α) (a : α) : ArenaGrows r xs (xs.push a) := by
  intro i x hx
  obtain ⟨hi, e⟩ := Array.getElem?_eq_some_iff.1 hx
  exact ⟨x, by rw [Array.getElem?_push_lt hi, e], hr x⟩

theorem arenaGrows_modify {i : Nat} {f : α → α} (hf : ∀ x, xs[i]? = some x → r x (f x)) :
    ArenaGrows r xs (xs.modify i f) := by
  intro j x hx
  by_cases h : i = j
  · subst h
    exact ⟨f x, by rw [Array.getElem?_modify, if_pos rfl, hx]; rfl, hf x hx⟩
  · exact ⟨x, by rw [Array.getElem?_modify, if_neg h, hx], hr x⟩

end Arenas

/-! ## Classes and objects -/

/-- A class that keeps its name, its parent and its body and every name it binds. -/
structure Class.Grows (x y : Class) : Prop where
  name : y.name = x.name
  parent : y.parent = x.parent
  frame : y.frame = x.frame
  methods : Store.Keeps x.methods y.methods
  classMethods : Store.Keeps x.classMethods y.classMethods
  classVars : Store.Keeps x.classVars y.classVars
  ivars : Store.Keeps x.ivars y.ivars

theorem Class.Grows.refl (x : Class) : x.Grows x :=
  ⟨rfl, rfl, rfl, fun _ => id, fun _ => id, fun _ => id, fun _ => id⟩

theorem Class.Grows.trans {x y z : Class} (h : x.Grows y) (h' : y.Grows z) : x.Grows z where
  name := h'.name.trans h.name
  parent := h'.parent.trans h.parent
  frame := h'.frame.trans h.frame
  methods k hk := h'.methods k (h.methods k hk)
  classMethods k hk := h'.classMethods k (h.classMethods k hk)
  classVars k hk := h'.classVars k (h.classVars k hk)
  ivars k hk := h'.ivars k (h.ivars k hk)

/-- An object that keeps its class, its payload and its instance variables. -/
structure Object.Grows (x y : Object) : Prop where
  cls : y.cls = x.cls
  payload : y.payload = x.payload
  ivars : Store.Keeps x.ivars y.ivars

theorem Object.Grows.refl (x : Object) : x.Grows x := ⟨rfl, rfl, fun _ => id⟩

theorem Object.Grows.trans {x y z : Object} (h : x.Grows y) (h' : y.Grows z) : x.Grows z where
  cls := h'.cls.trans h.cls
  payload := h'.payload.trans h.payload
  ivars k hk := h'.ivars k (h.ivars k hk)

namespace State

/-- A state with all that another has, grown, and with its output continued. -/
structure Grows (s s' : State) : Prop where
  classes : ArenaGrows Class.Grows s.classes s'.classes
  frames : ArenaGrows Frame.Grows s.frames s'.frames
  objects : ArenaGrows Object.Grows s.objects s'.objects
  symbols {i : SymbolId} : i < s.symbols.size →
    i < s'.symbols.size ∧ s'.symbols.resolve i = s.symbols.resolve i
  output : ∃ text, s'.output = s.output ++ text

namespace Grows

variable {s s' s'' : State}

theorem refl (s : State) : s.Grows s where
  classes := .refl Class.Grows.refl _
  frames := .refl Frame.Grows.refl _
  objects := .refl Object.Grows.refl _
  symbols h := ⟨h, rfl⟩
  output := ⟨"", (String.append_empty).symm⟩

theorem trans (h : s.Grows s') (h' : s'.Grows s'') : s.Grows s'' where
  classes := h.classes.trans h'.classes Class.Grows.trans
  frames := h.frames.trans h'.frames Frame.Grows.trans
  objects := h.objects.trans h'.objects Object.Grows.trans
  symbols hi := by
    obtain ⟨hi', e⟩ := h.symbols hi
    obtain ⟨hi'', e'⟩ := h'.symbols hi'
    exact ⟨hi'', e'.trans e⟩
  output := by
    obtain ⟨t, ht⟩ := h.output
    obtain ⟨t', ht'⟩ := h'.output
    exact ⟨t ++ t', by rw [ht', ht, String.append_assoc]⟩

theorem frameAt (h : s.Grows s') {f : FrameId} (hf : f < s.frames.size) :
    (s.frameAt f).Grows (s'.frameAt f) := by
  obtain ⟨y, hy, grows⟩ := h.frames f _ (Array.getElem?_eq_getElem hf)
  rw [State.frameAt, State.frameAt, hy, Array.getElem?_eq_getElem hf]
  exact grows

theorem framesGrow (h : s.Grows s') {f : FrameId} (hf : f < s.frames.size) : s.FramesGrow s' f :=
  fun _ hg => h.frameAt (Nat.lt_of_le_of_lt hg hf)

end Grows

/-! ## Updates -/

section Updates

variable (s : State)

theorem grows_modifyClass {c : ClassId} {update : Class → Class}
    (hu : ∀ x : Class, x.Grows (update x)) :
    s.Grows (s.modifyClass c update) :=
  { Grows.refl s with classes := arenaGrows_modify Class.Grows.refl fun x _ => hu x }

theorem grows_modifyFrame {f : FrameId} {update : Frame → Frame}
    (hu : ∀ x, s.frames[f]? = some x → x.Grows (update x)) : s.Grows (s.modifyFrame f update) :=
  { Grows.refl s with frames := arenaGrows_modify Frame.Grows.refl hu }

theorem grows_modifyObject {o : ObjectId} {update : Object → Object}
    (hu : ∀ x : Object, x.Grows (update x)) : s.Grows (s.modifyObject o update) :=
  { Grows.refl s with objects := arenaGrows_modify Object.Grows.refl fun x _ => hu x }

theorem grows_addClass (x : Class) : s.Grows (s.addClass x).2 :=
  { Grows.refl s with classes := arenaGrows_push Class.Grows.refl _ x }

theorem grows_addFrame (x : Frame) : s.Grows (s.addFrame x).2 :=
  { Grows.refl s with frames := arenaGrows_push Frame.Grows.refl _ x }

theorem grows_addObject (x : Object) : s.Grows (s.addObject x).2 :=
  { Grows.refl s with objects := arenaGrows_push Object.Grows.refl _ x }

theorem grows_bindLocal (f : FrameId) (name : String) (v : Value) :
    s.Grows (s.bindLocal f name v) :=
  s.grows_modifyFrame fun x _ => { Frame.Grows.refl x with locals := x.locals.keeps_insert name v }

theorem grows_bindConstant (f : FrameId) (name : String) (v : Value) :
    s.Grows (s.bindConstant f name v) :=
  s.grows_modifyFrame fun x _ =>
    { Frame.Grows.refl x with constants := x.constants.keeps_insert name v }

theorem grows_setIvar (v : Value) (key : String) (w : Value) : s.Grows (s.setIvar v key w) := by
  cases v with
  | nil => exact .refl s
  | object o =>
    exact s.grows_modifyObject fun x =>
      { Object.Grows.refl x with ivars := x.ivars.keeps_insert key w }
  | cls c =>
    exact s.grows_modifyClass fun x =>
      { Class.Grows.refl x with ivars := x.ivars.keeps_insert key w }

theorem grows_set (f : FrameId) (name : String) (v : Value) : s.Grows (s.set f name v) := by
  unfold set
  dsimp only
  split
  · exact s.grows_bindConstant f name v
  · exact s.grows_bindLocal _ name v
  · exact { Grows.refl s with }
  · exact s.grows_modifyClass fun x =>
      { Class.Grows.refl x with classVars := x.classVars.keeps_insert _ v }
  · exact s.grows_setIvar _ _ v
  · exact .refl s

theorem grows_defineConstant (f : FrameId) (name : String) (v : Value) :
    s.Grows (s.defineConstant f name v).2 := by
  unfold defineConstant
  split
  · exact .refl s
  · exact s.grows_bindConstant f name v

theorem grows_defineMethod (c : ClassId) (m : Method) : s.Grows (s.defineMethod c m) :=
  s.grows_modifyClass fun x =>
    { Class.Grows.refl x with methods := x.methods.keeps_insert m.name m }

theorem grows_createClass (f : FrameId) (name : String) (c : ClassId) :
    s.Grows (Eval.createClass s f name c).2 :=
  ((s.grows_addFrame _).trans (grows_addClass _ _)).trans (grows_set _ f name _)

theorem grows_intern (name : String) : s.Grows (s.intern name).2 :=
  { Grows.refl s with
    symbols := fun hi => ⟨Nat.lt_of_lt_of_le hi (s.symbols.size_le_size_intern name),
      s.symbols.resolve_intern_of_lt name hi⟩ }

/-- A namespace registered under a name that is not taken takes no other name. -/
theorem grows_register {f g : FrameId} {name : String} (h : s.registered? f name = none) :
    s.Grows (s.register f name g) := by
  refine s.grows_modifyFrame fun x hx => ?_
  split
  · next registered hr =>
    have place : s.frameAt (s.governing f) = x := by rw [frameAt, hx]; rfl
    have free : registered[name]? = none := by
      rw [registered?, registeredIn, place, hr] at h
      exact h
    refine { Frame.Grows.refl x with role := hr ▸ .space fun k f' hk => ?_ }
    rw [Std.TreeMap.getElem?_insert]
    split
    · next e =>
      obtain rfl := Std.LawfulEqCmp.eq_of_compare e
      rw [free] at hk
      exact absurd hk.symm (Option.some_ne_none f')
    · exact hk
  · exact .refl x

theorem role_addFrame_of_le {x : Frame} (hx : x.role = .space {}) {g : FrameId}
    (h : s.frames.size ≤ g) : ((s.addFrame x).2.frameAt g).role = .space {} := by
  rcases Nat.eq_or_lt_of_le h with rfl | hlt
  · rw [frameAt_addFrame_size, hx]
  · have past : (s.addFrame x).2.frames[g]? = none := by
      rw [addFrame, Array.getElem?_eq_none]
      rw [Array.size_push]
      exact hlt
    rw [frameAt, past]
    rfl

/-- A namespace that is added takes no name. -/
theorem registered?_addFrame {x : Frame} (hx : x.role = .space {}) {f : FrameId} {name : String}
    (h : s.registered? f name = none) : (s.addFrame x).2.registered? f name = none := by
  have fresh {g : FrameId} (hg : s.frames.size ≤ g) :
      ((s.addFrame x).2.registeredIn g)[name]? = none := by
    rw [registeredIn, s.role_addFrame_of_le hx hg]
    exact Std.TreeMap.getElem?_emptyc
  rw [registered?]
  by_cases hf : f < s.frames.size
  · rw [governing_of_grow (framesGrow_addFrame hf x)]
    by_cases hg : s.governing f < s.frames.size
    · rw [registeredIn, s.frameAt_addFrame_of_lt hg]
      exact h
    · exact fresh (Nat.le_of_not_lt hg)
  · have own : (s.addFrame x).2.governing f = f := by
      rw [governing, s.role_addFrame_of_le hx (Nat.le_of_not_lt hf)]
    rw [own]
    exact fresh (Nat.le_of_not_lt hf)

/-- The namespace that `createSpace` adds takes no name before it is registered. -/
theorem registered?_newSpace {f : FrameId} {name : String} (h : s.registered? f name = none) :
    ((s.instantiate Core.object).2.newSpace f (.object s.objects.size)
      Core.object).2.registered? f name = none := by
  have free : (s.instantiate Core.object).2.registered? f name = none := by
    have same : (s.instantiate Core.object).2.governing f = s.governing f :=
      governing_of_grow (framesGrow_of_eq rfl f)
    rw [registered?, same]
    exact h
  exact registered?_addFrame _ rfl free

/-- Registering the namespace that `createSpace` adds. -/
theorem grows_created {f : FrameId} {name : String} (h : s.registered? f name = none) :
    ((s.instantiate Core.object).2.newSpace f (.object s.objects.size) Core.object).2.Grows
      (Eval.createSpace s f name).2 := grows_register _ (s.registered?_newSpace h)

theorem grows_createSpace {f : FrameId} {name : String} (h : s.registered? f name = none) :
    s.Grows (Eval.createSpace s f name).2 :=
  have made : s.Grows (s.instantiate Core.object).2 := s.grows_addObject _
  (made.trans (grows_addFrame _ _)).trans (s.grows_created h)

theorem grows_enter (receiver : Value) (owner : ClassId) (name : String) (params : List String)
    (vs : List Value) : s.Grows (s.enter receiver owner name params vs).2 := by
  rw [enter_eq]
  exact (s.grows_addFrame _).trans (grows_addFrame _ _)

theorem grows_enterClosure (c : Closure) (vs : List Value) : s.Grows (s.enterClosure c vs).2 := by
  rw [enterClosure_eq]
  exact s.grows_addFrame _

end Updates

/-- **A change only adds.** -/
theorem Change.grows {has : Item → Prop} {s s' : State} (h : s.Change has s') : s.Grows s' := by
  cases h with
  | box p hp hs => exact s.grows_addObject _
  | instantiate hc => exact s.grows_addObject _
  | intern name => exact s.grows_intern name
  | print text => exact { Grows.refl s with output := ⟨text, rfl⟩ }
  | setIvar key hv hw => exact s.grows_setIvar _ key _
  | set hn hc hf hv => exact s.grows_set _ _ _
  | defineConstant hc hf hv => exact s.grows_defineConstant _ _ _
  | addProperty hd hn hc => exact (s.grows_defineMethod _ _).trans (grows_defineMethod _ _ _)
  | defineMethod hd hc => exact s.grows_defineMethod _ _
  | createClass hd hf hc hn => exact s.grows_createClass _ _ _
  | createSpace hd hf hn => exact s.grows_createSpace hn
  | enter ho hr hv => exact s.grows_enter _ _ _ _ _
  | enterClosure hc hv => exact s.grows_enterClosure _ _

end State

end OpenScript
