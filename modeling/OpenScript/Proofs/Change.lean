import OpenScript.Proofs.Calls
import OpenScript.Proofs.Code

/-!
# Proofs/Change — what evaluation does to a state

    s ──Change──▸ s'     stored in s'  ⊆  had before  ∪  made by the change

Evaluation changes a state in a dozen ways, each guarded by what evaluation has and by what it has
just looked up (`State.Change`).  A change stores only what evaluation had, besides the places it
makes (`Change.had_or_fresh`), and the call depth and its limit are no business of it
(`Change.level`).
-/

namespace OpenScript

/-- The class that a payload is boxed in. -/
def Payload.home : Payload → ClassId
  | .none => Core.object
  | .int _ => Core.integer
  | .float _ => Core.float
  | .text _ => Core.string
  | .symbol _ => Core.symbol
  | .bool _ => Core.boolean
  | .lambda _ => Core.lambda

theorem Payload.home_le (p : Payload) : p.home ≤ Core.lambda := by
  unfold home
  split <;> decide

/-- The name that a node assigns to in the frame it is evaluated in. -/
def Node.assigned? : Node → Option String
  | .setLocal name _ | .setGlobal name _ | .setClassVar name _ | .setInstanceVar name _ => some name
  | _ => none

/-- An item that is in a later state but not yet in an earlier one. -/
def Item.FreshIn (s s' : State) : Item → Prop
  | .value .nil => False
  | .value (.object o) => s.objects.size ≤ o ∧ o < s'.objects.size
  | .value (.cls c) => s.classes.size ≤ c ∧ c < s'.classes.size
  | .frame f => s.frames.size ≤ f ∧ f < s'.frames.size
  | .code _ => False

/-! ## What one more entry adds -/

theorem Frame.holds_insertLocal {x : Frame} {name : String} {v : Value} {i : Item}
    (h : { x with locals := x.locals.insert name v }.Holds i) : x.Holds i ∨ i = .value v := by
  cases i with grind [Frame.Holds]

theorem Frame.holds_insertConstant {x : Frame} {name : String} {v : Value} {i : Item}
    (h : { x with constants := x.constants.insert name v }.Holds i) :
    x.Holds i ∨ i = .value v := by
  cases i with grind [Frame.Holds]

theorem Frame.holds_register {x : Frame} {registered : Store FrameId} {name : String}
    {g : FrameId} {i : Item} (hr : x.role = .space registered)
    (h : { x with role := .space (registered.insert name g) }.Holds i) :
    x.Holds i ∨ i = .frame g := by
  cases i with grind [Frame.Holds, Role.registered, Role.arguments]

theorem Class.holds_insertMethod {x : Class} {name : String} {m : Method} {i : Item}
    (h : { x with methods := x.methods.insert name m }.Holds i) :
    x.Holds i ∨ ∃ n ∈ m.statements, i = .code n := by
  cases i with grind [Class.Holds]

theorem Class.holds_insertClassVar {x : Class} {key : String} {v : Value} {i : Item}
    (h : { x with classVars := x.classVars.insert key v }.Holds i) :
    x.Holds i ∨ i = .value v := by
  cases i with grind [Class.Holds]

theorem Class.holds_insertIvar {x : Class} {key : String} {v : Value} {i : Item}
    (h : { x with ivars := x.ivars.insert key v }.Holds i) : x.Holds i ∨ i = .value v := by
  cases i with grind [Class.Holds]

theorem Object.holds_insertIvar {x : Object} {key : String} {v : Value} {i : Item}
    (h : { x with ivars := x.ivars.insert key v }.Holds i) : x.Holds i ∨ i = .value v := by
  cases i with grind [Object.Holds]

/-! ## What a new place holds -/

theorem Object.holds_new {c : ClassId} {p : Payload} {i : Item}
    (h : ({ cls := c, payload := p } : Object).Holds i) : i = .value (.cls c) ∨ p.Holds i := by
  cases i with grind [Object.Holds]

theorem Class.holds_new {name : String} {p : ClassId} {f : FrameId} {i : Item}
    (h : ({ name, parent := some p, frame := f } : Class).Holds i) :
    i = .value (.cls p) ∨ i = .frame f := by
  cases i with grind [Class.Holds]

/-- A new frame of the plain kind holds its self and its class. -/
theorem Frame.holds_new {self : Value} {c : ClassId} {parent : Option FrameId} {role : Role}
    {i : Item} (hr : role.registered = {}) (hv : role.arguments = [])
    (h : ({ self, cls := c, parent, role } : Frame).Holds i) :
    i = .value self ∨ i = .value (.cls c) := by
  cases i with grind [Frame.Holds]

theorem Frame.holds_activation {x : Frame} {f : FrameId} {name : String} {params : List String}
    {vs : List Value} {captured : Option FrameId} {i : Item}
    (h : (x.activation f name params vs captured).Holds i) :
    i = .value x.self ∨ i = .value (.cls x.cls) ∨ i = .value .nil ∨ ∃ v ∈ vs, i = .value v := by
  cases i with grind [Frame.Holds, Frame.activation, Role.arguments, Role.registered]

namespace State

/-- What evaluation that has the items `has` can do to a state in one go. -/
inductive Change (has : Item → Prop) (s : State) : State → Prop where
  | box (p : Payload) (hp : ∀ i, p.Holds i → has i)
      (hs : ∀ i, p = .symbol i → i < s.symbols.size) : Change has s (s.box p.home p).2
  | instantiate {c : ClassId} (hc : has (.value (.cls c))) : Change has s (s.instantiate c).2
  | intern (name : String) : Change has s (s.intern name).2
  | print (text : String) : Change has s { s with output := s.output ++ text }
  | setIvar {v w : Value} (key : String) (hv : has (.value v)) (hw : has (.value w)) :
    Change has s (s.setIvar v key w)
  | set {n : Node} {f : FrameId} {name : String} {v : Value} (hn : n.assigned? = some name)
      (hc : has (.code n)) (hf : has (.frame f)) (hv : has (.value v)) :
    Change has s (s.set f name v)
  | defineConstant {n : Node} {f : FrameId} {name : String} {v : Value}
      (hc : has (.code (.setConstant name n))) (hf : has (.frame f)) (hv : has (.value v)) :
    Change has s (s.defineConstant f name v).2
  | addProperty {c : ClassId} {names : List String} {name : String}
      (hd : has (.code (.property names))) (hn : name ∈ names) (hc : has (.value (.cls c))) :
    Change has s (Eval.addProperty c s name)
  | defineMethod {c : ClassId} {name : String} {params : List String} {body : Program}
      (hd : has (.code (.defineMethod name params body))) (hc : has (.value (.cls c))) :
    Change has s (s.defineMethod c ⟨name, .user params body⟩)
  | createClass {f : FrameId} {name : String} {parent : Option String} {body : Program}
      {c : ClassId} (hd : has (.code (.defineClass name parent body))) (hf : has (.frame f))
      (hc : has (.value (.cls c))) (hn : s.get f name = .nil) :
    Change has s (Eval.createClass s f name c).2
  | createSpace {f : FrameId} {name : String} {body : Program}
      (hd : has (.code (.inNamespace name body))) (hf : has (.frame f))
      (hn : s.registered? f name = none) : Change has s (Eval.createSpace s f name).2
  | enter {receiver : Value} {owner : ClassId} {name : String} {params : List String}
      {vs : List Value} (ho : has (.value (.cls owner))) (hr : has (.value receiver))
      (hv : ∀ v ∈ vs, has (.value v)) : Change has s (s.enter receiver owner name params vs).2
  | enterClosure {c : Closure} {vs : List Value} (hc : has (.frame c.captured))
      (hv : ∀ v ∈ vs, has (.value v)) : Change has s (s.enterClosure c vs).2

/-- How deep calls are nested and how deep they may be. -/
def level (s : State) : Nat × Nat := (s.depth, s.limit)

variable {s : State} {i : Item} {P : Item → Prop}

/-- Only the arenas and the globals hold items. -/
theorem Holds.of_eq {s' : State} (h : s'.Holds i) (hc : s'.classes = s.classes)
    (hf : s'.frames = s.frames) (ho : s'.objects = s.objects) (hg : s'.globals = s.globals) :
    s.Holds i := by
  cases h with
  | cls hx h => exact .cls (hc ▸ hx) h
  | frame hx h => exact .frame (hf ▸ hx) h
  | object hx h => exact .object (ho ▸ hx) h
  | global h => exact .global (hg ▸ h)

/-! ## Arenas

What is in a state after an update was there before or is in what the update left. -/

theorem getElem?_of_modify {α : Type} {xs : Array α} {i j : Nat} {f : α → α} {y : α}
    (h : (xs.modify i f)[j]? = some y) : xs[j]? = some y ∨ ∃ x, xs[i]? = some x ∧ f x = y := by
  rw [Array.getElem?_modify] at h
  split at h
  · next e => exact .inr (e ▸ Option.map_eq_some_iff.1 h)
  · exact .inl h

theorem getElem?_of_push {α : Type} {xs : Array α} {j : Nat} {x y : α}
    (h : (xs.push x)[j]? = some y) : xs[j]? = some y ∨ x = y := by
  rw [Array.getElem?_push] at h
  split at h
  · exact .inr (Option.some.inj h)
  · exact .inl h

theorem known_or_of_modifyClass {c : ClassId} {update : Class → Class}
    (hu : ∀ {x i}, (update x).Holds i → x.Holds i ∨ P i) (h : (s.modifyClass c update).Holds i) :
    s.Known i ∨ P i := by
  cases h with
  | cls hy h =>
    rcases getElem?_of_modify hy with hy | ⟨x, hx, rfl⟩
    · exact .inl (.inr (.cls hy h))
    · exact (hu h).imp_left fun h => .inr (.cls hx h)
  | frame hx h => exact .inl (.inr (.frame hx h))
  | object hx h => exact .inl (.inr (.object hx h))
  | global h => exact .inl (.inr (.global h))

theorem known_or_of_modifyFrame {f : FrameId} {update : Frame → Frame}
    (hu : ∀ {x i}, (update x).Holds i → x.Holds i ∨ P i) (h : (s.modifyFrame f update).Holds i) :
    s.Known i ∨ P i := by
  cases h with
  | frame hy h =>
    rcases getElem?_of_modify hy with hy | ⟨x, hx, rfl⟩
    · exact .inl (.inr (.frame hy h))
    · exact (hu h).imp_left fun h => .inr (.frame hx h)
  | cls hx h => exact .inl (.inr (.cls hx h))
  | object hx h => exact .inl (.inr (.object hx h))
  | global h => exact .inl (.inr (.global h))

theorem known_or_of_modifyObject {o : ObjectId} {update : Object → Object}
    (hu : ∀ {x i}, (update x).Holds i → x.Holds i ∨ P i) (h : (s.modifyObject o update).Holds i) :
    s.Known i ∨ P i := by
  cases h with
  | object hy h =>
    rcases getElem?_of_modify hy with hy | ⟨x, hx, rfl⟩
    · exact .inl (.inr (.object hy h))
    · exact (hu h).imp_left fun h => .inr (.object hx h)
  | cls hx h => exact .inl (.inr (.cls hx h))
  | frame hx h => exact .inl (.inr (.frame hx h))
  | global h => exact .inl (.inr (.global h))

theorem holds_addClass {x : Class} (h : (s.addClass x).2.Holds i) : s.Holds i ∨ x.Holds i := by
  cases h with
  | cls hy h =>
    rcases getElem?_of_push hy with hy | rfl
    · exact .inl (.cls hy h)
    · exact .inr h
  | frame hy h => exact .inl (.frame hy h)
  | object hy h => exact .inl (.object hy h)
  | global h => exact .inl (.global h)

theorem holds_addFrame {x : Frame} (h : (s.addFrame x).2.Holds i) : s.Holds i ∨ x.Holds i := by
  cases h with
  | frame hy h =>
    rcases getElem?_of_push hy with hy | rfl
    · exact .inl (.frame hy h)
    · exact .inr h
  | cls hy h => exact .inl (.cls hy h)
  | object hy h => exact .inl (.object hy h)
  | global h => exact .inl (.global h)

theorem holds_addObject {x : Object} (h : (s.addObject x).2.Holds i) : s.Holds i ∨ x.Holds i := by
  cases h with
  | object hy h =>
    rcases getElem?_of_push hy with hy | rfl
    · exact .inl (.object hy h)
    · exact .inr h
  | cls hy h => exact .inl (.cls hy h)
  | frame hy h => exact .inl (.frame hy h)
  | global h => exact .inl (.global h)

/-! ## Writes -/

theorem known_or_of_bindConstant {f : FrameId} {name : String} {v : Value}
    (h : (s.bindConstant f name v).Holds i) : s.Known i ∨ i = .value v :=
  known_or_of_modifyFrame Frame.holds_insertConstant h

theorem known_or_of_setIvar {v w : Value} {key : String} (h : (s.setIvar v key w).Holds i) :
    s.Known i ∨ i = .value w := by
  cases v with
  | nil => exact .inl (.inr h)
  | object o => exact known_or_of_modifyObject Object.holds_insertIvar h
  | cls c => exact known_or_of_modifyClass Class.holds_insertIvar h

theorem known_or_of_set {f : FrameId} {name : String} {v : Value}
    (h : (s.set f name v).Holds i) : s.Known i ∨ i = .value v := by
  unfold set at h
  dsimp only at h
  split at h
  · exact known_or_of_bindConstant h
  · exact known_or_of_modifyFrame Frame.holds_insertLocal h
  · cases h with
    | cls hx h => exact .inl (.inr (.cls hx h))
    | frame hx h => exact .inl (.inr (.frame hx h))
    | object hx h => exact .inl (.inr (.object hx h))
    | global h =>
      rcases Store.has_of_insert h with rfl | h
      · exact .inr rfl
      · exact .inl (.inr (.global h))
  · exact known_or_of_modifyClass Class.holds_insertClassVar h
  · exact known_or_of_setIvar h
  · exact .inl (.inr h)

theorem known_or_of_defineConstant {f : FrameId} {name : String} {v : Value}
    (h : (s.defineConstant f name v).2.Holds i) : s.Known i ∨ i = .value v := by
  unfold defineConstant at h
  split at h
  · exact .inl (.inr h)
  · exact known_or_of_bindConstant h

theorem known_or_of_defineMethod {c : ClassId} {m : Method} (h : (s.defineMethod c m).Holds i) :
    s.Known i ∨ ∃ n ∈ m.statements, i = .code n :=
  known_or_of_modifyClass Class.holds_insertMethod h

theorem known_or_of_register {f g : FrameId} {name : String} (h : (s.register f name g).Holds i) :
    s.Known i ∨ i = .frame g := by
  refine known_or_of_modifyFrame (P := (· = .frame g)) (fun {x i} h => ?_) h
  split at h
  · next hr => exact Frame.holds_register hr h
  · exact .inl h

/-! ## Sizes -/

section Sizes

variable (s) (f : FrameId) (name : String) (v w : Value)

@[simp] theorem size_classes_set : (s.set f name v).classes.size = s.classes.size := by
  unfold set setIvar setObjectIvar
  dsimp only
  repeat' split
  all_goals simp [bindConstant, bindLocal, modifyFrame, modifyClass, modifyObject]

@[simp] theorem size_frames_set : (s.set f name v).frames.size = s.frames.size := by
  unfold set setIvar setObjectIvar
  dsimp only
  repeat' split
  all_goals simp [bindConstant, bindLocal, modifyFrame, modifyClass, modifyObject]

@[simp] theorem size_objects_set : (s.set f name v).objects.size = s.objects.size := by
  unfold set setIvar setObjectIvar
  dsimp only
  repeat' split
  all_goals simp [bindConstant, bindLocal, modifyFrame, modifyClass, modifyObject]

theorem size_classes_setIvar (key : String) :
    (s.setIvar v key w).classes.size = s.classes.size := by
  cases v with
  | nil | object o => rfl
  | cls c => exact Array.size_modify

theorem size_frames_setIvar (key : String) :
    (s.setIvar v key w).frames.size = s.frames.size := by
  cases v <;> rfl

theorem size_objects_setIvar (key : String) :
    (s.setIvar v key w).objects.size = s.objects.size := by
  cases v with
  | nil | cls c => rfl
  | object o => exact Array.size_modify

@[simp] theorem size_classes_defineMethod (c : ClassId) (m : Method) :
    (s.defineMethod c m).classes.size = s.classes.size := Array.size_modify

theorem size_classes_defineConstant :
    (s.defineConstant f name v).2.classes.size = s.classes.size := by
  unfold defineConstant
  split <;> rfl

theorem size_objects_defineConstant :
    (s.defineConstant f name v).2.objects.size = s.objects.size := by
  unfold defineConstant
  split <;> rfl

theorem size_frames_defineConstant :
    (s.defineConstant f name v).2.frames.size = s.frames.size := by
  unfold defineConstant
  split
  · rfl
  · simp [bindConstant, modifyFrame]

@[simp] theorem size_classes_createClass (c : ClassId) :
    (Eval.createClass s f name c).2.classes.size = s.classes.size + 1 := by
  simp [Eval.createClass, newClassBody, addFrame, addClass]

@[simp] theorem size_frames_createClass (c : ClassId) :
    (Eval.createClass s f name c).2.frames.size = s.frames.size + 1 := by
  simp [Eval.createClass, newClassBody, addFrame, addClass]

@[simp] theorem size_frames_createSpace :
    (Eval.createSpace s f name).2.frames.size = s.frames.size + 1 := by
  simp [Eval.createSpace, newSpace, addFrame, instantiate, box, addObject, register, modifyFrame]

@[simp] theorem size_objects_createSpace :
    (Eval.createSpace s f name).2.objects.size = s.objects.size + 1 := by
  simp [Eval.createSpace, newSpace, addFrame, instantiate, box, addObject, register, modifyFrame]

theorem fresh_createClass (c : ClassId) :
    (Item.value (.cls s.classes.size)).FreshIn s (Eval.createClass s f name c).2 :=
  ⟨Nat.le_refl _, by simp⟩

theorem fresh_createClass_frame (c : ClassId) :
    (Item.frame s.frames.size).FreshIn s (Eval.createClass s f name c).2 :=
  ⟨Nat.le_refl _, by simp⟩

theorem fresh_createSpace :
    (Item.frame s.frames.size).FreshIn s (Eval.createSpace s f name).2 :=
  ⟨Nat.le_refl _, by simp⟩

theorem fresh_createSpace_self :
    (Item.value (.object s.objects.size)).FreshIn s (Eval.createSpace s f name).2 :=
  ⟨Nat.le_refl _, by simp⟩

theorem fresh_enter (receiver : Value) (owner : ClassId) (params : List String)
    (vs : List Value) : (Item.frame (s.enter receiver owner name params vs).1).FreshIn s
      (s.enter receiver owner name params vs).2 := by
  rw [enter_eq]
  exact ⟨by simp [addFrame], by simp [addFrame]⟩

theorem fresh_enterClosure (c : Closure) (vs : List Value) :
    (Item.frame (s.enterClosure c vs).1).FreshIn s (s.enterClosure c vs).2 := by
  rw [enterClosure_eq]
  exact ⟨Nat.le_refl _, by simp [addFrame]⟩

end Sizes

/-! ## Changes -/

variable {has : Item → Prop} {s' : State}

theorem Change.mono {has' : Item → Prop} (h : s.Change has s') (hm : ∀ i, has i → has' i) :
    s.Change has' s' := by
  cases h with
  | box p hp hs => exact .box p (fun i hi => hm i (hp i hi)) hs
  | instantiate hc => exact .instantiate (hm _ hc)
  | intern name => exact .intern name
  | print text => exact .print text
  | setIvar key hv hw => exact .setIvar key (hm _ hv) (hm _ hw)
  | set hn hc hf hv => exact .set hn (hm _ hc) (hm _ hf) (hm _ hv)
  | defineConstant hc hf hv => exact .defineConstant (hm _ hc) (hm _ hf) (hm _ hv)
  | addProperty hd hn hc => exact .addProperty (hm _ hd) hn (hm _ hc)
  | defineMethod hd hc => exact .defineMethod (hm _ hd) (hm _ hc)
  | createClass hd hf hc hn => exact .createClass (hm _ hd) (hm _ hf) (hm _ hc) hn
  | createSpace hd hf hn => exact .createSpace (hm _ hd) (hm _ hf) hn
  | enter ho hr hv => exact .enter (hm _ ho) (hm _ hr) fun v hw => hm _ (hv v hw)
  | enterClosure hc hv => exact .enterClosure (hm _ hc) fun v hw => hm _ (hv v hw)

/-- **A change stores what evaluation has**, besides the places it makes. -/
theorem Change.had_or_fresh (hk : ∀ i, s.Known i → has i)
    (hp : ∀ {n m}, has (.code n) → m ∈ n.parts → has (.code m)) (h : s.Change has s')
    (hi : s'.Holds i) : has i ∨ i.FreshIn s s' := by
  have known (hi : s.Holds i) : has i := hk i (.inr hi)
  cases h with
  | box p hp hs =>
    rcases holds_addObject hi with hi | hi
    · exact .inl (known hi)
    · rcases Object.holds_new hi with rfl | hi
      · exact .inl (hk _ (.inl (.cls p.home_le)))
      · exact .inl (hp i hi)
  | instantiate hc =>
    rcases holds_addObject hi with hi | hi
    · exact .inl (known hi)
    · rcases Object.holds_new hi with rfl | hi
      · exact .inl hc
      · exact hi.elim
  | intern => exact .inl (known (hi.of_eq rfl rfl rfl rfl))
  | print => exact .inl (known (hi.of_eq rfl rfl rfl rfl))
  | setIvar key hv hw =>
    rcases known_or_of_setIvar hi with hi | rfl
    · exact .inl (hk i hi)
    · exact .inl hw
  | set hn hc hf hv =>
    rcases known_or_of_set hi with hi | rfl
    · exact .inl (hk i hi)
    · exact .inl hv
  | defineConstant hc hf hv =>
    rcases known_or_of_defineConstant hi with hi | rfl
    · exact .inl (hk i hi)
    · exact .inl hv
  | addProperty hd hn hc =>
    rcases known_or_of_defineMethod hi with (hi | hi) | ⟨n, hn, -⟩
    · exact .inl (hk i (.inl hi))
    · rcases known_or_of_defineMethod hi with hi | ⟨n, hn, -⟩
      · exact .inl (hk i hi)
      · exact absurd hn List.not_mem_nil
    · exact absurd hn List.not_mem_nil
  | defineMethod hd hc =>
    rcases known_or_of_defineMethod hi with hi | ⟨n, hn, rfl⟩
    · exact .inl (hk i hi)
    · exact .inl (hp hd hn)
  | @createClass f name _ _ c hd hf hc hn =>
    rcases known_or_of_set hi with (hi | hi) | rfl
    · exact .inl (hk i (.inl hi))
    · rcases holds_addClass hi with hi | hi
      · rcases holds_addFrame hi with hi | hi
        · exact .inl (known hi)
        · rcases Frame.holds_new rfl rfl hi with rfl | rfl
          · exact .inr (fresh_createClass s f name c)
          · exact .inr (fresh_createClass s f name c)
      · rcases Class.holds_new hi with rfl | rfl
        · exact .inl hc
        · exact .inr (fresh_createClass_frame s f name c)
    · exact .inr (fresh_createClass s f name c)
  | @createSpace f name _ hd hf hn =>
    have object : has (.value (.cls Core.object)) := hk _ (.inl (.cls (Nat.zero_le _)))
    rcases known_or_of_register hi with (hi | hi) | rfl
    · exact .inl (hk i (.inl hi))
    · rcases holds_addFrame hi with hi | hi
      · rcases holds_addObject hi with hi | hi
        · exact .inl (known hi)
        · rcases Object.holds_new hi with rfl | hi
          · exact .inl object
          · exact hi.elim
      · rcases Frame.holds_new rfl rfl hi with rfl | rfl
        · exact .inr (fresh_createSpace_self s f name)
        · exact .inl object
    · exact .inr (fresh_createSpace s f name)
  | enter ho hr hv =>
    rw [enter_eq] at hi
    rcases holds_addFrame hi with hi | hi
    · rcases holds_addFrame hi with hi | hi
      · exact .inl (known hi)
      · rcases Frame.holds_new rfl rfl hi with rfl | rfl
        · exact .inl hr
        · exact .inl (hk _ (known_frame_cls s _))
    · rcases Frame.holds_activation hi with rfl | rfl | rfl | ⟨v, hm, rfl⟩
      · exact .inl hr
      · exact .inl (hk _ (known_frame_cls s _))
      · exact .inl (hk _ known_nil)
      · exact .inl (hv v hm)
  | enterClosure hc hv =>
    rw [enterClosure_eq] at hi
    rcases holds_addFrame hi with hi | hi
    · exact .inl (known hi)
    · rcases Frame.holds_activation hi with rfl | rfl | rfl | ⟨v, hm, rfl⟩
      · exact .inl (hk _ (known_self s _))
      · exact .inl (hk _ (known_frame_cls s _))
      · exact .inl (hk _ known_nil)
      · exact .inl (hv v hm)

theorem level_setIvar (s : State) (v : Value) (key : String) (w : Value) :
    (s.setIvar v key w).level = s.level := by cases v <;> rfl

theorem level_set (s : State) (f : FrameId) (name : String) (v : Value) :
    (s.set f name v).level = s.level := by
  unfold set
  dsimp only
  split
  · rfl
  · rfl
  · rfl
  · rfl
  · exact level_setIvar s _ _ v
  · rfl

theorem level_defineConstant (s : State) (f : FrameId) (name : String) (v : Value) :
    (s.defineConstant f name v).2.level = s.level := by
  unfold defineConstant
  split <;> rfl

/-- **A change leaves the level of calls alone.** -/
theorem Change.level (h : s.Change has s') : s'.level = s.level := by
  cases h with
  | setIvar key hv hw => exact level_setIvar s _ key _
  | set hn hc hf hv => exact level_set s _ _ _
  | defineConstant hc hf hv => exact level_defineConstant s _ _ _
  | createClass hd hf hc hn => exact level_set _ _ _ _
  | enter ho hr hv => rw [enter_eq]; rfl
  | enterClosure hc hv => rw [enterClosure_eq]; rfl
  | _ => rfl

end State

end OpenScript
