import OpenScript.Proofs.Evaluation
import OpenScript.Proofs.Growth
import OpenScript.Proofs.Initial

/-!
# Proofs/WellFormed — ids name what they should

    class ──frame──▸ a class body          namespace ──registered──▸ a namespace

Evaluation handles only ids of what is there (`Item.In`), the body of a class is a frame for class
bodies and what a namespace registers are namespaces.  This is a discipline
(`Discipline.wellFormed`), so it holds wherever evaluation gets from a fresh interpreter.
-/

namespace OpenScript

/-- An item that names something there is. -/
def Item.In (s : State) : Item → Prop
  | .value .nil => True
  | .value (.object o) => o < s.objects.size
  | .value (.cls c) => c < s.classes.size
  | .frame f => f < s.frames.size
  | .code _ => True

/-- The role of a namespace. -/
def Role.IsSpace : Role → Prop
  | .space _ => True
  | _ => False

instance : DecidablePred Role.IsSpace
  | .space _ => .isTrue trivial
  | .classBody | .receiver _ | .activation .. => .isFalse id

theorem Role.Grows.isSpace {r r' : Role} (h : r.Grows r') (hr : r.IsSpace) : r'.IsSpace := by
  cases h with
  | refl => exact hr
  | space => trivial

theorem Role.IsSpace.captured? {r : Role} (h : r.IsSpace) : r.captured? = none := by
  cases r with
  | space => rfl
  | _ => exact h.elim

theorem Role.Grows.classBody {r : Role} (h : Role.classBody.Grows r) : r = .classBody := by
  cases h
  rfl

namespace State

variable {s s' : State} {f g : FrameId}

/-- A frame is the body of a class. -/
def IsBody (s : State) (f : FrameId) : Prop :=
  ∃ (c : ClassId) (x : Class), s.classes[c]? = some x ∧ x.frame = f

/-- A frame is registered as a namespace. -/
def IsRegistered (s : State) (g : FrameId) : Prop :=
  ∃ (f : FrameId) (x : Frame), s.frames[f]? = some x ∧ Store.Has x.role.registered g

/-! ## Bodies -/

theorem isBody_modifyClass {c : ClassId} {update : Class → Class}
    (h : (s.modifyClass c update).IsBody f) (hu : ∀ x, (update x).frame = x.frame) :
    s.IsBody f := by
  obtain ⟨d, y, hy, rfl⟩ := h
  rcases getElem?_of_modify hy with hy | ⟨x, hx, rfl⟩
  · exact ⟨d, y, hy, rfl⟩
  · exact ⟨c, x, hx, (hu x).symm⟩

theorem isBody_addClass {x : Class} (h : (s.addClass x).2.IsBody f) : s.IsBody f ∨ x.frame = f := by
  obtain ⟨c, y, hy, rfl⟩ := h
  rcases getElem?_of_push hy with hy | rfl
  · exact .inl ⟨c, y, hy, rfl⟩
  · exact .inr rfl

theorem isBody_setIvar {v w : Value} {key : String} (h : (s.setIvar v key w).IsBody f) :
    s.IsBody f := by
  cases v with
  | nil | object o => exact h
  | cls c => exact isBody_modifyClass h fun _ => rfl

theorem isBody_set {name : String} {v : Value} (h : (s.set g name v).IsBody f) : s.IsBody f := by
  unfold set at h
  dsimp only at h
  split at h
  · exact h
  · exact h
  · exact h
  · exact isBody_modifyClass h fun _ => rfl
  · exact isBody_setIvar h
  · exact h

theorem isBody_defineConstant {name : String} {v : Value}
    (h : (s.defineConstant g name v).2.IsBody f) : s.IsBody f := by
  unfold defineConstant at h
  split at h
  · exact h
  · exact h

theorem isBody_defineMethod {c : ClassId} {m : Method} (h : (s.defineMethod c m).IsBody f) :
    s.IsBody f := isBody_modifyClass h fun _ => rfl

/-- The body of a class that is added is a class body. -/
theorem role_createClass (s : State) (f : FrameId) (name : String) (c : ClassId) :
    ((Eval.createClass s f name c).2.frameAt s.frames.size).role = .classBody := by
  have grows : (s.newClassBody f s.classes.size).2.Grows (Eval.createClass s f name c).2 :=
    (grows_addClass _ _).trans (grows_set _ f name _)
  have role := (grows.frameAt (f := s.frames.size) (by simp [newClassBody, addFrame])).role
  rw [newClassBody, frameAt_addFrame_size] at role
  exact role.classBody

theorem isBody_createClass {name : String} {c : ClassId}
    (h : (Eval.createClass s g name c).2.IsBody f) : s.IsBody f ∨ f = s.frames.size := by
  rcases isBody_addClass (isBody_set h) with h | h
  · exact .inl h
  · exact .inr h.symm

/-- **The body of a class is a class body** if it is new. -/
theorem Change.body_or_fresh {has : Item → Prop} (h : s.Change has s') (hf : s'.IsBody f) :
    s.IsBody f ∨ (s'.frameAt f).role = .classBody := by
  cases h with
  | setIvar key hv hw => exact .inl (isBody_setIvar hf)
  | set hn hc hf' hv => exact .inl (isBody_set hf)
  | defineConstant hc hf' hv => exact .inl (isBody_defineConstant hf)
  | addProperty hd hn hc => exact .inl (isBody_defineMethod (isBody_defineMethod hf))
  | defineMethod hd hc => exact .inl (isBody_defineMethod hf)
  | createClass hd hf' hc hn =>
    rcases isBody_createClass hf with hf | rfl
    · exact .inl hf
    · exact .inr (role_createClass s _ _ _)
  | enter ho hr hv =>
    rw [enter_eq] at hf
    exact .inl hf
  | enterClosure hc hv =>
    rw [enterClosure_eq] at hf
    exact .inl hf
  | box | instantiate | intern | print | createSpace => exact .inl hf

/-! ## Namespaces -/

theorem isRegistered_modifyFrame {update : Frame → Frame}
    (h : (s.modifyFrame f update).IsRegistered g) (hu : ∀ x, (update x).role = x.role) :
    s.IsRegistered g := by
  obtain ⟨k, y, hy, hg⟩ := h
  rcases getElem?_of_modify hy with hy | ⟨x, hx, rfl⟩
  · exact ⟨k, y, hy, hg⟩
  · rw [hu] at hg
    exact ⟨f, x, hx, hg⟩

theorem isRegistered_addFrame {x : Frame} (h : (s.addFrame x).2.IsRegistered g)
    (hx : x.role.registered = {}) : s.IsRegistered g := by
  obtain ⟨f, y, hy, hg⟩ := h
  rcases getElem?_of_push hy with hy | rfl
  · exact ⟨f, y, hy, hg⟩
  · rw [hx] at hg
    exact absurd hg Store.not_has_empty

theorem isRegistered_setIvar {v w : Value} {key : String}
    (h : (s.setIvar v key w).IsRegistered g) : s.IsRegistered g := by
  cases v <;> exact h

theorem isRegistered_set {name : String} {v : Value} (h : (s.set f name v).IsRegistered g) :
    s.IsRegistered g := by
  unfold set at h
  dsimp only at h
  split at h
  · exact isRegistered_modifyFrame h fun _ => rfl
  · exact isRegistered_modifyFrame h fun _ => rfl
  · exact h
  · exact h
  · exact isRegistered_setIvar h
  · exact h

theorem isRegistered_defineConstant {name : String} {v : Value}
    (h : (s.defineConstant f name v).2.IsRegistered g) : s.IsRegistered g := by
  unfold defineConstant at h
  split at h
  · exact h
  · exact isRegistered_modifyFrame h fun _ => rfl

theorem isRegistered_register {name : String} {space : FrameId}
    (h : (s.register f name space).IsRegistered g) : s.IsRegistered g ∨ g = space := by
  obtain ⟨k, y, hy, hg⟩ := h
  rcases getElem?_of_modify hy with hy | ⟨x, hx, rfl⟩
  · exact .inl ⟨k, y, hy, hg⟩
  · split at hg
    · next registered hr =>
      rcases Store.has_of_insert hg with rfl | hg
      · exact .inr rfl
      · exact .inl ⟨_, x, hx, by rw [hr]; exact hg⟩
    · exact .inl ⟨_, x, hx, hg⟩

theorem isRegistered_createClass {name : String} {c : ClassId}
    (h : (Eval.createClass s f name c).2.IsRegistered g) : s.IsRegistered g := by
  let x : Class := { name, parent := some c, frame := s.frames.size }
  have added : ((s.newClassBody f s.classes.size).2.addClass x).2.IsRegistered g :=
    isRegistered_set h
  exact isRegistered_addFrame added rfl

/-- A namespace that is added is a namespace. -/
theorem role_createSpace {name : String} (h : s.registered? f name = none) :
    ((Eval.createSpace s f name).2.frameAt s.frames.size).role.IsSpace := by
  have role := ((s.grows_created h).frameAt (f := s.frames.size)
    (by simp [newSpace, addFrame, instantiate, box, addObject])).role
  refine role.isSpace ?_
  rw [newSpace, show s.frames.size = (s.instantiate Core.object).2.frames.size from rfl,
    frameAt_addFrame_size]
  trivial

theorem isRegistered_createSpace {name : String}
    (h : (Eval.createSpace s f name).2.IsRegistered g) : s.IsRegistered g ∨ g = s.frames.size := by
  rcases isRegistered_register h with h | rfl
  · exact .inl (isRegistered_addFrame h rfl)
  · exact .inr rfl

/-- **What is registered is a namespace** if it is new. -/
theorem Change.registered_or_fresh {has : Item → Prop} (h : s.Change has s')
    (hg : s'.IsRegistered g) : s.IsRegistered g ∨ (s'.frameAt g).role.IsSpace := by
  cases h with
  | setIvar key hv hw => exact .inl (isRegistered_setIvar hg)
  | set hn hc hf hv => exact .inl (isRegistered_set hg)
  | defineConstant hc hf hv => exact .inl (isRegistered_defineConstant hg)
  | createClass hd hf hc hn => exact .inl (isRegistered_createClass hg)
  | createSpace hd hf hn =>
    rcases isRegistered_createSpace hg with hg | rfl
    · exact .inl hg
    · exact .inr (role_createSpace hn)
  | enter ho hr hv =>
    rw [enter_eq] at hg
    exact .inl (isRegistered_addFrame (isRegistered_addFrame hg rfl) rfl)
  | enterClosure hc hv =>
    rw [enterClosure_eq] at hg
    exact .inl (isRegistered_addFrame hg rfl)
  | box | instantiate | intern | print | addProperty | defineMethod => exact .inl hg

/-! ## Captured frames -/

/-- A frame that is not there captures nothing. -/
theorem captured?_of_le (h : s.frames.size ≤ f) : (s.frameAt f).role.captured? = none := by
  rw [frameAt, Array.getElem?_eq_none h]
  rfl

/-- Of the frames that were not there before one is added, that one alone may capture. -/
theorem captured?_addFrame_of_le {x : Frame} (hf : s.frames.size ≤ f) :
    ((s.addFrame x).2.frameAt f).role.captured? = none
      ∨ ((s.addFrame x).2.frameAt f).role.captured? = x.role.captured? := by
  rcases Nat.eq_or_lt_of_le hf with rfl | hlt
  · exact .inr (by rw [frameAt_addFrame_size])
  · refine .inl (captured?_of_le ?_)
    rw [addFrame, Array.size_push]
    exact hlt

theorem captured?_createClass {name : String} {c : ClassId} (hf : s.frames.size ≤ f) :
    ((Eval.createClass s g name c).2.frameAt f).role.captured? = none := by
  rcases Nat.eq_or_lt_of_le hf with rfl | hlt
  · rw [role_createClass]
    rfl
  · exact captured?_of_le (by rw [size_frames_createClass]; exact hlt)

theorem captured?_createSpace {name : String} (h : s.registered? g name = none)
    (hf : s.frames.size ≤ f) :
    ((Eval.createSpace s g name).2.frameAt f).role.captured? = none := by
  rcases Nat.eq_or_lt_of_le hf with rfl | hlt
  · exact (role_createSpace h).captured?
  · exact captured?_of_le (by rw [size_frames_createSpace]; exact hlt)

/-- The frames that a call adds are the receiver's and the activation. -/
theorem frameAt_enter {receiver : Value} {owner : ClassId} {name : String}
    {params : List String} {vs : List Value} (hf : s.frames.size ≤ f)
    (hf' : f < (s.enter receiver owner name params vs).2.frames.size) :
    (s.enter receiver owner name params vs).2.frameAt f = s.receiverFrame receiver owner ∨
    (s.enter receiver owner name params vs).2.frameAt f
      = (s.receiverFrame receiver owner).activation s.frames.size name params vs none := by
  rw [enter_eq] at hf' ⊢
  let outer : State := (s.addFrame (s.receiverFrame receiver owner)).2
  have size : outer.frames.size = s.frames.size + 1 := Array.size_push _
  rcases Nat.eq_or_lt_of_le hf with rfl | hlt
  · have there : s.frames.size < outer.frames.size := size ▸ Nat.lt_succ_self _
    exact .inl ((frameAt_addFrame_of_lt outer there _).trans (frameAt_addFrame_size s _))
  · have below : f < outer.frames.size + 1 := Nat.lt_of_lt_of_eq hf' (Array.size_push _)
    obtain rfl : f = outer.frames.size :=
      Nat.le_antisymm (Nat.le_of_lt_succ below) (Nat.le_trans (Nat.le_of_eq size) hlt)
    exact .inr (frameAt_addFrame_size outer _)

theorem captured?_enter {receiver : Value} {owner : ClassId} {name : String}
    {params : List String} {vs : List Value} (hf : s.frames.size ≤ f) :
    ((s.enter receiver owner name params vs).2.frameAt f).role.captured? = none := by
  rcases Nat.lt_or_ge f (s.enter receiver owner name params vs).2.frames.size with hf' | past
  · rcases frameAt_enter hf hf' with e | e
    · rw [e]
      rfl
    · rw [e]
      rfl
  · exact captured?_of_le past

/-- **What a frame captures anew is had.** -/
theorem Change.captured_had {has : Item → Prop} (h : s.Change has s') {c : FrameId}
    (hf : s.frames.size ≤ f) (hc : (s'.frameAt f).role.captured? = some c) : has (.frame c) := by
  have none_of (e : (s'.frameAt f).role.captured? = none) : has (.frame c) :=
    absurd (e.symm.trans hc) nofun
  have same_size (e : s'.frames.size = s.frames.size) : has (.frame c) :=
    none_of (captured?_of_le (e ▸ hf))
  cases h with
  | box | instantiate | intern | print | addProperty | defineMethod => exact same_size rfl
  | setIvar key hv hw => exact same_size (size_frames_setIvar s _ _ key)
  | set hn hcode hframe hv => exact same_size (size_frames_set s _ _ _)
  | defineConstant hcode hframe hv => exact same_size (size_frames_defineConstant s _ _ _)
  | createClass hd hframe hcls hn => exact none_of (captured?_createClass hf)
  | createSpace hd hframe hn => exact none_of (captured?_createSpace hn hf)
  | enter ho hr hv => exact none_of (captured?_enter hf)
  | @enterClosure k vs hcap hv =>
    rw [enterClosure_eq] at hc
    rcases captured?_addFrame_of_le hf with e | e
    · exact absurd (e.symm.trans hc) nofun
    · have captured : some k.captured = some c := e.symm.trans hc
      exact Option.some.inj captured ▸ hcap

/-! ## Well-formed states -/

/-- The core classes, `main` and the truth values are there, and frames have the roles they are used
in. -/
structure RolesFit (s : State) : Prop where
  classes : Core.lambda < s.classes.size
  objects : 2 < s.objects.size
  rootIn : Core.root < s.frames.size
  root : (s.frameAt Core.root).role.IsSpace
  body {f : FrameId} (h : s.IsBody f) : (s.frameAt f).role = .classBody
  space {g : FrameId} (h : s.IsRegistered g) : (s.frameAt g).role.IsSpace
  /-- A captured frame was there before the frame that captures it. -/
  captured {f c : FrameId} (h : (s.frameAt f).role.captured? = some c) : c < f

/-- Nothing cuts a closure chain short: frames capture older ones only. -/
theorem RolesFit.closureChain_eq (h : s.RolesFit) (f : FrameId) :
    s.closureChain f = f :: ((s.frameAt f).role.captured?.map s.closureChain).getD [] := by
  rw [closureChain]
  cases hc : (s.frameAt f).role.captured? with
  | none => rfl
  | some c =>
    simp only [if_pos (h.captured hc)]
    rfl

theorem IsBody.known (h : s.IsBody f) : s.Known (.frame f) := by
  obtain ⟨c, x, hx, rfl⟩ := h
  exact .inr (.cls hx rfl)

theorem IsRegistered.known (h : s.IsRegistered g) : s.Known (.frame g) := by
  obtain ⟨f, x, hx, hg⟩ := h
  exact .inr (.frame hx hg)

/-- **A change leaves frames in the roles they are used in.** -/
theorem Change.rolesFit (h : s.Change (·.In s) s') (fit : s.RolesFit)
    (hk : ∀ i, s.Known i → i.In s) : s'.RolesFit := by
  have grows := h.grows
  refine ⟨?_, ?_, ?_, ?_, fun {f} hf => ?_, fun {g} hg => ?_, fun {f c} hc => ?_⟩
  · exact Nat.lt_of_lt_of_le fit.classes grows.classes.size_le
  · exact Nat.lt_of_lt_of_le fit.objects grows.objects.size_le
  · exact Nat.lt_of_lt_of_le fit.rootIn grows.frames.size_le
  · exact (grows.frameAt fit.rootIn).role.isSpace fit.root
  · rcases h.body_or_fresh hf with hf | hf
    · have role := (grows.frameAt (hk _ hf.known)).role
      rw [fit.body hf] at role
      exact role.classBody
    · exact hf
  · rcases h.registered_or_fresh hg with hg | hg
    · exact (grows.frameAt (hk _ hg.known)).role.isSpace (fit.space hg)
    · exact hg
  · by_cases hf : f < s.frames.size
    · rw [(grows.frameAt hf).role.captured?] at hc
      exact fit.captured hc
    · have hf : s.frames.size ≤ f := Nat.le_of_not_lt hf
      have had : c < s.frames.size := h.captured_had hf hc
      exact Nat.lt_of_lt_of_le had hf

end State

/-- Where there is at least as much, the same items are there. -/
theorem Item.In.of_size_le {s s' : State} {i : Item} (h : i.In s)
    (hc : s.classes.size ≤ s'.classes.size) (hf : s.frames.size ≤ s'.frames.size)
    (ho : s.objects.size ≤ s'.objects.size) : i.In s' := by
  match i, h with
  | .value .nil, _ => trivial
  | .value (.object _), h => exact Nat.lt_of_lt_of_le h ho
  | .value (.cls _), h => exact Nat.lt_of_lt_of_le h hc
  | .frame _, h => exact Nat.lt_of_lt_of_le h hf
  | .code _, _ => trivial

theorem Item.In.grows {s s' : State} {i : Item} (h : i.In s) (hs : s.Grows s') : i.In s' :=
  h.of_size_le hs.classes.size_le hs.frames.size_le hs.objects.size_le

theorem Item.FreshIn.isIn {s s' : State} {i : Item} (h : i.FreshIn s s') : i.In s' := by
  match i, h with
  | .value (.object _), h => exact h.2
  | .value (.cls _), h => exact h.2
  | .frame _, h => exact h.2

/-- Core items are there if the core is. -/
theorem Item.IsCore.isIn {s : State} {i : Item} (h : i.IsCore) (fit : s.RolesFit) : i.In s := by
  cases h with
  | nil => trivial
  | bool b =>
    have := fit.objects
    cases b with
    | true => exact Nat.lt_of_succ_lt this
    | false => exact this
  | cls h => exact Nat.lt_of_le_of_lt h fit.classes
  | root => exact fit.rootIn

namespace Discipline

/-- Evaluation handles only what there is, and frames in the roles they are used in. -/
def wellFormed : Discipline where
  inv := State.RolesFit
  has s i := i.In s
  part _ _ := trivial
  change h hk hc := ⟨hc.rolesFit h hk, fun _ hi => hi.grows hc.grows, fun _ hi => hi.isIn⟩
  inv_depth _ h := ⟨h.classes, h.objects, h.rootIn, h.root, h.body, h.space, h.captured⟩
  has_depth _ h := h.of_size_le (Nat.le_refl _) (Nat.le_refl _) (Nat.le_refl _)

end Discipline

/-- A state whose ids name what they should. -/
abbrev State.WellFormed (s : State) : Prop := Discipline.wellFormed.Fits s

namespace State

theorem isIn_of_allowsInitially {s : State} {i : Item} (h : s.allowsInitially i = true) :
    i.In s := by
  match i, h with
  | .value .nil, _ => trivial
  | .value (.object o), h => exact (of_decide_eq_true h : o < s.objects.size)
  | .value (.cls c), h => exact (of_decide_eq_true h : c < s.classes.size)
  | .frame f, h => exact (of_decide_eq_true (Bool.and_eq_true_iff.1 h).1 : f < s.frames.size)

theorem role_of_allowsInitially {s : State} {f : FrameId}
    (h : s.allowsInitially (.frame f) = true) : (s.frameAt f).role = .classBody := by
  have role : s.isClassBody f = true := (Bool.and_eq_true_iff.1 h).2
  unfold isClassBody at role
  split at role
  · assumption
  · exact absurd role nofun

/-- A state that holds only class bodies and registers nothing. -/
theorem rolesFit_of_allowsInitially {s : State} (classes : Core.lambda < s.classes.size)
    (objects : 2 < s.objects.size) (rootIn : Core.root < s.frames.size)
    (root : (s.frameAt Core.root).role.IsSpace)
    (held : ∀ i, s.Holds i → s.allowsInitially i = true)
    (free : ∀ (f : FrameId) (x : Frame), s.frames[f]? = some x →
      Store.values x.role.registered = [] ∧ x.role.captured? = none) : s.RolesFit := by
  refine ⟨classes, objects, rootIn, root, fun {f} hf => ?_, fun {g} hg => ?_, fun {f c} hc => ?_⟩
  · obtain ⟨c, x, hx, rfl⟩ := hf
    exact role_of_allowsInitially (held _ (.cls hx rfl))
  · obtain ⟨f, x, hx, hg⟩ := hg
    have listed := Store.mem_values hg
    rw [(free f x hx).1] at listed
    exact absurd listed List.not_mem_nil
  · cases hx : s.frames[f]? with
    | none =>
      rw [captured?_of_le (Array.getElem?_eq_none_iff.1 hx)] at hc
      exact absurd hc nofun
    | some x =>
      rw [frameAt, hx] at hc
      exact absurd ((free f x hx).2.symm.trans hc) nofun

theorem rolesFit_initial (limit : Nat) : (State.initial limit).RolesFit := by
  refine rolesFit_of_allowsInitially ?_ ?_ ?_ ?_ (fun _ => allowsInitially_of_holds)
    fun _ _ => free_initial
  · rw [size_classes_initial]; decide
  · rw [size_objects_initial]; decide
  · rw [size_frames_initial]; decide
  · rw [(frameAt_initial_root limit).2]
    trivial

/-- **A fresh interpreter is well-formed.** -/
theorem wellFormed_initial (limit : Nat) : (State.initial limit).WellFormed := by
  have fit := rolesFit_initial limit
  refine ⟨fit, fun {i} hi => ?_⟩
  rcases hi with hi | hi
  · exact hi.isIn fit
  · exact isIn_of_allowsInitially (allowsInitially_of_holds hi)

end State

end OpenScript
