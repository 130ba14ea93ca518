import OpenScript.Core
import OpenScript.State.Lemmas

/-!
# Proofs/Fresh — the arenas of a fresh interpreter

    Core.classes   c  ──▸  class c, its methods in a table, with the frame c + 1 as its body
    Core.bool      true, false  ──▸  objects 1 and 2, after the self of the root namespace

`State.initial` adds the core classes one after another.  A step of that adds one class and one
frame and rebinds nothing but constants of the root namespace, so what is where can be read off the
list of core classes (`State.classAt_initial`, `State.frameAt_initial`, `State.objects_initial`),
and what methods instances start with off its entries (`State.getElem?_methods_initial`).
-/

namespace OpenScript

/-- A core class: its name and the methods of its instances. -/
abbrev Core.Entry : Type := String × List (String × Builtin)

/-- The built-in methods that instances of a class have from the start. -/
def Core.methodsOf (c : ClassId) : List (String × Builtin) :=
  (Core.classes[c]?.map (·.2)).getD []

/-- And those of the class itself as a value. -/
def Core.classMethodsOf (c : ClassId) : List (String × Builtin) :=
  if c = Core.symbol then Core.symbolClassMethods else []

namespace State

variable {s : State} {c : ClassId} {f : FrameId} {entry : Core.Entry} {entries : List Core.Entry}

/-! ## One core class -/

/-- The class that an entry is made into. -/
def coreClass (c : ClassId) (entry : Core.Entry) : Class :=
  { name := entry.1
    parent := if c = Core.object then none else some Core.object
    methods := methodTable entry.2
    frame := c + 1 }

/-- The frame of its body. -/
def coreBody (c : ClassId) : Frame :=
  { self := .cls c, cls := c, parent := some Core.root, role := .classBody }

/-- Adds a core class and binds it. -/
def addCoreClass (s : State) (entry : Core.Entry) : State :=
  (s.addRootClass entry.1 (if s.classes.size = Core.object then none else some Core.object)
    entry.2).bindConstant Core.root entry.1 (.cls s.classes.size)

theorem addCoreClasses_eq (s : State) : s.addCoreClasses = Core.classes.foldl addCoreClass s := rfl

theorem size_frames_addCoreClass (s : State) (entry : Core.Entry) :
    (s.addCoreClass entry).frames.size = s.frames.size + 1 := by
  simp [addCoreClass, addRootClass, newClassBody, addFrame, addClass, bindConstant, modifyFrame]

/-- Of the frames there are only the root namespace changes, and only in its constants. -/
theorem frameAt_addCoreClass_of_keeps {α : Type} {g : Frame → α} (hf : f < s.frames.size)
    (keeps : f = Core.root → ∀ x t, g { x with constants := t } = g x) :
    g ((s.addCoreClass entry).frameAt f) = g (s.frameAt f) := by
  have kept : g ((s.addCoreClass entry).frameAt f)
      = g ((s.addFrame (coreBody s.classes.size)).2.frameAt f) :=
    frameAt_modifyFrame_of_keeps _ fun e x => keeps e.symm x _
  rw [kept, frameAt_addFrame_of_lt _ hf]

theorem frameAt_addCoreClass_size (inner : s.frames.size ≠ Core.root) :
    (s.addCoreClass entry).frameAt s.frames.size = coreBody s.classes.size := by
  have kept : (s.addCoreClass entry).frameAt s.frames.size
      = (s.addFrame (coreBody s.classes.size)).2.frameAt s.frames.size :=
    frameAt_modifyFrame_of_keeps _ (g := id) fun e => absurd e.symm inner
  rw [kept, frameAt_addFrame_size]

/-- Every class has its own body, and the root namespace is the one frame besides. -/
def Paired (s : State) : Prop := s.frames.size = s.classes.size + 1

theorem Paired.classes (h : s.Paired) (entry : Core.Entry) :
    (s.addCoreClass entry).classes = s.classes.push (coreClass s.classes.size entry) := by
  rw [coreClass, ← h]
  rfl

theorem Paired.addCoreClass (h : s.Paired) (entry : Core.Entry) :
    (s.addCoreClass entry).Paired := by
  rw [Paired, size_frames_addCoreClass, h.classes, Array.size_push, h]

/-! ## All of them -/

theorem size_frames_foldl (entries : List Core.Entry) :
    (entries.foldl addCoreClass s).frames.size = s.frames.size + entries.length := by
  induction entries generalizing s with
  | nil => rfl
  | cons entry entries ih =>
    rw [List.foldl_cons, ih, size_frames_addCoreClass, List.length_cons]
    omega

theorem objects_foldl (entries : List Core.Entry) :
    (entries.foldl addCoreClass s).objects = s.objects := by
  induction entries generalizing s with
  | nil => rfl
  | cons entry entries ih => exact ih

theorem Paired.toList_classes (h : s.Paired) (entries : List Core.Entry) :
    (entries.foldl State.addCoreClass s).classes.toList
      = s.classes.toList ++ entries.mapIdx fun i => coreClass (s.classes.size + i) := by
  induction entries generalizing s with
  | nil => simp
  | cons entry entries ih =>
    rw [List.foldl_cons, ih (h.addCoreClass entry), h.classes, Array.toList_push, Array.size_push,
      List.mapIdx_cons, List.append_assoc]
    simp only [List.singleton_append, Nat.add_right_comm, Nat.add_assoc, Nat.add_zero]

theorem frameAt_foldl_of_keeps {α : Type} {g : Frame → α} (entries : List Core.Entry)
    (hf : f < s.frames.size)
    (keeps : f = Core.root → ∀ x t, g { x with constants := t } = g x) :
    g ((entries.foldl addCoreClass s).frameAt f) = g (s.frameAt f) := by
  induction entries generalizing s with
  | nil => rfl
  | cons entry entries ih =>
    have there : f < (s.addCoreClass entry).frames.size :=
      Nat.lt_of_lt_of_eq (Nat.lt_succ_of_lt hf) (size_frames_addCoreClass s entry).symm
    rw [List.foldl_cons, ih there, frameAt_addCoreClass_of_keeps hf keeps]

theorem Paired.frameAt (h : s.Paired) (new : s.classes.size ≤ c)
    (there : c < s.classes.size + entries.length) :
    (entries.foldl State.addCoreClass s).frameAt (c + 1) = coreBody c := by
  induction entries generalizing s with
  | nil => exact absurd there (Nat.not_lt_of_le new)
  | cons entry entries ih =>
    have size : (s.addCoreClass entry).classes.size = s.classes.size + 1 := by
      rw [h.classes, Array.size_push]
    rw [List.foldl_cons]
    rcases Nat.eq_or_lt_of_le new with rfl | later
    · have body : s.frames.size = s.classes.size + 1 := h
      have there : s.classes.size + 1 < (s.addCoreClass entry).frames.size := by
        rw [size_frames_addCoreClass, body]
        exact Nat.lt_succ_self _
      have kept := frameAt_foldl_of_keeps (g := id) entries there
        fun e => absurd e (Nat.succ_ne_zero _)
      refine kept.trans (body ▸ ?_)
      exact frameAt_addCoreClass_size (body ▸ Nat.succ_ne_zero _)
    · refine ih (h.addCoreClass entry) (size ▸ later) ?_
      rwa [size, Nat.add_right_comm]

/-! ## A fresh interpreter -/

/-! ### Arenas -/

theorem toList_classes_addCoreClasses (limit : Nat) :
    (rootOnly limit).addCoreClasses.classes.toList = Core.classes.mapIdx coreClass := by
  have made := Paired.toList_classes (s := rootOnly limit) rfl Core.classes
  rw [← addCoreClasses_eq] at made
  simpa only [rootOnly, List.nil_append, Nat.zero_add, Array.size_empty] using made

/-- What comes after the core classes changes one of them, and no frame. -/
theorem classes_initial (limit : Nat) : (State.initial limit).classes
    = ((rootOnly limit).addCoreClasses.modifyClass Core.symbol fun x =>
      { x with classMethods := methodTable Core.symbolClassMethods }).classes := by
  unfold initial
  generalize (rootOnly limit).addCoreClasses = s
  rfl

theorem frames_initial (limit : Nat) :
    (State.initial limit).frames = (rootOnly limit).addCoreClasses.frames := by
  unfold initial
  generalize (rootOnly limit).addCoreClasses = s
  rfl

theorem objects_initial (limit : Nat) : (State.initial limit).objects
    = #[{ cls := Core.object }, { cls := Core.boolean, payload := .bool true },
      { cls := Core.boolean, payload := .bool false }] := by
  have kept : (rootOnly limit).addCoreClasses.objects = #[{ cls := Core.object }] :=
    objects_foldl Core.classes
  unfold initial
  generalize (rootOnly limit).addCoreClasses = s at kept
  simp only [box, addObject, modifyClass, kept]
  rfl

theorem size_objects_initial (limit : Nat) : (State.initial limit).objects.size = 3 := by
  rw [objects_initial]
  rfl

theorem size_frames_initial (limit : Nat) : (State.initial limit).frames.size = 10 := by
  rw [frames_initial]
  exact size_frames_foldl Core.classes

theorem size_classes_addCoreClasses (limit : Nat) :
    (rootOnly limit).addCoreClasses.classes.size = 9 := by
  rw [← Array.length_toList, toList_classes_addCoreClasses, List.length_mapIdx]
  rfl

theorem size_classes_initial (limit : Nat) : (State.initial limit).classes.size = 9 := by
  rw [classes_initial]
  exact Array.size_modify.trans (size_classes_addCoreClasses limit)

/-! ### Classes and frames -/

/-- **Class `c` of a fresh interpreter is made of entry `c`.** -/
theorem classAt_initial (limit : Nat) (h : Core.classes[c]? = some entry) :
    (State.initial limit).classAt c
      = { coreClass c entry with classMethods := methodTable (Core.classMethodsOf c) } := by
  have own : (rootOnly limit).addCoreClasses.classAt c = coreClass c entry := by
    rw [classAt, ← Array.getElem?_toList, toList_classes_addCoreClasses, List.getElem?_mapIdx, h]
    rfl
  have there : Core.symbol < (rootOnly limit).addCoreClasses.classes.size := by
    rw [size_classes_addCoreClasses]
    decide
  rw [classAt, classes_initial, ← classAt, classAt_modifyClass _ there, own]
  by_cases symbol : c = Core.symbol
  · rw [if_pos symbol.symm, Core.classMethodsOf, if_pos symbol]
  · rw [if_neg (Ne.symm symbol), Core.classMethodsOf, if_neg symbol]
    rfl

theorem classAt_initial_of_le (limit : Nat) (hc : 9 ≤ c) :
    (State.initial limit).classAt c = default := by
  rw [classAt, Array.getElem?_eq_none (size_classes_initial limit ▸ hc)]
  rfl

theorem exists_entry (hc : c < 9) : ∃ entry, Core.classes[c]? = some entry :=
  ⟨_, List.getElem?_eq_getElem hc⟩

/-- Core classes inherit from `Object`. -/
theorem parent_initial (limit : Nat) (hc : c < 9) : ((State.initial limit).classAt c).parent
    = if c = Core.object then none else some Core.object := by
  obtain ⟨entry, h⟩ := exists_entry hc
  rw [classAt_initial limit h]
  rfl

/-- The frames are the root namespace and the bodies of the core classes. -/
theorem eq_root_or_body (hf : f < 10) : f = Core.root ∨ ∃ c < 9, f = c + 1 := by
  cases f with
  | zero => exact .inl rfl
  | succ c => exact .inr ⟨c, Nat.lt_of_succ_lt_succ hf, rfl⟩

/-- The frame after that of the root namespace is the body of `Object`, and so on. -/
theorem frameAt_initial (limit : Nat) (hc : c < 9) :
    (State.initial limit).frameAt (c + 1) = coreBody c := by
  have there : c < (rootOnly limit).classes.size + Core.classes.length := hc
  rw [frameAt, frames_initial]
  exact Paired.frameAt (s := rootOnly limit) rfl (Nat.zero_le c) there

/-- The root namespace has no parent, and no namespace is registered in it. -/
theorem frameAt_initial_root (limit : Nat) :
    ((State.initial limit).frameAt Core.root).parent = none ∧
      ((State.initial limit).frameAt Core.root).role = .space {} := by
  have made := frameAt_foldl_of_keeps (s := rootOnly limit) (g := fun x => (x.parent, x.role))
    Core.classes Nat.zero_lt_one fun _ _ _ => rfl
  rw [frameAt, frames_initial]
  exact Prod.mk.inj made

/-! ## Methods -/

/-- Of two methods under one name the later stands in a table. -/
theorem getElem?_methodTable (methods : List (String × Builtin)) (name : String) :
    (methodTable methods)[name]?
      = (methods.reverse.lookup name).map fun b => ⟨name, .native (.builtin b)⟩ := by
  rw [methodTable, ← List.foldr_reverse]
  induction methods.reverse with
  | nil => exact Std.TreeMap.getElem?_emptyc
  | cons method methods ih =>
    rw [List.foldr_cons, Std.TreeMap.getElem?_insert, ih, List.lookup_cons]
    by_cases same : name = method.1
    · subst same
      rw [if_pos Std.ReflCmp.compare_self, beq_self_eq_true]
      rfl
    · rw [if_neg fun e => same (Std.LawfulEqCmp.eq_of_compare e).symm, beq_false_of_ne same]

/-- **The instances of a class start with the methods that are listed for it**, and with no
others. -/
theorem getElem?_methods_initial (limit : Nat) (c : ClassId) (name : String) :
    ((State.initial limit).classAt c).methods[name]?
      = ((Core.methodsOf c).reverse.lookup name).map fun b => ⟨name, .native (.builtin b)⟩ := by
  rw [← getElem?_methodTable, Core.methodsOf]
  cases h : Core.classes[c]? with
  | some entry =>
    rw [classAt_initial limit h]
    rfl
  | none =>
    rw [classAt_initial_of_le limit (List.getElem?_eq_none_iff.1 h)]
    rfl

/-- So do the classes themselves. -/
theorem getElem?_classMethods_initial (limit : Nat) (c : ClassId) (name : String) :
    ((State.initial limit).classAt c).classMethods[name]?
      = ((Core.classMethodsOf c).reverse.lookup name).map
        fun b => ⟨name, .native (.builtin b)⟩ := by
  rw [← getElem?_methodTable]
  cases h : Core.classes[c]? with
  | some entry => rw [classAt_initial limit h]
  | none =>
    have past : 9 ≤ c := List.getElem?_eq_none_iff.1 h
    rw [classAt_initial_of_le limit past, Core.classMethodsOf,
      if_neg fun e => absurd (e ▸ past) (by decide)]
    rfl

end State

end OpenScript
