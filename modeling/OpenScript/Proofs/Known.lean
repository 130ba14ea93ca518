import OpenScript.Eval.Node
import OpenScript.State.Lemmas

/-!
# Proofs/Known — what evaluation can get out of a state

    names, methods, ivars, closures, namespaces ──read──▸ items the state holds, or core items

Evaluation handles three kinds of item: values, frames that code runs in, and code.  Whatever it
reads from a state is stored there (`State.Holds`) or is one of the items that every state has
(`Item.IsCore`), so a property of all known items is a property of all that can be read.
-/

namespace OpenScript

/-- The values of a table. -/
def Store.Has (t : Store α) (a : α) : Prop := ∃ k : String, t[k]? = some a

@[grind →] theorem Store.has_of_insert {t : Store α} {k : String} {a b : α}
    (h : Store.Has (t.insert k a) b) : b = a ∨ Store.Has t b := by
  obtain ⟨k', h⟩ := h
  rw [Std.TreeMap.getElem?_insert] at h
  split at h
  · exact .inl (Option.some.inj h).symm
  · exact .inr ⟨k', h⟩

/-- A new entry leaves those of other names. -/
theorem Store.getElem?_insert_of_ne {t : Store α} {k k' : String} {a : α} (h : k' ≠ k) :
    (t.insert k a)[k']? = t[k']? := by
  rw [Std.TreeMap.getElem?_insert, if_neg fun e => h (Std.LawfulEqCmp.eq_of_compare e).symm]

@[grind .] theorem Store.not_has_empty {a : α} : ¬ Store.Has ({} : Store α) a := fun ⟨_, h⟩ => by
  rw [Std.TreeMap.getElem?_emptyc] at h
  exact absurd h nofun

/-- What evaluation handles. -/
inductive Item where
  | value (v : Value)
  /-- A frame that code runs in, or may come to run in. -/
  | frame (f : FrameId)
  | code (n : Node)

/-- The items that every state has. -/
inductive Item.IsCore : Item → Prop where
  | nil : IsCore (.value .nil)
  | bool (b : Bool) : IsCore (.value (Core.bool b))
  | cls {c : ClassId} (h : c ≤ Core.lambda) : IsCore (.value (.cls c))
  | root : IsCore (.frame Core.root)

/-! ## What is stored where -/

/-- The items in a payload. -/
def Payload.Holds : Payload → Item → Prop
  | .lambda c, .frame f => f = c.captured
  | .lambda c, .code n => n ∈ c.body
  | _, _ => False

/-- The items in an object. -/
def Object.Holds (x : Object) : Item → Prop
  | .value v => v = .cls x.cls ∨ Store.Has x.ivars v
  | i => x.payload.Holds i

/-- The statements of a method written in the language. -/
def Method.statements (m : Method) : Program :=
  match m.body with
  | .user _ body => body
  | .native _ => []

/-- The items in a class. -/
def Class.Holds (x : Class) : Item → Prop
  | .value v => x.parent.map .cls = some v ∨ Store.Has x.classVars v ∨ Store.Has x.ivars v
  | .frame f => f = x.frame
  | .code n => ∃ m, (Store.Has x.methods m ∨ Store.Has x.classMethods m) ∧ n ∈ m.statements

/-- The arguments that an activation was called with. -/
def Role.arguments : Role → List Value
  | .activation _ vs _ => vs
  | _ => []

/-- The namespaces registered in a namespace. -/
def Role.registered : Role → Store FrameId
  | .space registered => registered
  | _ => {}

/-- The items in a frame.  The frames around it are only read through it. -/
def Frame.Holds (x : Frame) : Item → Prop
  | .value v =>
    v = x.self ∨ v = .cls x.cls ∨ Store.Has x.locals v ∨ Store.Has x.constants v
      ∨ v ∈ x.role.arguments
  | .frame f => Store.Has x.role.registered f
  | .code _ => False

namespace State

/-- The items stored in a state. -/
inductive Holds (s : State) : Item → Prop where
  | cls {c : ClassId} {x : Class} {i : Item} (hx : s.classes[c]? = some x) (h : x.Holds i) :
    Holds s i
  | frame {f : FrameId} {x : Frame} {i : Item} (hx : s.frames[f]? = some x) (h : x.Holds i) :
    Holds s i
  | object {o : ObjectId} {x : Object} {i : Item} (hx : s.objects[o]? = some x) (h : x.Holds i) :
    Holds s i
  | global {v : Value} (h : Store.Has s.globals v) : Holds s (.value v)

/-- The items that evaluation can get out of a state. -/
def Known (s : State) (i : Item) : Prop := i.IsCore ∨ s.Holds i

variable {s : State} {i : Item} {v : Value}

theorem known_nil : s.Known (.value .nil) := .inl .nil

theorem known_getD_nil {o : Option Value} (h : ∀ v, o = some v → s.Known (.value v)) :
    s.Known (.value (o.getD .nil)) := by
  cases o with
  | none => exact known_nil
  | some v => exact h v rfl

/-! ## Places

A place that does not exist reads as a default, which holds core items only. -/

theorem known_of_classAt {c : ClassId} (h : (s.classAt c).Holds i) : s.Known i := by
  rw [classAt] at h
  cases hx : s.classes[c]? with
  | some x => rw [hx] at h; exact .inr (.cls hx h)
  | none =>
    rw [hx] at h
    cases i with
    | value v =>
      rcases h with h | h | h
      · change (none : Option Value) = some v at h
        exact absurd h.symm (Option.some_ne_none v)
      · exact absurd h Store.not_has_empty
      · exact absurd h Store.not_has_empty
    | frame f => obtain rfl := h; exact .inl .root
    | code n => obtain ⟨m, h | h, -⟩ := h <;> exact absurd h Store.not_has_empty

theorem known_of_frameAt {f : FrameId} (h : (s.frameAt f).Holds i) : s.Known i := by
  rw [frameAt] at h
  cases hx : s.frames[f]? with
  | some x => rw [hx] at h; exact .inr (.frame hx h)
  | none =>
    rw [hx] at h
    cases i with
    | value v =>
      rcases h with rfl | rfl | h | h | h
      · exact known_nil
      · exact .inl (.cls (Nat.zero_le _))
      · exact absurd h Store.not_has_empty
      · exact absurd h Store.not_has_empty
      · exact absurd h List.not_mem_nil
    | frame f => exact absurd h Store.not_has_empty
    | code n => exact h.elim

theorem known_of_objectAt {o : ObjectId} (h : (s.objectAt o).Holds i) : s.Known i := by
  rw [objectAt] at h
  cases hx : s.objects[o]? with
  | some x => rw [hx] at h; exact .inr (.object hx h)
  | none =>
    rw [hx] at h
    cases i with
    | value v =>
      rcases h with rfl | h
      · exact .inl (.cls (Nat.zero_le _))
      · exact absurd h Store.not_has_empty
    | frame f => exact h.elim
    | code n => exact h.elim

/-! ## Names -/

theorem known_objectIvar? {key : String} {w : Value} (h : s.objectIvar? v key = some w) :
    s.Known (.value w) := by
  cases v with
  | object o => exact known_of_objectAt (.inr ⟨key, h⟩)
  | nil | cls c => exact absurd h nofun

theorem known_ivar? {key : String} {w : Value} (h : s.ivar? v key = some w) :
    s.Known (.value w) := by
  cases v with
  | cls c => exact known_of_classAt (.inr (.inr ⟨key, h⟩))
  | nil => exact absurd h nofun
  | object o => exact known_objectIvar? (v := .object o) h

theorem known_lookupOwn {f : FrameId} {name : String} (h : s.lookupOwn f name = some v) :
    s.Known (.value v) := by
  unfold lookupOwn at h
  dsimp only at h
  split at h
  · exact known_of_frameAt (.inr (.inr (.inr (.inl ⟨name, h⟩))))
  · rw [local?, nearest?_eq] at h
    obtain ⟨g, -, hg⟩ := List.exists_of_findSome?_eq_some h
    exact known_of_frameAt (.inr (.inr (.inl ⟨name, hg⟩)))
  · exact .inr (.global ⟨_, h⟩)
  · exact known_of_classAt (.inr (.inl ⟨_, h⟩))
  · exact known_ivar? h
  · exact absurd h nofun

theorem known_lookup {f : FrameId} {name : String} (h : s.lookup f name = some v) :
    s.Known (.value v) := by
  rw [lookup] at h
  split at h
  · rw [seek?_eq] at h
    obtain ⟨g, -, hg⟩ := List.exists_of_findSome?_eq_some h
    exact known_lookupOwn hg
  · exact known_lookupOwn h

theorem known_get (s : State) (f : FrameId) (name : String) : s.Known (.value (s.get f name)) :=
  known_getD_nil fun _ => known_lookup

theorem known_ownConstant? {f : FrameId} {name : String} (h : s.ownConstant? f name = some v) :
    s.Known (.value v) :=
  known_of_frameAt (f := f) (.inr (.inr (.inr (.inl ⟨name, h⟩))))

theorem known_self (s : State) (f : FrameId) : s.Known (.value (s.frameAt f).self) :=
  known_of_frameAt (f := f) (.inl rfl)

theorem known_frame_cls (s : State) (f : FrameId) : s.Known (.value (.cls (s.frameAt f).cls)) :=
  known_of_frameAt (f := f) (.inr (.inl rfl))

/-! ## Classes and methods -/

theorem known_classOf (s : State) (v : Value) : s.Known (.value (.cls (s.classOf v))) := by
  cases v with
  | object o => exact known_of_objectAt (o := o) (.inl rfl)
  | nil => exact .inl (.cls (c := Core.nil) (by decide))
  | cls => exact .inl (.cls (c := Core.cls) (by decide))

theorem known_class_frame (s : State) (c : ClassId) : s.Known (.frame (s.classAt c).frame) :=
  known_of_classAt (c := c) rfl

theorem known_class_parent {c p : ClassId} (h : (s.classAt c).parent = some p) :
    s.Known (.value (.cls p)) :=
  known_of_classAt (c := c) (.inl (by rw [h]; rfl))

/-- The proper ancestors of a class are known. -/
theorem known_of_mem_ancestors {c a : ClassId} (h : a ∈ s.ancestors c) :
    a = c ∨ s.Known (.value (.cls a)) := by
  induction c using Nat.strongRecOn with
  | _ c ih =>
    rw [ancestors] at h
    rcases List.mem_cons.1 h with h | h
    · exact .inl h
    cases hp : (s.classAt c).parent with
    | none => rw [hp] at h; exact absurd h List.not_mem_nil
    | some p =>
      simp only [hp] at h
      split at h
      · next hlt =>
        rcases ih p hlt h with rfl | h
        · exact .inr (known_class_parent hp)
        · exact .inr h
      · exact absurd h List.not_mem_nil

/-- A method found in one of the tables of the ancestors of a class. -/
theorem known_found {table : Class → Store Method}
    (ht : ∀ {x m}, Store.Has (table x) m → Store.Has x.methods m ∨ Store.Has x.classMethods m)
    {c a : ClassId} {name : String} {m : Method}
    (h : (s.ancestors c).findSome? (fun b => (table (s.classAt b))[name]?.map (b, ·))
      = some (a, m)) :
    (a = c ∨ s.Known (.value (.cls a))) ∧ ∀ n ∈ m.statements, s.Known (.code n) := by
  obtain ⟨b, hb, h⟩ := List.exists_of_findSome?_eq_some h
  obtain ⟨m', hm, he⟩ := Option.map_eq_some_iff.1 h
  obtain ⟨rfl, rfl⟩ := Prod.mk.inj he
  exact ⟨known_of_mem_ancestors hb, fun n hn => known_of_classAt ⟨m', ht ⟨name, hm⟩, hn⟩⟩

theorem known_findMethod? {c a : ClassId} {name : String} {m : Method}
    (h : s.findMethod? c name = some (a, m)) :
    (a = c ∨ s.Known (.value (.cls a))) ∧ ∀ n ∈ m.statements, s.Known (.code n) :=
  known_found .inl h

/-- **The method that a value answers with is known**, and so is its class, which may be the value
itself. -/
theorem known_methodOf? {a : ClassId} {name : String} {m : Method}
    (h : s.methodOf? v name = some (a, m)) :
    (.cls a = v ∨ s.Known (.value (.cls a))) ∧ ∀ n ∈ m.statements, s.Known (.code n) := by
  have ofInstances {w : Value} (h : s.findMethod? (s.classOf w) name = some (a, m)) :
      s.Known (.value (.cls a)) ∧ ∀ n ∈ m.statements, s.Known (.code n) := by
    obtain ⟨rfl | ha, hm⟩ := known_findMethod? h
    · exact ⟨known_classOf s w, hm⟩
    · exact ⟨ha, hm⟩
  cases v with
  | nil => exact (ofInstances h).imp_left .inr
  | object o => exact (ofInstances h).imp_left .inr
  | cls c =>
    rcases Option.or_eq_some_iff.1 h with h | ⟨-, h⟩
    · obtain ⟨rfl | ha, hm⟩ := known_found .inr h
      · exact ⟨.inl rfl, hm⟩
      · exact ⟨.inr ha, hm⟩
    · exact (ofInstances (w := .cls c) h).imp_left .inr

theorem known_closure? {c : Closure} (h : s.closure? v = some c) :
    s.Known (.frame c.captured) ∧ ∀ n ∈ c.body, s.Known (.code n) := by
  cases v with
  | nil | cls _ => exact absurd h nofun
  | object o =>
    have hp : (s.objectAt o).payload = .lambda c := by
      rw [closure?, payload] at h
      split at h
      · next hp => rw [hp, Option.some.inj h]
      · exact absurd h nofun
    refine ⟨known_of_objectAt (o := o) ?_, fun n hn => known_of_objectAt (o := o) ?_⟩
    · change (s.objectAt o).payload.Holds _
      rw [hp]; rfl
    · change (s.objectAt o).payload.Holds _
      rw [hp]; exact hn

/-! ## Namespaces -/

theorem known_registered? {f g : FrameId} {name : String} (h : s.registered? f name = some g) :
    s.Known (.frame g) :=
  known_of_frameAt (f := s.governing f) ⟨name, h⟩

/-! ## Running methods -/

/-- **What a running method was called with is known.** -/
theorem known_active? {f : FrameId} {a : Activation} (h : s.active? f = some a) :
    s.Known (.value a.receiver) ∧ s.Known (.value (.cls a.cls))
      ∧ ∀ v ∈ a.arguments, s.Known (.value v) := by
  obtain ⟨g, -, h⟩ := List.exists_of_findSome?_eq_some h
  unfold activation? at h
  dsimp only at h
  split at h
  · next name vs hr =>
    obtain rfl := Option.some.inj h
    refine ⟨known_self s g, known_frame_cls s g, fun v hv => known_of_frameAt (f := g) ?_⟩
    exact .inr (.inr (.inr (.inr (by rw [hr]; exact hv))))
  · exact absurd h nofun

theorem known_forwardedArguments {f : FrameId} {a : Activation} (ha : s.active? f = some a)
    {v : Value} (h : v ∈ Eval.forwardedArguments s a) : s.Known (.value v) := by
  rcases List.mem_append.1 h with h | h
  · obtain ⟨p, -, rfl⟩ := List.mem_map.1 h
    exact known_getD_nil fun _ => known_lookupOwn
  · exact (known_active? ha).2.2 v (List.mem_of_mem_drop h)

end State

end OpenScript
