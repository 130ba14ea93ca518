import OpenScript.Proofs.Alike
import OpenScript.Proofs.Change
import OpenScript.Proofs.Fresh

/-!
# Proofs/Initial — what a fresh interpreter holds

The items of a state can be listed (`State.items`), so what holds of all that a fresh interpreter
holds can be checked by going through them.
-/

namespace OpenScript

/-! ## Items -/

/-- The values of a table, in the order of its keys. -/
def Store.values (t : Store α) : List α := t.toList.map (·.2)

theorem Store.mem_values {t : Store α} {a : α} (h : Store.Has t a) : a ∈ Store.values t := by
  obtain ⟨k, hk⟩ := h
  exact List.mem_map.2 ⟨(k, a), Std.TreeMap.mem_toList_iff_getElem?_eq_some.2 hk, rfl⟩

/-- The items in a class. -/
def Class.items (x : Class) : List Item :=
  .frame x.frame ::
    ((x.parent.map Value.cls).toList ++ Store.values x.classVars ++ Store.values x.ivars).map .value
    ++ (Store.values x.methods ++ Store.values x.classMethods).flatMap fun m =>
      m.statements.map .code

/-- The items in a frame. -/
def Frame.items (x : Frame) : List Item :=
  (x.self :: .cls x.cls :: Store.values x.locals ++ Store.values x.constants
    ++ x.role.arguments).map .value ++ (Store.values x.role.registered).map .frame

/-- The items in an object. -/
def Object.items (x : Object) : List Item :=
  (.cls x.cls :: Store.values x.ivars).map .value ++
    match x.payload with
    | .lambda c => .frame c.captured :: c.body.map .code
    | _ => []

theorem Class.mem_items {x : Class} {i : Item} (h : x.Holds i) : i ∈ x.items := by
  cases i with
  | frame f => exact List.mem_append_left _ (h ▸ List.mem_cons_self)
  | value v =>
    refine List.mem_append_left _ (List.mem_cons_of_mem _ (List.mem_map.2 ⟨v, ?_, rfl⟩))
    rcases h with h | h | h
    · exact List.mem_append_left _ (List.mem_append_left _ (Option.mem_toList.2 h))
    · exact List.mem_append_left _ (List.mem_append_right _ (Store.mem_values h))
    · exact List.mem_append_right _ (Store.mem_values h)
  | code n =>
    obtain ⟨m, hm, hn⟩ := h
    refine List.mem_append_right _ (List.mem_flatMap.2 ⟨m, ?_, List.mem_map.2 ⟨n, hn, rfl⟩⟩)
    exact List.mem_append.2 (hm.imp Store.mem_values Store.mem_values)

theorem Frame.mem_items {x : Frame} {i : Item} (h : x.Holds i) : i ∈ x.items := by
  cases i with
  | frame f => exact List.mem_append_right _ (List.mem_map.2 ⟨f, Store.mem_values h, rfl⟩)
  | value v =>
    refine List.mem_append_left _ (List.mem_map.2 ⟨v, ?_, rfl⟩)
    rcases h with rfl | rfl | h | h | h
    · simp
    · simp
    · simp [Store.mem_values h]
    · simp [Store.mem_values h]
    · simp [h]
  | code n => exact h.elim

theorem Object.mem_items {x : Object} {i : Item} (h : x.Holds i) : i ∈ x.items := by
  have ofPayload {i : Item} (h : x.payload.Holds i) : i ∈ x.items := by
    refine List.mem_append_right _ ?_
    cases hp : x.payload with
    | lambda c =>
      rw [hp] at h
      cases i with
      | value v => exact h.elim
      | frame f => exact h ▸ List.mem_cons_self
      | code n => exact List.mem_cons_of_mem _ (List.mem_map.2 ⟨n, h, rfl⟩)
    | _ => rw [hp] at h; exact h.elim
  cases i with
  | frame f => exact ofPayload h
  | code n => exact ofPayload h
  | value v =>
    refine List.mem_append_left _ (List.mem_map.2 ⟨v, ?_, rfl⟩)
    rcases h with rfl | h
    · exact List.mem_cons_self
    · exact List.mem_cons_of_mem _ (Store.mem_values h)

namespace State

/-- The items in a state. -/
def items (s : State) : List Item :=
  s.classes.toList.flatMap Class.items ++ s.frames.toList.flatMap Frame.items
    ++ s.objects.toList.flatMap Object.items ++ (Store.values s.globals).map .value

/-- **All that a state holds is listed.** -/
theorem mem_items {s : State} {i : Item} (h : s.Holds i) : i ∈ s.items := by
  have there {α : Type} {xs : Array α} {k : Nat} {x : α} (hx : xs[k]? = some x) : x ∈ xs.toList :=
    Array.mem_toList_iff.2 (Array.mem_of_getElem? hx)
  unfold items
  simp only [List.mem_append, List.mem_flatMap]
  cases h with
  | cls hx h => exact .inl (.inl (.inl ⟨_, there hx, Class.mem_items h⟩))
  | frame hx h => exact .inl (.inl (.inr ⟨_, there hx, Frame.mem_items h⟩))
  | object hx h => exact .inl (.inr ⟨_, there hx, Object.mem_items h⟩)
  | global h => exact .inr (List.mem_map.2 ⟨_, Store.mem_values h, rfl⟩)

/-! ## The limit -/

theorem addCoreClasses_withLimit (s : State) (m : Nat) :
    (s.withLimit m).addCoreClasses = s.addCoreClasses.withLimit m := by
  rw [addCoreClasses, addCoreClasses]
  exact List.foldl_hom (fun s : State => s.withLimit m) fun _ _ => rfl

/-- Fresh interpreters differ in their limits only. -/
theorem initial_eq (limit : Nat) : State.initial limit = (State.initial 0).withLimit limit := by
  have core := addCoreClasses_withLimit (rootOnly 0) limit
  change (rootOnly limit).addCoreClasses = _ at core
  unfold initial
  rw [core]
  generalize (rootOnly 0).addCoreClasses = s
  rfl

theorem root_lt_size_initial (limit : Nat) : Core.root < (State.initial limit).frames.size := by
  rw [size_frames_initial]
  decide

/-! ## What is held -/

/-- Whether a frame is a class body. -/
def isClassBody (s : State) (f : FrameId) : Bool :=
  match (s.frameAt f).role with
  | .classBody => true
  | _ => false

/-- What a fresh interpreter may hold: nothing but core classes and objects, and class bodies. -/
def allowsInitially (s : State) : Item → Bool
  | .value .nil => true
  | .value (.object o) => o < s.objects.size
  | .value (.cls c) => c < s.classes.size
  | .frame f => f < s.frames.size && s.isClassBody f
  | .code _ => false

/-- **A fresh interpreter holds core classes and objects and class bodies only.** -/
theorem allowsInitially_of_holds {limit : Nat} {i : Item} (h : (State.initial limit).Holds i) :
    (State.initial limit).allowsInitially i = true := by
  rw [initial_eq] at h ⊢
  have held : (State.initial 0).Holds i := h.of_eq rfl rfl rfl rfl
  have all : (State.initial 0).items.all (State.initial 0).allowsInitially = true := by
    decide +kernel
  exact List.all_eq_true.1 all i (mem_items held)

/-- No code is stored in a fresh interpreter. -/
theorem not_holds_code_initial {limit : Nat} {n : Node} :
    ¬ (State.initial limit).Holds (.code n) := fun h => nomatch allowsInitially_of_holds h

/-- No namespace is registered and no frame captured in a fresh interpreter. -/
theorem free_initial {limit : Nat} {f : FrameId} {x : Frame}
    (h : (State.initial limit).frames[f]? = some x) :
    Store.values x.role.registered = [] ∧ x.role.captured? = none := by
  have here : (State.initial limit).frameAt f = x := by rw [frameAt, h, Option.getD_some]
  have there : f < 10 := size_frames_initial limit ▸ (Array.getElem?_eq_some_iff.1 h).1
  obtain rfl | ⟨c, hc, rfl⟩ := eq_root_or_body there
  · rw [← here, (frameAt_initial_root limit).2]
    exact ⟨rfl, rfl⟩
  · rw [← here, frameAt_initial limit hc]
    exact ⟨rfl, rfl⟩

end State

end OpenScript
