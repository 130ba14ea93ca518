import OpenScript.State

/-!
# State/Lemmas — what is where after an update

One equation per arena and operation: an update changes the place it names and no other, and what is
added stands at the old size, which leaves everything before it in place.  A handle keeps its name
and equal names share their handle.
-/

namespace OpenScript

/-! ## Symbols -/

namespace SymbolTable

variable (table : SymbolTable) (name : String)

theorem intern_of_some {i : SymbolId} (h : table.ids[name]? = some i) :
    table.intern name = (i, table) := by
  unfold intern
  split
  case h_1 j hj => rw [Option.some.inj (hj.symm.trans h)]
  case h_2 hn => cases hn.symm.trans h

theorem names_intern_of_none (h : table.ids[name]? = none) :
    (table.intern name).1 = table.names.size ∧
      (table.intern name).2.names = table.names.push name := by
  unfold intern
  split
  case h_1 i hi => cases hi.symm.trans h
  case h_2 => exact ⟨rfl, rfl⟩

/-- **The handle of a name is a place that holds it.** -/
theorem getElem?_intern : (table.intern name).2.names[(table.intern name).1]? = some name := by
  cases h : table.ids[name]? with
  | some i =>
    rw [intern_of_some table name h]
    exact (table.inverse name i).1 h
  | none =>
    obtain ⟨handle, names⟩ := names_intern_of_none table name h
    rw [handle, names, Array.getElem?_push_size]

/-- **The handle of a name stands for that name.** -/
theorem resolve_intern : (table.intern name).2.resolve (table.intern name).1 = name := by
  rw [resolve, getElem?_intern, Option.getD_some]

/-- Names stay at their places. -/
theorem getElem?_intern_of_lt {i : SymbolId} (h : i < table.size) :
    (table.intern name).2.names[i]? = table.names[i]? := by
  cases hn : table.ids[name]? with
  | some j => rw [intern_of_some table name hn]
  | none =>
    rw [(names_intern_of_none table name hn).2, Array.getElem?_push_lt h,
      Array.getElem?_eq_getElem h]

/-- **A handle keeps its name.** -/
theorem resolve_intern_of_lt {i : SymbolId} (h : i < table.size) :
    (table.intern name).2.resolve i = table.resolve i := by
  rw [resolve, resolve, getElem?_intern_of_lt table name h]

/-- A handle is below the size of its table. -/
theorem intern_lt_size : (table.intern name).1 < (table.intern name).2.size :=
  (Array.getElem?_eq_some_iff.1 (getElem?_intern table name)).1

theorem size_le_size_intern : table.size ≤ (table.intern name).2.size := by
  cases h : table.ids[name]? with
  | some i => exact (intern_of_some table name h).symm ▸ Nat.le_refl table.size
  | none =>
    rw [size, size, (names_intern_of_none table name h).2, Array.size_push]
    exact Nat.le_succ _

end SymbolTable

/-! ## Arenas -/

/-- What an update of one place keeps is the same in all places. -/
theorem getD_modify_of_keeps {α β : Type} [Inhabited α] {xs : Array α} {i j : Nat}
    {update : α → α} {g : α → β} (h : i = j → ∀ x, g (update x) = g x) :
    g ((xs.modify i update)[j]?.getD default) = g (xs[j]?.getD default) := by
  rw [Array.getElem?_modify]
  split
  · next e =>
    cases xs[j]? with
    | none => rfl
    | some x => exact h e x
  · rfl

namespace State

variable (s : State)

/-! ## Classes -/

theorem classAt_modifyClass_of_keeps {α : Type} {g : Class → α} {c d : ClassId}
    {update : Class → Class} (h : c = d → ∀ x, g (update x) = g x) :
    g ((s.modifyClass c update).classAt d) = g (s.classAt d) :=
  getD_modify_of_keeps h

theorem classAt_modifyClass {c : ClassId} (h : c < s.classes.size) (update : Class → Class)
    (d : ClassId) :
    (s.modifyClass c update).classAt d = if c = d then update (s.classAt d) else s.classAt d := by
  simp only [modifyClass, classAt, Array.getElem?_modify]
  split
  case isTrue e => subst e; rw [Array.getElem?_eq_getElem h]; rfl
  case isFalse => rfl

theorem classAt_addClass_size (x : Class) : (s.addClass x).2.classAt s.classes.size = x := by
  simp only [addClass, classAt, Array.getElem?_push_size, Option.getD_some]

theorem classAt_addClass_of_lt {c : ClassId} (h : c < s.classes.size) (x : Class) :
    (s.addClass x).2.classAt c = s.classAt c := by
  rw [classAt, classAt, addClass, Array.getElem?_push_lt h, Array.getElem?_eq_getElem h]

/-! ## Frames -/

theorem frameAt_modifyFrame_of_keeps {α : Type} {g : Frame → α} {f k : FrameId}
    {update : Frame → Frame} (h : f = k → ∀ x, g (update x) = g x) :
    g ((s.modifyFrame f update).frameAt k) = g (s.frameAt k) :=
  getD_modify_of_keeps h

theorem frameAt_modifyFrame {f : FrameId} (h : f < s.frames.size) (update : Frame → Frame)
    (g : FrameId) :
    (s.modifyFrame f update).frameAt g = if f = g then update (s.frameAt g) else s.frameAt g := by
  simp only [modifyFrame, frameAt, Array.getElem?_modify]
  split
  case isTrue e => subst e; rw [Array.getElem?_eq_getElem h]; rfl
  case isFalse => rfl

theorem frameAt_addFrame_size (x : Frame) : (s.addFrame x).2.frameAt s.frames.size = x := by
  simp only [addFrame, frameAt, Array.getElem?_push_size, Option.getD_some]

theorem frameAt_addFrame_of_lt {f : FrameId} (h : f < s.frames.size) (x : Frame) :
    (s.addFrame x).2.frameAt f = s.frameAt f := by
  rw [frameAt, frameAt, addFrame, Array.getElem?_push_lt h, Array.getElem?_eq_getElem h]

/-! ## Objects -/

theorem objectAt_modifyObject_of_keeps {α : Type} {g : Object → α} {o p : ObjectId}
    {update : Object → Object} (h : o = p → ∀ x, g (update x) = g x) :
    g ((s.modifyObject o update).objectAt p) = g (s.objectAt p) :=
  getD_modify_of_keeps h

theorem objectAt_modifyObject {o : ObjectId} (h : o < s.objects.size) (update : Object → Object)
    (p : ObjectId) :
    (s.modifyObject o update).objectAt p
      = if o = p then update (s.objectAt p) else s.objectAt p := by
  simp only [modifyObject, objectAt, Array.getElem?_modify]
  split
  case isTrue e => subst e; rw [Array.getElem?_eq_getElem h]; rfl
  case isFalse => rfl

theorem objectAt_addObject_size (x : Object) :
    (s.addObject x).2.objectAt s.objects.size = x := by
  simp only [addObject, objectAt, Array.getElem?_push_size, Option.getD_some]

theorem objectAt_addObject_of_lt {o : ObjectId} (h : o < s.objects.size) (x : Object) :
    (s.addObject x).2.objectAt o = s.objectAt o := by
  rw [objectAt, objectAt, addObject, Array.getElem?_push_lt h, Array.getElem?_eq_getElem h]

theorem payload_box (c : ClassId) (p : Payload) : (s.box c p).2.payload (s.box c p).1 = p :=
  congrArg Object.payload (s.objectAt_addObject_size { cls := c, payload := p })

/-- A fresh string has its text. -/
theorem text?_box (c : ClassId) (text : String) :
    (s.box c (.text text)).2.text? (s.box c (.text text)).1 = some text := by
  rw [text?, payload_box]

end State

end OpenScript
