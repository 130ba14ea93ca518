import OpenScript.Proofs.Activations
import OpenScript.Proofs.Answers
import OpenScript.Proofs.Lambdas
import OpenScript.Proofs.Privacy

/-!
# Proofs/Properties — accessors and `@` names are two views of one store

    r.p = v  ──writer──▸  ╭────────────────╮  ◂──set @p──  code that runs on r
    r.p      ◂──reader──  │ ivars of r: p  │  ──get @p──▸  code that runs on r
                          ╰────────────────╯

The reader and the writer of a property have its name as the key of an instance variable; code that
runs on a value has the `@` name, takes off the sigil and finds the owner through its frame.  Both
write the same place and both read it (`State.exists_propertyWritten`), whether the value is a plain
object, boxes a datum or is a class.
-/

namespace OpenScript

namespace Shape

variable {p : String}

/-- One `@` makes the name of an instance variable, unless there is another behind it. -/
theorem of_at (hp : p.toList.head? ≠ some '@') : Shape.of ("@" ++ p) = .instanceVar := by
  rw [Shape.of, String.toList_append]
  change ofChars ('@' :: p.toList) = _
  cases hc : p.toList with
  | nil => rfl
  | cons c cs =>
    rw [hc] at hp
    have other : c ≠ '@' := fun e => hp (congrArg some e)
    simp [ofChars, other]

theorem key_at (p : String) : Shape.key .instanceVar ("@" ++ p) = p := by
  change String.ofList (("@" ++ p).toList.drop 1) = p
  rw [String.toList_append]
  exact String.ofList_toList

end Shape

namespace State

variable {s s' : State} {r u v : Value} {p key : String} {f : FrameId}

/-! ## One instance variable -/

/-- Nothing but one instance variable of one value differs, which has the given value. -/
structure WritesIvar (s s' : State) (r : Value) (key : String) (v : Value) : Prop where
  written : s'.ivar? r key = some v
  others {u : Value} {k : String} (h : ¬(u = r ∧ k = key)) : s'.ivar? u k = s.ivar? u k
  object (o : ObjectId) : s'.objectAt o = { s.objectAt o with ivars := (s'.objectAt o).ivars }
  cls (c : ClassId) : s'.classAt c = { s.classAt c with ivars := (s'.classAt c).ivars }
  objectCount : s'.objects.size = s.objects.size
  classCount : s'.classes.size = s.classes.size
  stores : s' = { s with classes := s'.classes, objects := s'.objects }

theorem writesIvar_object {o : ObjectId} (ho : o < s.objects.size) (key : String) (v : Value) :
    s.WritesIvar (s.setIvar (.object o) key v) (.object o) key v := by
  have at_ (x : ObjectId) : (s.setIvar (.object o) key v).objectAt x
      = if o = x then { s.objectAt x with ivars := (s.objectAt x).ivars.insert key v }
        else s.objectAt x := s.objectAt_modifyObject ho _ x
  refine
    { written := ?_, others := fun {u k} h => ?_, object := fun x => ?_, cls := fun c => rfl
      objectCount := s.size_objects_setIvar _ _ key, classCount := rfl, stores := rfl }
  · change ((s.setIvar (.object o) key v).objectAt o).ivars[key]? = some v
    rw [at_, if_pos rfl]
    exact Std.TreeMap.getElem?_insert_self
  · cases u with
    | nil | cls => rfl
    | object x =>
      change ((s.setIvar (.object o) key v).objectAt x).ivars[k]? = (s.objectAt x).ivars[k]?
      rw [at_]
      split
      · next e => exact Store.getElem?_insert_of_ne fun hk => h ⟨e ▸ rfl, hk⟩
      · rfl
  · rw [at_]
    split <;> rfl

theorem writesIvar_cls {c : ClassId} (hc : c < s.classes.size) (key : String) (v : Value) :
    s.WritesIvar (s.setIvar (.cls c) key v) (.cls c) key v := by
  have at_ (x : ClassId) : (s.setIvar (.cls c) key v).classAt x
      = if c = x then { s.classAt x with ivars := (s.classAt x).ivars.insert key v }
        else s.classAt x := s.classAt_modifyClass hc _ x
  refine
    { written := ?_, others := fun {u k} h => ?_, object := fun o => rfl, cls := fun x => ?_
      objectCount := rfl, classCount := s.size_classes_setIvar _ _ key, stores := rfl }
  · change ((s.setIvar (.cls c) key v).classAt c).ivars[key]? = some v
    rw [at_, if_pos rfl]
    exact Std.TreeMap.getElem?_insert_self
  · cases u with
    | nil | object => rfl
    | cls x =>
      change ((s.setIvar (.cls c) key v).classAt x).ivars[k]? = (s.classAt x).ivars[k]?
      rw [at_]
      split
      · next e => exact Store.getElem?_insert_of_ne fun hk => h ⟨e ▸ rfl, hk⟩
      · rfl
  · rw [at_]
    split <;> rfl

/-- **A write to an instance variable changes nothing else.** -/
theorem writesIvar_setIvar (hr : (Item.value r).In s) (hn : r ≠ .nil) (key : String) (v : Value) :
    s.WritesIvar (s.setIvar r key v) r key v := by
  cases r with
  | nil => exact absurd rfl hn
  | object o => exact writesIvar_object hr key v
  | cls c => exact writesIvar_cls hr key v

theorem WritesIvar.methodOf? (h : s.WritesIvar s' r key v) (u : Value) (name : String) :
    s'.methodOf? u name = s.methodOf? u name := by
  have cls : s'.classOf u = s.classOf u := by
    cases u with
    | nil | cls => rfl
    | object o =>
      change (s'.objectAt o).cls = (s.objectAt o).cls
      rw [h.object o]
  exact methodOf?_congr (fun c => by rw [h.cls c]) (fun c => by rw [h.cls c])
    (fun c => by rw [h.cls c]) cls name

/-! ## The `@` view -/

/-- Code runs on a value where that is the self of a method or lambda. -/
structure RunsOn (s : State) (r : Value) (f : FrameId) : Prop where
  role : (s.frameAt f).role.IsActivation
  self : (s.frameAt f).self = r

namespace RunsOn

variable (h : s.RunsOn r f)
include h

theorem ivarOwner_eq : s.ivarOwner f = r := by
  have plain : s.isClassBody f = false := by
    have role := h.role
    rw [isClassBody]
    generalize (s.frameAt f).role = x at role
    cases x with
    | activation => rfl
    | _ => exact role.elim
  rw [s.ivarOwner_of_not_classBody plain, h.self]

theorem get_eq (hp : p.toList.head? ≠ some '@') :
    s.get f ("@" ++ p) = (s.ivar? r p).getD .nil := by
  have own : ¬Shape.delegates .instanceVar = true := Bool.false_ne_true
  rw [get, lookup, Shape.of_at hp, if_neg own, lookupOwn, Shape.of_at hp]
  dsimp only
  rw [Shape.key_at, h.ivarOwner_eq]

theorem set_eq (hp : p.toList.head? ≠ some '@') (v : Value) :
    s.set f ("@" ++ p) v = s.setIvar r p v := by
  rw [set, Shape.of_at hp]
  dsimp only
  rw [Shape.key_at, h.ivarOwner_eq]

/-- Reading an `@` name is looking it up. -/
theorem ends_getInstanceVar_iff (hp : p.toList.head? ≠ some '@') {out : Outcome Flow} :
    (Eval.node (.getInstanceVar ("@" ++ p)) f).Ends s out s' ↔
      out = .ok (.normal ((s.ivar? r p).getD .nil)) ∧ s' = s := by
  rw [Eval.node, Eval.ends_ask_iff_perform, ← h.get_eq hp]
  exact Eval.ends_of_done rfl

/-- Assigning to an `@` name ends with what was assigned, once that is there. -/
theorem ends_setInstanceVar_iff (hp : p.toList.head? ≠ some '@') {n : Node} {s₀ : State}
    (hn : (Eval.value n f).Ends s₀ (.ok v) s) {out : Outcome Flow} :
    (Eval.node (.setInstanceVar ("@" ++ p) n) f).Ends s₀ out s' ↔
      out = .ok (.normal v) ∧ s' = s.setIvar r p v := by
  have stored {w : Value} {out : Outcome Value} {s₁ s₂ : State} :
      (do Eval.modify (·.set f ("@" ++ p) w); return w : Eval Value).Ends s₁ out s₂ ↔
        out = .ok w ∧ s₂ = s₁.set f ("@" ++ p) w := Eval.ends_of_done rfl
  have assigned {out : Outcome Value} {s₂ : State} :
      (Eval.assign f ("@" ++ p) n).Ends s₀ out s₂ ↔ out = .ok v ∧ s₂ = s.setIvar r p v := by
    rw [Eval.assign, Eval.ends_bind_iff, ← h.set_eq hp]
    constructor
    · rintro (⟨w, s₁, hw, hs⟩ | ⟨e, he, -⟩)
      · obtain ⟨e, rfl⟩ := hn.unique hw
        obtain rfl := Except.ok.inj e
        exact stored.1 hs
      · exact nomatch (hn.unique he).1
    · exact fun hs => .inl ⟨v, s, hn, stored.2 hs⟩
  rw [Eval.node, Eval.ends_ask_iff_perform]
  refine Eval.ends_map_iff.trans ⟨?_, ?_⟩
  · rintro ⟨out, he, rfl⟩
    obtain ⟨rfl, rfl⟩ := assigned.1 he
    exact ⟨rfl, rfl⟩
  · rintro ⟨rfl, rfl⟩
    exact ⟨_, assigned.2 ⟨rfl, rfl⟩, rfl⟩

end RunsOn

/-- A method that is entered runs on its receiver. -/
theorem runsOn_entered (s : State) (r : Value) (o : ClassId) (m : Method) (vs : List Value) :
    (s.entered r o m vs).2.RunsOn r (s.entered r o m vs).1 := by
  have place : (s.entered r o m vs).2.frameAt (s.entered r o m vs).1
      = (({ s with depth := s.depth + 1 } : State).receiverFrame r o).activation
          s.frames.size m.name m.params vs none := by
    rw [entered, enter_eq]
    exact frameAt_addFrame_size _ _
  exact ⟨by rw [place]; trivial, by rw [place]; rfl⟩

theorem ivar?_entered (s : State) (r : Value) (o : ClassId) (m : Method) (vs : List Value) :
    (s.entered r o m vs).2.ivar? u key = s.ivar? u key := by
  rw [entered, enter_eq]
  cases u <;> rfl

/-! ## The two views -/

/-- A value answers the name of a property and the name with `=` with the property's reader and
writer. -/
structure HasProperty (s : State) (r : Value) (p : String) : Prop where
  reader : s.nativeOf? r p = some (.reader p)
  writer : s.nativeOf? r (p ++ "=") = some (.writer p)

/-- A property of a value was written: nothing but an instance variable changed, to get there is to
call the writer or to assign to the `@` name, and the reader and the `@` name give what was
written. -/
structure PropertyWritten (s s₁ : State) (r : Value) (p : String) (v : Value) : Prop where
  writes : s.WritesIvar s₁ r p v
  writer {caller : FrameId} {out : Outcome Value} {s' : State} :
    (Eval.send r (p ++ "=") [v] caller).Ends s out s' ↔ out = .ok v ∧ s' = s₁
  /-- The assignment in code that runs on the value; `s` is the state when `v` has been found. -/
  assigned {f : FrameId} (runs : s.RunsOn r f) {n : Node} {s₀ : State}
    (hn : (Eval.value n f).Ends s₀ (.ok v) s) {out : Outcome Flow} {s' : State} :
    (Eval.node (.setInstanceVar ("@" ++ p) n) f).Ends s₀ out s' ↔
      out = .ok (.normal v) ∧ s' = s₁
  reader {caller : FrameId} {out : Outcome Value} {s' : State} :
    (Eval.send r p [] caller).Ends s₁ out s' ↔ out = .ok v ∧ s' = s₁
  /-- The `@` name in code that already runs on the value. -/
  running {f : FrameId} (runs : s₁.RunsOn r f) {out : Outcome Flow} {s' : State} :
    (Eval.node (.getInstanceVar ("@" ++ p)) f).Ends s₁ out s' ↔ out = .ok (.normal v) ∧ s' = s₁
  /-- The `@` name in a method that is then called on the value. -/
  entered (o : ClassId) (m : Method) (vs : List Value) {out : Outcome Flow} {s' : State} :
    (Eval.node (.getInstanceVar ("@" ++ p)) (s₁.entered r o m vs).1).Ends
      (s₁.entered r o m vs).2 out s' ↔ out = .ok (.normal v) ∧ s' = (s₁.entered r o m vs).2

/-- **Accessors and `@` names are two views of one store.**  In every state, for a value other than
`nil` that has a property, both ways to write it lead to one and the same state, in which both ways
to read it give what was written. -/
theorem exists_propertyWritten (hr : (Item.value r).In s) (hn : r ≠ .nil)
    (hp : p.toList.head? ≠ some '@') (h : s.HasProperty r p) (hd : s.depth < s.limit) (v : Value) :
    ∃ s₁, s.PropertyWritten s₁ r p v := by
  have writes := writesIvar_setIvar hr hn p v
  generalize hs : s.setIvar r p v = s₁ at writes
  have left : s₁.depth < s₁.limit := by
    rw [writes.stores]
    exact hd
  have found : s₁.nativeOf? r p = some (.reader p) := by
    rw [nativeOf?, writes.methodOf?]
    exact h.reader
  refine ⟨s₁, writes, ?writer, ?assigned, ?reader, ?running, ?entered⟩
  case writer =>
    intro caller out s'
    have run : (Native.writer p).run r [v] caller { s with depth := s.depth + 1 }
        = .done (.ok v) (State.setIvar { s with depth := s.depth + 1 } r p v) := rfl
    rw [Eval.ends_send_of_done h.writer hd run, ← hs]
    cases r <;> rfl
  case assigned =>
    intro f runs n s₀ hn out s'
    rw [runs.ends_setInstanceVar_iff hp hn, hs]
  case reader =>
    intro caller out s'
    have run : (Native.reader p).run r [] caller { s₁ with depth := s₁.depth + 1 }
        = .done (.ok ((s₁.ivar? r p).getD .nil)) { s₁ with depth := s₁.depth + 1 } := by
      cases r <;> rfl
    rw [Eval.ends_send_of_done found left run, writes.written]
    rfl
  case running =>
    intro f runs out s'
    rw [runs.ends_getInstanceVar_iff hp, writes.written, Option.getD_some]
  case entered =>
    intro o m vs out s'
    rw [(runsOn_entered _ r o m vs).ends_getInstanceVar_iff hp, ivar?_entered, writes.written,
      Option.getD_some]

/-- A class with a property, an instance of it and a run of one of its methods. -/
def owning : Program :=
  [.defineClass "Box" none [.property ["x"], .defineMethod "open" [] []],
    .setGlobal "$box" (.call (some (.getConstant "Box")) "new" []),
    .call (some (.getGlobal "$box")) "open" []]

/-- Object 3 has a property, and frame 12 runs on it. -/
theorem exists_propertyWritten_owning : ∃ s : State, s.Reachable ∧
    (Item.value (.object 3)).In s ∧ Value.object 3 ≠ .nil ∧ "x".toList.head? ≠ some '@' ∧
    s.HasProperty (.object 3) "x" ∧ s.depth < s.limit ∧ s.RunsOn (.object 3) 12 ∧
    ∃ s₁, s.PropertyWritten s₁ (.object 3) "x" (Core.bool true) := by
  obtain ⟨s, reachable, ht⟩ := exists_reachable_of_run 5 100 owning
    (fun s => decide (3 < s.objects.size ∧ s.nativeOf? (.object 3) "x" = some (.reader "x") ∧
      s.nativeOf? (.object 3) "x=" = some (.writer "x") ∧ s.depth < s.limit ∧
      (s.frameAt 12).role.IsActivation ∧ (s.frameAt 12).self = .object 3)) (by decide +kernel)
  obtain ⟨ho, reader, writer, hd, role, self⟩ := of_decide_eq_true ht
  have there : (Item.value (.object 3)).In s := ho
  have plain : Value.object 3 ≠ .nil := nofun
  have shaped : "x".toList.head? ≠ some '@' := by decide
  have property : s.HasProperty (.object 3) "x" := ⟨reader, writer⟩
  exact ⟨s, reachable, there, plain, shaped, property, hd, ⟨role, self⟩,
    exists_propertyWritten there plain shaped property hd (Core.bool true)⟩

end State

end OpenScript
