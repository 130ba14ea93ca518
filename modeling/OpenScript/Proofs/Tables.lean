import OpenScript.Proofs.Tree

/-!
# Proofs/Tables — what the tables of methods hold

    class ──methods──▸ name ↦ a method of that name        class ──its own side──▸ built-in methods

Methods stand under their own names, and the methods of a class itself are never written in the
language (`State.TablesFit`).  So a method written in the language that a value answers with stands
in the table of an ancestor of the value's class, the nearest that defines its name
(`State.TablesFit.findMethod?_of_methodOf?`, `State.findMethod?_eq_some_iff`).
-/

namespace OpenScript

/-- Methods stand under their names, and those of the class itself are built in. -/
structure Class.TablesFit (x : Class) : Prop where
  named {name : String} {m : Method} (h : x.methods[name]? = some m) : m.name = name
  builtIn {name : String} {m : Method} (h : x.classMethods[name]? = some m) :
    ∃ n, m.body = .native n

namespace Class.TablesFit

variable {x y : Class}

theorem of_eq (h : x.TablesFit) (hm : y.methods = x.methods)
    (hc : y.classMethods = x.classMethods) : y.TablesFit :=
  ⟨fun hf => h.named (hm ▸ hf), fun hf => h.builtIn (hc ▸ hf)⟩

theorem empty {name : String} {parent : Option ClassId} {frame : FrameId} :
    ({ name, parent, frame } : Class).TablesFit := by
  constructor <;> intro name m h <;> rw [Std.TreeMap.getElem?_emptyc] at h <;> exact absurd h nofun

theorem insertMethod (h : x.TablesFit) (m : Method) :
    { x with methods := x.methods.insert m.name m }.TablesFit := by
  refine ⟨fun {name m'} hf => ?_, fun hf => h.builtIn hf⟩
  rw [Std.TreeMap.getElem?_insert] at hf
  split at hf
  · next e => exact Option.some.inj hf ▸ Std.LawfulEqCmp.eq_of_compare e
  · exact h.named hf

theorem insertClassMethod (h : x.TablesFit) {m : Method} {n : Native} (hm : m.body = .native n) :
    { x with classMethods := x.classMethods.insert m.name m }.TablesFit := by
  refine ⟨fun hf => h.named hf, fun {name m'} hf => ?_⟩
  rw [Std.TreeMap.getElem?_insert] at hf
  split at hf
  · exact Option.some.inj hf ▸ ⟨n, hm⟩
  · exact h.builtIn hf

end Class.TablesFit

namespace State

variable {s s' : State} {c : ClassId} {name : String}

/-- The tables of all classes are in order. -/
def TablesFit (s : State) : Prop := ∀ c, (s.classAt c).TablesFit

/-! ## Steps -/

namespace TablesFit

variable (h : s.TablesFit)
include h

theorem modifyClass {update : Class → Class} (hu : ∀ x, x.TablesFit → (update x).TablesFit) :
    (s.modifyClass c update).TablesFit := by
  intro d
  have old := h d
  simp only [classAt, State.modifyClass, Array.getElem?_modify] at old ⊢
  split
  · cases hx : s.classes[d]? with
    | none => exact .empty
    | some x =>
      rw [hx] at old
      exact hu x old
  · exact old

theorem addClass {x : Class} (hx : x.TablesFit) : (s.addClass x).2.TablesFit := by
  intro d
  have old := h d
  simp only [classAt, State.addClass, Array.getElem?_push] at old ⊢
  split
  · exact hx
  · exact old

theorem defineMethod (m : Method) : (s.defineMethod c m).TablesFit :=
  h.modifyClass fun _ hx => hx.insertMethod m

theorem setIvar (v w : Value) (key : String) : (s.setIvar v key w).TablesFit := by
  cases v with
  | nil | object o => exact h
  | cls c => exact h.modifyClass fun _ hx => hx.of_eq rfl rfl

theorem set (f : FrameId) (name : String) (v : Value) : (s.set f name v).TablesFit := by
  unfold State.set
  dsimp only
  split
  · exact h
  · exact h
  · exact h
  · exact h.modifyClass fun _ hx => hx.of_eq rfl rfl
  · exact h.setIvar _ v _
  · exact h

theorem defineConstant (f : FrameId) (name : String) (v : Value) :
    (s.defineConstant f name v).2.TablesFit := by
  unfold State.defineConstant
  split <;> exact h

theorem createClass (f : FrameId) (name : String) (p : ClassId) :
    (Eval.createClass s f name p).2.TablesFit := by
  have body : (s.newClassBody f s.classes.size).2.TablesFit := h
  exact (body.addClass .empty).set f name _

/-- A change leaves tables in order. -/
theorem change {has : Item → Prop} (hc : s.Change has s') : s'.TablesFit := by
  cases hc with
  | setIvar key hv hw => exact h.setIvar _ _ key
  | set hn hcode hf hv => exact h.set _ _ _
  | defineConstant hcode hf hv => exact h.defineConstant _ _ _
  | addProperty hd hn hcls => exact (h.defineMethod _).defineMethod _
  | defineMethod hd hcls => exact h.defineMethod _
  | createClass hd hf hp hn => exact h.createClass _ _ _
  | enter ho hr hv => rw [enter_eq]; exact h
  | enterClosure hk hv => rw [enterClosure_eq]; exact h
  | box | instantiate | intern | print | createSpace => exact h

/-- **No step puts tables out of order.** -/
theorem next (hn : s.Next s') : s'.TablesFit := by
  cases hn with
  | change hc => exact h.change hc
  | depth | drain => exact h
  | probe c ofClass name p =>
    cases ofClass with
    | false => exact h.defineMethod _
    | true => exact h.modifyClass fun _ hx => hx.insertClassMethod rfl

theorem later (hs : s.WellFormed) (hl : s.Later s') : s'.TablesFit :=
  hl.keeps hs h fun _ ht hn => ht.next hn

end TablesFit

theorem tablesFit_initial (limit : Nat) : (State.initial limit).TablesFit := by
  refine fun c => ⟨fun {name m} hm => ?_, fun {name m} hm => ?_⟩
  · rw [getElem?_methods_initial] at hm
    obtain ⟨b, -, rfl⟩ := Option.map_eq_some_iff.1 hm
    rfl
  · rw [getElem?_classMethods_initial] at hm
    obtain ⟨b, -, rfl⟩ := Option.map_eq_some_iff.1 hm
    exact ⟨.builtin b, rfl⟩

/-- **Interpreters get to tables in order only.** -/
theorem Reachable.tablesFit (h : s.Reachable) : s.TablesFit :=
  h.keeps tablesFit_initial fun _ ht hn => ht.next hn

/-! ## Finding methods -/

/-- Whether a class has a method of that name in its own table. -/
def defines (s : State) (name : String) (c : ClassId) : Bool :=
  (s.classAt c).methods[name]?.isSome

theorem defines_eq_false : s.defines name c = false ↔ (s.classAt c).methods[name]? = none := by
  rw [defines, Option.isSome_eq_false_iff, Option.isNone_iff_eq_none]

/-- **A method is found in the nearest ancestor that defines its name.** -/
theorem findMethod?_eq_some_iff {o : ClassId} {m : Method} :
    s.findMethod? c name = some (o, m) ↔
      (s.classAt o).methods[name]? = some m ∧ ∃ before after,
        s.ancestors c = before ++ o :: after ∧ ∀ b ∈ before, s.defines name b = false := by
  simp only [findMethod?, List.findSome?_eq_some_iff, Option.map_eq_some_iff, Prod.mk.injEq,
    Option.map_eq_none_iff, defines_eq_false]
  constructor
  · rintro ⟨before, a, after, way, ⟨m', hm, rfl, rfl⟩, none⟩
    exact ⟨hm, before, after, way, none⟩
  · rintro ⟨hm, before, after, way, none⟩
    exact ⟨before, o, after, way, ⟨m, hm, rfl, rfl⟩, none⟩

theorem findMethod?_eq_none_iff :
    s.findMethod? c name = none ↔ ∀ a ∈ s.ancestors c, s.defines name a = false := by
  simp only [findMethod?, List.findSome?_eq_none_iff, Option.map_eq_none_iff, defines_eq_false]

/-- What defines a method is there. -/
theorem lt_size_of_method {o : ClassId} {m : Method} (h : (s.classAt o).methods[name]? = some m) :
    o < s.classes.size := by
  refine Nat.lt_of_not_le fun past => ?_
  rw [classAt, Array.getElem?_eq_none past] at h
  cases Std.TreeMap.getElem?_emptyc.symm.trans h

/-- A value answers with a method of its class, or else with a built-in method of its own side. -/
theorem TablesFit.findMethod?_of_methodOf? (h : s.TablesFit) {v : Value} {o : ClassId} {m : Method}
    (hm : s.methodOf? v name = some (o, m)) :
    s.findMethod? (s.classOf v) name = some (o, m) ∨
      ∃ c n, v = .cls c ∧ s.findClassMethod? c name = some (o, m) ∧ m.body = .native n := by
  cases v with
  | nil | object => exact .inl hm
  | cls c =>
    rcases Option.or_eq_some_iff.1 hm with hm | ⟨-, hm⟩
    · obtain ⟨a, -, ha⟩ := List.exists_of_findSome?_eq_some hm
      obtain ⟨m', hm', e⟩ := Option.map_eq_some_iff.1 ha
      obtain ⟨rfl, rfl⟩ := Prod.mk.inj e
      obtain ⟨n, hn⟩ := (h a).builtIn hm'
      exact .inr ⟨c, n, rfl, hm, hn⟩
    · exact .inl hm

end State

end OpenScript
