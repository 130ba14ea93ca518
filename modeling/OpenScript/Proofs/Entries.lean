import OpenScript.Proofs.Answers
import OpenScript.Proofs.Later

/-!
# Proofs/Entries — who writes into the tables of methods

    define m, property p ──▸ table of a class: m, p, p=        all else leaves the tables alone

Only code that defines a name changes what stands under it in a table, and what it puts there is no
built-in method; the tables of the classes themselves are left to the host
(`State.Change.method_or`, `State.Change.classMethods`).  So the built-in methods in a table all
stood there from the start (`State.Reachable.builtinsFit`).
-/

namespace OpenScript

/-- The names that a node defines methods of. -/
def Node.definedNames : Node → List String
  | .defineMethod name _ _ => [name]
  | .property names => names.flatMap fun name => [name, name ++ "="]
  | _ => []

/-- Which built-in method a method is. -/
def Method.builtin? (m : Method) : Option Builtin :=
  match m.body with
  | .native (.builtin b) => some b
  | _ => none

/-- Both tables of a class. -/
def Class.tables (x : Class) : Store Method × Store Method := (x.methods, x.classMethods)

namespace State

variable {s s' : State} {c d : ClassId} {name : String}

/-! ## Updates -/

/-- The tables of a class. -/
abbrev tables (s : State) (c : ClassId) : Store Method × Store Method := (s.classAt c).tables

theorem tables_setIvar (v : Value) (key : String) (w : Value) :
    (s.setIvar v key w).tables c = s.tables c := by
  cases v with
  | nil | object => rfl
  | cls d => exact s.classAt_modifyClass_of_keeps (g := Class.tables) fun _ _ => rfl

theorem tables_set (f : FrameId) (name : String) (v : Value) :
    (s.set f name v).tables c = s.tables c := by
  unfold set
  dsimp only
  split
  · rfl
  · rfl
  · rfl
  · exact s.classAt_modifyClass_of_keeps (g := Class.tables) fun _ _ => rfl
  · exact tables_setIvar _ _ v
  · rfl

theorem tables_defineConstant (f : FrameId) (name : String) (v : Value) :
    (s.defineConstant f name v).2.tables c = s.tables c := by
  unfold defineConstant
  split <;> rfl

/-- A class that is made has empty tables, as if it had been there. -/
theorem tables_createClass (f : FrameId) (name : String) (p : ClassId) :
    (Eval.createClass s f name p).2.tables c = s.tables c := by
  refine (tables_set f name _).trans ?_
  rcases Nat.lt_trichotomy c s.classes.size with lt | rfl | gt
  · exact congrArg Class.tables (classAt_addClass_of_lt _ lt _)
  · have here : s.tables s.classes.size = ({}, {}) := by
      rw [tables, classAt, Array.getElem?_eq_none (Nat.le_refl _)]
      rfl
    rw [here]
    exact congrArg Class.tables (classAt_addClass_size _ _)
  · rw [tables, tables, classAt, classAt, Array.getElem?_eq_none (Nat.le_of_lt gt),
      Array.getElem?_eq_none]
    change (s.classes.push _).size ≤ c
    rw [Array.size_push]
    exact gt

theorem classMethods_defineMethod (m : Method) :
    ((s.defineMethod d m).classAt c).classMethods = (s.classAt c).classMethods :=
  s.classAt_modifyClass_of_keeps (g := Class.classMethods) fun _ _ => rfl

theorem method_defineMethod_self (hd : d < s.classes.size) (m : Method) :
    ((s.defineMethod d m).classAt d).methods[m.name]? = some m := by
  rw [defineMethod, s.classAt_modifyClass hd, if_pos rfl]
  exact Std.TreeMap.getElem?_insert_self

theorem method_defineMethod_of_ne {m : Method} (h : ¬(name = m.name ∧ c = d)) :
    ((s.defineMethod d m).classAt c).methods[name]? = (s.classAt c).methods[name]? := by
  refine s.classAt_modifyClass_of_keeps (g := (·.methods[name]?)) fun same x => ?_
  exact Store.getElem?_insert_of_ne fun hn => h ⟨hn, same.symm⟩

/-- Defining a method changes what stands under its name. -/
theorem method_defineMethod (m : Method) (name : String) :
    ((s.defineMethod d m).classAt c).methods[name]? = (s.classAt c).methods[name]? ∨
      name = m.name ∧ ((s.defineMethod d m).classAt c).methods[name]? = some m := by
  by_cases here : name = m.name ∧ c = d
  · obtain ⟨rfl, rfl⟩ := here
    rcases Nat.lt_or_ge c s.classes.size with there | past
    · exact .inr ⟨rfl, method_defineMethod_self there m⟩
    · refine .inl ?_
      rw [classAt, classAt, Array.getElem?_eq_none past, Array.getElem?_eq_none]
      exact Nat.le_trans (Nat.le_of_eq Array.size_modify) past
  · exact .inl (method_defineMethod_of_ne here)

/-! ## Changes -/

/-- **A change leaves what stands under a name**, unless code that defines the name puts something
else there that is not built in. -/
theorem Change.method_or {has : Item → Prop} (h : s.Change has s') (c : ClassId) (name : String) :
    (s'.classAt c).methods[name]? = (s.classAt c).methods[name]? ∨
      ∃ n m, has (.code n) ∧ name ∈ n.definedNames ∧
        (s'.classAt c).methods[name]? = some m ∧ m.builtin? = none := by
  have same (e : s'.tables c = s.tables c) :
      (s'.classAt c).methods[name]? = (s.classAt c).methods[name]? :=
    congrArg (fun t => t.1[name]?) e
  cases h with
  | defineMethod hd hc =>
    refine (method_defineMethod _ name).imp_right ?_
    rintro ⟨rfl, put⟩
    exact ⟨_, _, hd, List.mem_singleton_self _, put, rfl⟩
  | @addProperty c' names p hd hn hc =>
    have listed {k : String} (hk : k = p ∨ k = p ++ "=") : k ∈ (Node.property names).definedNames :=
      List.mem_flatMap.2 ⟨p, hn, by simpa using hk⟩
    rcases method_defineMethod (s := s.defineMethod c' ⟨p, .native (.reader p)⟩) (d := c') (c := c)
      ⟨p ++ "=", .native (.writer p)⟩ name with e | ⟨e, put⟩
    · rcases method_defineMethod (s := s) (d := c') (c := c) ⟨p, .native (.reader p)⟩ name
        with e' | ⟨e', put⟩
      · exact .inl (e.trans e')
      · exact .inr ⟨_, _, hd, listed (.inl e'), e.trans put, rfl⟩
    · exact .inr ⟨_, _, hd, listed (.inr e), put, rfl⟩
  | setIvar key hv hw => exact .inl (same (tables_setIvar _ key _))
  | set hn hcode hf hv => exact .inl (same (tables_set _ _ _))
  | defineConstant hcode hf hv => exact .inl (same (tables_defineConstant _ _ _))
  | createClass hd hf hp hn => exact .inl (same (tables_createClass _ _ _))
  | enter ho hr hv => exact .inl (same (by rw [enter_eq]; rfl))
  | enterClosure hk hv => exact .inl (same (by rw [enterClosure_eq]; rfl))
  | box | instantiate | intern | print | createSpace => exact .inl rfl

/-- **No change touches the tables of the classes themselves.** -/
theorem Change.classMethods {has : Item → Prop} (h : s.Change has s') (c : ClassId) :
    (s'.classAt c).classMethods = (s.classAt c).classMethods := by
  have same (e : s'.tables c = s.tables c) :
      (s'.classAt c).classMethods = (s.classAt c).classMethods := congrArg (·.2) e
  cases h with
  | defineMethod hd hc => exact classMethods_defineMethod _
  | addProperty hd hn hc =>
    exact (classMethods_defineMethod _).trans (classMethods_defineMethod _)
  | setIvar key hv hw => exact same (tables_setIvar _ key _)
  | set hn hcode hf hv => exact same (tables_set _ _ _)
  | defineConstant hcode hf hv => exact same (tables_defineConstant _ _ _)
  | createClass hd hf hp hn => exact same (tables_createClass _ _ _)
  | enter ho hr hv => exact same (by rw [enter_eq]; rfl)
  | enterClosure hk hv => exact same (by rw [enterClosure_eq]; rfl)
  | box | instantiate | intern | print | createSpace => rfl

/-- A probe changes what stands under its name only. -/
theorem method_defineProbe (ofClass : Bool) (p : Probe) (k : String) :
    ((s.defineProbe d ofClass k p).classAt c).methods[name]? = (s.classAt c).methods[name]? ∨
      name = k ∧ ∃ m, ((s.defineProbe d ofClass k p).classAt c).methods[name]? = some m ∧
        m.builtin? = none := by
  cases ofClass with
  | true => exact .inl (s.classAt_modifyClass_of_keeps (g := (·.methods[name]?)) fun _ _ => rfl)
  | false => exact (method_defineMethod _ name).imp_right fun ⟨e, put⟩ => ⟨e, _, put, rfl⟩

theorem classMethod_defineProbe_of_ne (ofClass : Bool) (p : Probe) {k : String} (h : name ≠ k) :
    ((s.defineProbe d ofClass k p).classAt c).classMethods[name]?
      = (s.classAt c).classMethods[name]? := by
  cases ofClass with
  | false => exact congrArg (·[name]?) (classMethods_defineMethod _)
  | true =>
    refine s.classAt_modifyClass_of_keeps (g := fun x => x.classMethods[name]?) fun _ x => ?_
    exact Store.getElem?_insert_of_ne h

/-! ## Built-in methods -/

/-- A built-in method stands where it stood from the start. -/
def BuiltinsFit (s : State) : Prop :=
  ∀ {c : ClassId} {name : String} {m : Method} {b : Builtin},
    (s.classAt c).methods[name]? = some m → m.builtin? = some b → (name, b) ∈ Core.methodsOf c

theorem BuiltinsFit.next (h : s.BuiltinsFit) (hn : s.Next s') : s'.BuiltinsFit := by
  intro c name m b hm hb
  have unless_put {m' : Method} (put : (s'.classAt c).methods[name]? = some m')
      (other : m'.builtin? = none) : (name, b) ∈ Core.methodsOf c := by
    obtain rfl := Option.some.inj (hm.symm.trans put)
    cases hb.symm.trans other
  cases hn with
  | change hc =>
    rcases hc.method_or c name with e | ⟨n, m', -, -, put, other⟩
    · exact h (e ▸ hm) hb
    · exact unless_put put other
  | depth | drain => exact h hm hb
  | probe d ofClass k p =>
    rcases method_defineProbe ofClass p k with e | ⟨-, m', put, other⟩
    · exact h (e ▸ hm) hb
    · exact unless_put put other

theorem builtinsFit_initial (limit : Nat) : (State.initial limit).BuiltinsFit := by
  intro c name m b hm hb
  rw [getElem?_methods_initial] at hm
  obtain ⟨b', listed, rfl⟩ := Option.map_eq_some_iff.1 hm
  obtain rfl : b' = b := Option.some.inj hb
  obtain ⟨before, after, split, -⟩ := List.lookup_eq_some_iff.1 listed
  refine List.mem_reverse.1 ?_
  rw [split]
  exact List.mem_append_right before List.mem_cons_self

/-- **Interpreters keep built-in methods where they were.** -/
theorem Reachable.builtinsFit (h : s.Reachable) : s.BuiltinsFit :=
  h.keeps (P := BuiltinsFit) builtinsFit_initial fun _ ht hn => ht.next hn

end State

end OpenScript
