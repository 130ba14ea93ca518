import OpenScript.Proofs.Entries
import OpenScript.Proofs.Indexed
import OpenScript.Proofs.Tables

/-!
# Proofs/Boxes — boxed data sit in their own classes

    payload ──boxed in──▸ object ──class──▸ home class ──table──▸ methods for such data

An object that boxes a datum has the home class of the datum, `Integer` for an integer and so on,
and neither class nor datum ever change (`State.Reachable.boxesFit`, `State.KeepsBoxes`).  The
built-in methods that work on data stand in the tables of home classes only.  So one that is found
for a value that boxes something finds the datum it needs, and if it fails, then not over its
receiver (`State.Reachable.boxes_stay`).
-/

namespace OpenScript

/-! ## Failures -/

namespace Eval

variable {α β : Type} {x : Eval α} {f : α → Eval β} {s s₁ : State}
  {P : RuntimeError → State → Prop}

/-- An evaluation fails in certain ways only. -/
def FailsBy (x : Eval α) (s : State) (P : RuntimeError → State → Prop) : Prop :=
  ∀ e s', x.Ends s (.error e) s' → P e s'

theorem failsBy_of_done {a : α} (h : x s = .done (.ok a) s₁) : x.FailsBy s P := by
  intro e s' he
  cases ((ends_of_done h).1 he).1

theorem failsBy_of_error {e : RuntimeError} (h : x s = .done (.error e) s₁) (hP : P e s₁) :
    x.FailsBy s P := by
  intro e' s' he
  obtain ⟨e, rfl⟩ := (ends_of_done h).1 he
  exact Except.error.inj e ▸ hP

theorem FailsBy.bind (hx : x.FailsBy s P)
    (hf : ∀ a s₁, x.Ends s (.ok a) s₁ → (f a).FailsBy s₁ P) : (x >>= f).FailsBy s P := by
  intro e s' he
  rcases ends_bind_iff.1 he with ⟨a, s₁, ha, he⟩ | ⟨e', he, e⟩
  · exact hf a s₁ ha e s' he
  · exact Except.error.inj e ▸ hx e' s' he

/-- What has a result at once is followed by what that result leads to. -/
theorem failsBy_bind_of_done {a : α} (h : x s = .done (.ok a) s₁) (hf : (f a).FailsBy s₁ P) :
    (x >>= f).FailsBy s P := fun e s' he => hf e s' ((ends_congr (bind_of_done h)).1 he)

theorem failsBy_bind_of_error {e : RuntimeError} (h : x s = .done (.error e) s₁) (hP : P e s₁) :
    (x >>= f).FailsBy s P := failsBy_of_error (bind_of_error h) hP

/-! ### Checks -/

variable {vs : List Value} {method : String} {v : Value}

theorem failsBy_expect_bind {k : Nat} {f : Unit → Eval β} (ha : P (.arity method k vs.length) s)
    (hf : (f ()).FailsBy s P) : (expect method k vs >>= f).FailsBy s P := by
  by_cases h : vs.length = k
  · have passed : expect method k vs s = .done (.ok ()) s := by rw [expect, if_pos h]; rfl
    exact failsBy_bind_of_done passed hf
  · have failed : expect method k vs s = .done (.error (.arity method k vs.length)) s := by
      rw [expect, if_neg h]
      rfl
    exact failsBy_bind_of_error failed ha

theorem failsBy_onlyArgument_bind {f : Value → Eval β} (ha : P (.arity method 1 vs.length) s)
    (hf : ∀ w, vs = [w] → (f w).FailsBy s P) : (onlyArgument method vs >>= f).FailsBy s P := by
  match vs with
  | [w] => exact failsBy_bind_of_done rfl (hf w rfl)
  | [] | _ :: _ :: _ => exact failsBy_bind_of_error rfl ha

theorem theNumber_of_some {n : Number} (h : Number.ofPayload? (s.payload v) = some n) :
    theNumber v s = .done (.ok n) s := by
  rw [theNumber, bind_of_done (read_of_eq (g := (·.payload v)) rfl), h]
  rfl

theorem theNumber_of_none (h : Number.ofPayload? (s.payload v) = none) :
    theNumber v s = .done (.error (.type "number" (s.classNameOf v))) s := by
  rw [theNumber, bind_of_done (read_of_eq (g := (·.payload v)) rfl), h]
  rfl

theorem theText_of_some {t : String} (h : s.text? v = some t) :
    theText v s = .done (.ok t) s := by
  rw [theText, bind_of_done (read_of_eq h)]
  rfl

end Eval

/-! ## Methods that work on data -/

namespace Builtin

/-- The core classes whose data a built-in method works on; none if any receiver will do. -/
def homes : Builtin → List ClassId
  | .numberArithmetic _ | .numberComparison _ | .numberToString | .numberToInt | .numberToFloat =>
    [Core.integer, Core.float]
  | .stringConcat | .stringLength | .stringUpcase | .stringDowncase | .stringToString
  | .stringToSymbol => [Core.string]
  | .symbolIs | .symbolToString => [Core.symbol]
  | .lambdaCall => [Core.lambda]
  | _ => []

/-- How a built-in method that works on data can fail over something else than its receiver: its
arguments, a division, what it runs. -/
inductive Fails (b : Builtin) (receiver : Value) (vs : List Value) (s : State) :
    RuntimeError → State → Prop where
  | arity (name : String) (expected : Nat) :
    Fails b receiver vs s (.arity name expected vs.length) s
  | dividedByZero {op : Arithmetic} (hb : b = .numberArithmetic op) :
    Fails b receiver vs s .dividedByZero s
  /-- The argument is no number. -/
  | argument {w : Value} (hb : b.homes = [Core.integer, Core.float]) (hv : vs = [w])
    (hw : Number.ofPayload? (s.payload w) = none) :
    Fails b receiver vs s (.type "number" (s.classNameOf w)) s
  /-- The argument fails to become text. -/
  | shown {w : Value} (hb : b = .stringConcat) (hv : vs = [w]) {e : RuntimeError} {s' : State}
    (h : (Eval.stringify w).Ends s (.error e) s') : Fails b receiver vs s e s'
  /-- The lambda fails. -/
  | called {c : Closure} (hb : b = .lambdaCall) (hc : s.closure? receiver = some c)
    {e : RuntimeError} {s' : State} (h : (Eval.applyClosure c vs).Ends s (.error e) s') :
    Fails b receiver vs s e s'

variable {b : Builtin} {s : State} {v : Value} {vs : List Value} {caller : FrameId}

open Eval

theorem ofPayload?_of_home (h : (s.payload v).home ∈ [Core.integer, Core.float]) :
    ∃ n, Number.ofPayload? (s.payload v) = some n := by
  generalize s.payload v = p at h
  cases p with
  | int n => exact ⟨.int n, rfl⟩
  | float x => exact ⟨.float x, rfl⟩
  | _ => exact absurd h (by dsimp only [Payload.home]; decide)

theorem text?_of_home (h : (s.payload v).home ∈ [Core.string]) : ∃ t, s.text? v = some t := by
  rw [State.text?]
  generalize s.payload v = p at h
  cases p with
  | text t => exact ⟨t, rfl⟩
  | _ => exact absurd h (by dsimp only [Payload.home]; decide)

theorem symbol?_of_home (h : (s.payload v).home ∈ [Core.symbol]) : ∃ i, s.symbol? v = some i := by
  rw [State.symbol?]
  generalize s.payload v = p at h
  cases p with
  | symbol i => exact ⟨i, rfl⟩
  | _ => exact absurd h (by dsimp only [Payload.home]; decide)

theorem closure?_of_home (h : (s.payload v).home ∈ [Core.lambda]) :
    ∃ c, s.closure? v = some c := by
  rw [State.closure?]
  generalize s.payload v = p at h
  cases p with
  | lambda c => exact ⟨c, rfl⟩
  | _ => exact absurd h (by dsimp only [Payload.home]; decide)

/-- **A method that works on data does not fail over a receiver with such a datum.** -/
theorem failsBy_run (h : (s.payload v).home ∈ b.homes) :
    (b.run v vs caller).FailsBy s (b.Fails v vs s) := by
  cases b with
  | numberArithmetic op =>
    obtain ⟨n, hn⟩ := ofPayload?_of_home h
    refine failsBy_onlyArgument_bind (.arity _ _) fun w hv => ?_
    refine failsBy_bind_of_done (theNumber_of_some hn) ?_
    cases hw : Number.ofPayload? (s.payload w) with
    | none => exact failsBy_bind_of_error (theNumber_of_none hw) (.argument rfl hv hw)
    | some k =>
      refine failsBy_bind_of_done (theNumber_of_some hw) ?_
      cases hr : Number.arithmetic? op n k with
      | none => exact failsBy_of_error rfl (.dividedByZero rfl)
      | some r => cases r <;> exact failsBy_of_done rfl
  | numberComparison op =>
    obtain ⟨n, hn⟩ := ofPayload?_of_home h
    refine failsBy_onlyArgument_bind (.arity _ _) fun w hv => ?_
    refine failsBy_bind_of_done rfl ?_
    split
    · exact failsBy_of_done rfl
    · refine failsBy_bind_of_done (theNumber_of_some hn) ?_
      cases hw : Number.ofPayload? (s.payload w) with
      | none => exact failsBy_bind_of_error (theNumber_of_none hw) (.argument rfl hv hw)
      | some k => exact failsBy_bind_of_done (theNumber_of_some hw) (failsBy_of_done rfl)
  | numberToString | numberToInt =>
    obtain ⟨n, hn⟩ := ofPayload?_of_home h
    refine failsBy_expect_bind (.arity _ _) ?_
    exact failsBy_bind_of_done (theNumber_of_some hn) (failsBy_of_done rfl)
  | numberToFloat =>
    obtain ⟨n, hn⟩ := ofPayload?_of_home h
    refine failsBy_expect_bind (.arity _ _) ?_
    exact failsBy_bind_of_done (theNumber_of_some hn) (failsBy_of_done rfl)
  | stringConcat =>
    obtain ⟨t, ht⟩ := text?_of_home h
    refine failsBy_onlyArgument_bind (.arity _ _) fun w hv => ?_
    refine failsBy_bind_of_done (theText_of_some ht) ?_
    have shown : (stringify w).FailsBy s (Fails .stringConcat v vs s) :=
      fun _ _ he => .shown rfl hv he
    exact shown.bind fun _ _ _ => failsBy_of_done rfl
  | stringLength | stringUpcase | stringDowncase | stringToSymbol =>
    obtain ⟨t, ht⟩ := text?_of_home h
    refine failsBy_expect_bind (.arity _ _) ?_
    exact failsBy_bind_of_done (theText_of_some ht) (failsBy_of_done rfl)
  | stringToString => exact failsBy_expect_bind (.arity _ _) (failsBy_of_done rfl)
  | symbolIs =>
    refine failsBy_bind_of_done rfl ?_
    split <;> exact failsBy_of_done rfl
  | symbolToString =>
    obtain ⟨i, hi⟩ := symbol?_of_home h
    refine failsBy_expect_bind (.arity _ _) (failsBy_bind_of_done rfl ?_)
    rw [hi]
    exact failsBy_of_done rfl
  | lambdaCall =>
    obtain ⟨c, hc⟩ := closure?_of_home h
    refine failsBy_bind_of_done (read_of_eq hc) ?_
    exact fun _ _ he => .called rfl hc he
  | _ => exact absurd h List.not_mem_nil

end Builtin

theorem Payload.home_ne_object {p : Payload} (hp : p ≠ .none) : p.home ≠ Core.object := by
  cases p with
  | none => exact absurd rfl hp
  | _ => dsimp only [Payload.home]; decide

namespace State

variable {s s' : State} {v : Value} {name : String} {b : Builtin}

/-! ## Boxes -/

/-- What boxes a datum has the home class of the datum. -/
def BoxesFit (s : State) : Prop :=
  ∀ o, (s.objectAt o).payload ≠ .none → (s.objectAt o).cls = (s.objectAt o).payload.home

/-- What objects there are in a state have the same class and the same datum in another. -/
def KeepsBoxes (s s' : State) : Prop :=
  ∀ o < s.objects.size,
    (s'.objectAt o).cls = (s.objectAt o).cls ∧ (s'.objectAt o).payload = (s.objectAt o).payload

theorem Persists.keepsBoxes (h : s.Persists s') : s.KeepsBoxes s' := by
  intro o ho
  obtain ⟨y, hy, grows⟩ := h.objects o _ (Array.getElem?_eq_getElem ho)
  rw [objectAt, objectAt, hy, Array.getElem?_eq_getElem ho]
  exact ⟨grows.cls, grows.payload⟩

/-- An object that is added boxes a datum in its home class, if it boxes any. -/
theorem cls_addObject {x : Object} (hx : x.payload ≠ .none → x.cls = x.payload.home) {o : ObjectId}
    (ho : s.objects.size ≤ o) (h : ((s.addObject x).2.objectAt o).payload ≠ .none) :
    ((s.addObject x).2.objectAt o).cls = ((s.addObject x).2.objectAt o).payload.home := by
  rcases Nat.eq_or_lt_of_le ho with rfl | past
  · rw [objectAt_addObject_size] at h ⊢
    exact hx h
  · exact absurd (payload_of_le (by rw [addObject, Array.size_push]; exact past)) h

/-- **A datum that is boxed anew is boxed in its home class.** -/
theorem Change.cls_made {has : Item → Prop} (h : s.Change has s') {o : ObjectId}
    (ho : s.objects.size ≤ o) (hp : (s'.objectAt o).payload ≠ .none) :
    (s'.objectAt o).cls = (s'.objectAt o).payload.home := by
  have none_new (e : s'.objects.size = s.objects.size) :
      (s'.objectAt o).cls = (s'.objectAt o).payload.home := absurd (payload_of_le (e ▸ ho)) hp
  have plain {c : ClassId} : ({ cls := c } : Object).payload ≠ .none →
      ({ cls := c } : Object).cls = ({ cls := c } : Object).payload.home := fun h => absurd rfl h
  cases h with
  | box p _ _ => exact cls_addObject (fun _ => rfl) ho hp
  | instantiate hc => exact cls_addObject plain ho hp
  | createSpace hd hf hn => exact cls_addObject plain ho hp
  | setIvar key hv hw => exact none_new (size_objects_setIvar s _ _ key)
  | set hn hc hf hv => exact none_new (size_objects_set s _ _ _)
  | defineConstant hc hf hv => exact none_new (size_objects_defineConstant s _ _ _)
  | createClass hd hf hc hn => exact none_new (size_objects_set _ _ _ _)
  | enter ho' hr hv => exact none_new (by rw [enter_eq]; rfl)
  | enterClosure hc hv => exact none_new (by rw [enterClosure_eq]; rfl)
  | intern | print | addProperty | defineMethod => exact none_new rfl

theorem BoxesFit.next (h : s.BoxesFit) (hn : s.Next s') : s'.BoxesFit := by
  intro o hp
  cases hn with
  | change hc =>
    rcases Nat.lt_or_ge o s.objects.size with old | new
    · obtain ⟨cls, payload⟩ := hc.grows.persists.keepsBoxes o old
      rw [payload] at hp ⊢
      exact cls.trans (h o hp)
    · exact hc.cls_made new hp
  | depth | drain => exact h o hp
  | probe c ofClass name p => cases ofClass <;> exact h o hp

/-- Whether an object that boxes a datum has its home class. -/
def isAtHome (x : Object) : Bool :=
  match x.payload with
  | .none => true
  | p => x.cls == p.home

theorem cls_of_isAtHome {x : Object} (h : isAtHome x = true) (hp : x.payload ≠ .none) :
    x.cls = x.payload.home := by
  unfold isAtHome at h
  split at h
  · next none => exact absurd none hp
  · exact eq_of_beq h

theorem boxesFit_initial (limit : Nat) : (State.initial limit).BoxesFit := by
  have core : ∀ o < 3, isAtHome ((State.initial limit).objectAt o) = true := by
    simp only [objectAt, objects_initial]
    decide
  intro o hp
  rcases Nat.lt_or_ge o 3 with there | past
  · exact cls_of_isAtHome (core o there) hp
  · exact absurd (payload_of_le (size_objects_initial limit ▸ past)) hp

/-- **Interpreters box data in their home classes only.** -/
theorem Reachable.boxesFit (h : s.Reachable) : s.BoxesFit :=
  h.keeps (P := BoxesFit) boxesFit_initial fun _ hb hn => hb.next hn

/-- A value that boxes a datum is an instance of the home class of the datum. -/
theorem Reachable.classOf_eq_home (h : s.Reachable) {p : Payload} (hv : s.payload v = p)
    (datum : p ≠ .none) : s.classOf v = p.home := by
  subst hv
  cases v with
  | nil | cls => exact absurd rfl datum
  | object o => exact h.boxesFit o datum

/-! ## Finding methods that work on data -/

/-- Core classes stay right below `Object`. -/
theorem Reachable.parent_core (h : s.Reachable) {c : ClassId} (hc : c ≤ Core.lambda)
    (other : c ≠ Core.object) : (s.classAt c).parent = some Core.object := by
  obtain ⟨limit, later⟩ := h.later_initial
  have core : c < 9 := Nat.lt_succ_of_le hc
  have there : c < (State.initial limit).classes.size := by rwa [size_classes_initial]
  rw [(later.persists.classAt there).parent, parent_initial limit core, if_neg other]

theorem Reachable.ancestors_core (h : s.Reachable) {c : ClassId} (hc : c ≤ Core.lambda)
    (other : c ≠ Core.object) : s.ancestors c = [c, Core.object] := by
  have there : Core.object < s.classes.size :=
    Nat.lt_of_le_of_lt (Nat.zero_le _) h.wellFormed.inv.classes
  have top : (s.classAt Core.object).parent = none := (h.tree.root there).2 rfl
  rw [h.tree.ancestors_of_some (h.parent_core hc other), h.tree.ancestors_of_none top]

/-- **What boxes a datum looks for methods in the home class of the datum and in `Object`.** -/
theorem Reachable.ancestors_boxed (h : s.Reachable) {o : ObjectId}
    (hp : (s.objectAt o).payload ≠ .none) :
    s.ancestors (s.objectAt o).cls = [(s.objectAt o).payload.home, Core.object] := by
  rw [h.boxesFit o hp]
  exact h.ancestors_core (Payload.home_le _) (Payload.home_ne_object hp)

/-- Built-in methods that work on data stand in the tables of their home classes. -/
theorem mem_homes_of_mem_methodsOf {c : ClassId} (h : (name, b) ∈ Core.methodsOf c)
    (hb : b.homes ≠ []) : c ∈ b.homes := by
  have core : ∀ c < 9, ∀ p ∈ Core.methodsOf c, p.2.homes ≠ [] → c ∈ p.2.homes := by decide
  rcases Nat.lt_or_ge c 9 with there | past
  · exact core c there _ h hb
  · have none : Core.classes[c]? = none := List.getElem?_eq_none past
    rw [Core.methodsOf, none] at h
    exact absurd h List.not_mem_nil

theorem object_not_mem_homes (b : Builtin) : Core.object ∉ b.homes := by
  unfold Builtin.homes
  split <;> decide

/-- **A method that works on data is found for a value that boxes something only if that is a datum
it works on.** -/
theorem Reachable.home_mem_homes (h : s.Reachable) (hp : s.payload v ≠ .none)
    (found : s.nativeOf? v name = some (.builtin b)) (hb : b.homes ≠ []) :
    (s.payload v).home ∈ b.homes := by
  obtain ⟨o, m, hm⟩ := nativeOf?_eq_some_iff.1 found
  cases v with
  | nil | cls => exact absurd rfl hp
  | object k =>
    change s.findMethod? (s.objectAt k).cls name = _ at hm
    obtain ⟨entry, before, after, way, -⟩ := findMethod?_eq_some_iff.1 hm
    have home : o ∈ b.homes := mem_homes_of_mem_methodsOf (h.builtinsFit entry rfl) hb
    rw [h.ancestors_boxed hp] at way
    have onWay : o ∈ [(s.payload (.object k)).home, Core.object] := by
      change o ∈ [(s.objectAt k).payload.home, Core.object]
      rw [way]
      exact List.mem_append_right _ List.mem_cons_self
    rcases List.mem_cons.1 onWay with rfl | top
    · exact home
    · exact absurd (List.mem_singleton.1 top ▸ home) (object_not_mem_homes b)

/-- **Boxed data always sit in their own classes.**  Wherever an interpreter gets, what boxes a
datum has the home class of the datum, no run changes class or datum of what is there, and a
built-in method that works on data and is found for a value that boxes something finds such a datum
in it: if the call fails, that is for want of a level or over something else than the receiver. -/
theorem Reachable.boxes_stay (h : s.Reachable) :
    (∀ o, (s.objectAt o).payload ≠ .none →
      (s.objectAt o).cls = (s.objectAt o).payload.home) ∧
    (∀ x : Eval Value, Request s x →
      (∀ t s', x.Comes s t s' → s.KeepsBoxes s') ∧ ∀ out s', x.Ends s out s' → s.KeepsBoxes s') ∧
    ∀ v name b, s.payload v ≠ .none → s.nativeOf? v name = some (.builtin b) → b.homes ≠ [] →
      (s.payload v).home ∈ b.homes ∧
      ∀ vs caller e s', (Eval.send v name vs caller).Ends s (.error e) s' →
        e = .stackOverflow s.limit ∨
        ∃ s₁, b.Fails v vs { s with depth := s.depth + 1 } e s₁ ∧
          s' = { s₁ with depth := s₁.depth - 1 } := by
  refine ⟨h.boxesFit, fun x hx => ⟨fun t s' ht => ?_, fun out s' hr => ?_⟩, ?_⟩
  · exact (later_of_comes h.wellFormed hx ht).persists.keepsBoxes
  · exact (later_of_ends h.wellFormed hx hr).persists.keepsBoxes
  · intro v name b hp found hb
    have home := h.home_mem_homes hp found hb
    refine ⟨home, fun vs caller e s' he => ?_⟩
    rcases Nat.lt_or_ge s.depth s.limit with left | full
    · obtain ⟨s₁, run, back⟩ := (Eval.ends_send_native_iff found left).1 he
      have home' : (State.payload { s with depth := s.depth + 1 } v).home ∈ b.homes := by
        cases v <;> exact home
      exact .inr ⟨s₁, Builtin.failsBy_run home' e s₁ run, back⟩
    · have full := ((Eval.ends_send_full_iff found full).1 he).1
      exact .inl (Except.error.inj full)

/-- `String` reopened, a text, and an instance of a class below `Integer`. -/
def moneyAndText : Program :=
  [.defineClass "String" none [.defineMethod "shout" [] [.call none "upcase" []]],
    .defineClass "Money" (some "Integer") [], .setGlobal "$text" (.text "hi"),
    .setGlobal "$money" (.call (some (.getConstant "Money")) "new" [])]

/-- Object 3 is the text, object 4 the instance: its methods work on data that it does not have. -/
theorem boxes_stay_reopening : ∃ s : State, s.Reachable ∧ s.payload (.object 3) ≠ .none ∧
    s.nativeOf? (.object 3) "+" = some (.builtin .stringConcat) ∧
    Builtin.stringConcat.homes ≠ [] ∧
    s.nativeOf? (.object 4) "+" = some (.builtin (.numberArithmetic .add)) ∧
    s.int? (.object 4) = none ∧ (s.objectAt 3).cls = (s.objectAt 3).payload.home ∧
    (s.payload (.object 3)).home ∈ Builtin.stringConcat.homes ∧
    ∀ vs caller e s', (Eval.send (.object 3) "+" vs caller).Ends s (.error e) s' →
      e = .stackOverflow s.limit ∨
      ∃ s₁, Builtin.stringConcat.Fails (.object 3) vs { s with depth := s.depth + 1 } e s₁ ∧
        s' = { s₁ with depth := s₁.depth - 1 } := by
  obtain ⟨s, reachable, ht⟩ := exists_reachable_of_run 5 100 moneyAndText
    (fun s => decide (s.text? (.object 3) = some "hi" ∧
      s.nativeOf? (.object 3) "+" = some (.builtin .stringConcat) ∧
      s.nativeOf? (.object 4) "+" = some (.builtin (.numberArithmetic .add)) ∧
      s.int? (.object 4) = none)) (by decide +kernel)
  obtain ⟨text, found, plain, empty⟩ := of_decide_eq_true ht
  have boxed : s.payload (.object 3) ≠ .none := fun e => by
    rw [text?, e] at text
    cases text
  have works : Builtin.stringConcat.homes ≠ [] := by decide
  obtain ⟨homes, -, calls⟩ := reachable.boxes_stay
  obtain ⟨home, fails⟩ := calls (.object 3) "+" .stringConcat boxed found works
  exact ⟨s, reachable, boxed, found, works, plain, empty, homes 3 boxed, home, fails⟩

end State

end OpenScript
