import OpenScript.Proofs.Equality

/-!
# Proofs/Arities — how many arguments built-in methods take

    v.length(x)  ──dispatch──▸  takes none  ⟹  ArgumentError in the state of the call
    v.is()       ──dispatch──▸  takes one   ⟹  false

All but five of the methods that an interpreter starts with take a fixed number of arguments, and so
do the accessors of properties (`Native.arity?`).  A call with another number fails with an error
that names the method and both numbers, and changes nothing
(`Native.run_miscounted`).  The exception is `is`, which counts nothing: it compares the receiver
with the first argument, and without one tells `false` (`Eval.ends_send_objectIs`).
-/

namespace OpenScript

/-- How many arguments a method takes that an interpreter starts with; `none` if there may be one or
none, or as many as `init` or a lambda takes. -/
def Builtin.arity? : Builtin → Option Nat
  | .objectIs | .symbolIs | .objectEqual | .objectNotEqual | .objectRespondsTo
  | .numberArithmetic _ | .numberComparison _ | .stringConcat => some 1
  | .className | .classSuperclass | .objectToString | .objectInspect | .objectClass | .objectIsNil
  | .numberToString | .numberToInt | .numberToFloat | .stringLength | .stringUpcase
  | .stringDowncase | .stringToString | .stringToSymbol | .symbolToString | .booleanToString
  | .booleanNot | .nilToString => some 0
  | .classNew | .symbolNew | .objectPrint | .objectPrintln | .lambdaCall => none

/-- All methods that an interpreter starts with, under their names. -/
def Core.methods : List (String × Builtin) := Core.classes.flatMap (·.2) ++ Core.symbolClassMethods

/-- The name that an interpreter starts with a method under. -/
def Builtin.label (b : Builtin) : String := ((Core.methods.find? (·.2 == b)).map (·.1)).getD ""

/-- No method has two names. -/
theorem Builtin.label_of_mem {name : String} {b : Builtin} (h : (name, b) ∈ Core.methods) :
    b.label = name := by
  have all : ∀ p ∈ Core.methods, p.2.label = p.1 := by decide
  exact all _ h

namespace Native

/-- How many arguments a method takes, if that is fixed. -/
def arity? : Native → Option Nat
  | .builtin b => b.arity?
  | .reader _ => some 0
  | .writer _ => some 1
  | .probe _ => none

/-- The name of a method in its errors. -/
def label : Native → String
  | .builtin b => b.label
  | .reader name => name
  | .writer name => name ++ "="
  | .probe _ => ""

/-- A method that does not count its arguments, though it takes a fixed number of them. -/
def IsLax (n : Native) : Prop := n = .builtin .objectIs ∨ n = .builtin .symbolIs

end Native

/-! ## Checks -/

namespace Eval

variable {β : Type} {s : State} {method : String} {k : Nat} {vs : List Value}

theorem expect_bind_of_ne {f : Unit → Eval β} (h : vs.length ≠ k) :
    (expect method k vs >>= f) s = .done (.error (.arity method k vs.length)) s := by
  have refused : expect method k vs s = .done (.error (.arity method k vs.length)) s := by
    rw [expect, if_neg h]
    rfl
  exact bind_of_error refused

theorem onlyArgument_bind_of_ne {f : Value → Eval β} (h : vs.length ≠ 1) :
    (onlyArgument method vs >>= f) s = .done (.error (.arity method 1 vs.length)) s := by
  have refused : onlyArgument method vs s = .done (.error (.arity method 1 vs.length)) s := by
    unfold onlyArgument
    split
    · exact absurd rfl h
    · rfl
  exact bind_of_error refused

end Eval

namespace Native

open Eval

variable {s : State} {v : Value} {vs : List Value} {caller : FrameId} {n : Native} {k : Nat}

/-- **A method that takes a fixed number of arguments counts them before all else**, except `is`. -/
theorem run_miscounted (takes : n.arity? = some k) (miscounted : vs.length ≠ k)
    (strict : ¬n.IsLax) :
    n.run v vs caller s = .done (.error (.arity n.label k vs.length)) s := by
  cases n with
  | reader name =>
    obtain rfl := Option.some.inj takes
    exact expect_bind_of_ne miscounted
  | writer name =>
    obtain rfl := Option.some.inj takes
    exact onlyArgument_bind_of_ne miscounted
  | probe p => cases takes
  | builtin b =>
    cases b with
    | objectIs => exact absurd (.inl rfl) strict
    | symbolIs => exact absurd (.inr rfl) strict
    | classNew | symbolNew | objectPrint | objectPrintln | lambdaCall => cases takes
    | objectEqual | objectRespondsTo | stringConcat =>
      obtain rfl := Option.some.inj takes
      exact onlyArgument_bind_of_ne miscounted
    | numberArithmetic op | numberComparison op =>
      obtain rfl := Option.some.inj takes
      cases op <;> exact onlyArgument_bind_of_ne miscounted
    | _ =>
      obtain rfl := Option.some.inj takes
      exact expect_bind_of_ne miscounted

end Native

namespace State

/-- Whether two values are symbols, and the same. -/
def sameSymbol (s : State) (v w : Value) : Bool :=
  (s.symbol? v).isSome && s.symbol? v == s.symbol? w

end State

namespace Eval

variable {s s' : State} {v : Value} {name : String} {vs : List Value} {caller : FrameId}

/-! ## The method that does not count -/

theorem run_objectIs :
    (Native.builtin .objectIs).run v vs caller s
      = .done (.ok (Core.bool (vs.head?.any (s.equal v)))) s := by
  cases vs <;> rfl

theorem run_symbolIs :
    (Native.builtin .symbolIs).run v vs caller s
      = .done (.ok (Core.bool (vs.head?.any (s.sameSymbol v)))) s := by
  refine (bind_of_done rfl : (state >>= _) s = _).trans ?_
  cases vs with
  | nil => cases s.symbol? v <;> rfl
  | cons w ws =>
    rw [List.head?_cons, Option.bind_some, Option.any_some, State.sameSymbol]
    cases s.symbol? v with
    | none => rfl
    | some i => cases s.symbol? w <;> rfl

theorem symbol?_depth (d : Nat) (w : Value) :
    State.symbol? { s with depth := d } w = s.symbol? w := by
  rw [State.symbol?, State.payload_depth]
  rfl

/-! ## Calls -/

/-- **`is` compares the receiver with the first argument**, however many there are. -/
theorem ends_send_objectIs (found : s.nativeOf? v name = some (.builtin .objectIs))
    (left : s.depth < s.limit) {out : Outcome Value} :
    (send v name vs caller).Ends s out s' ↔
      out = .ok (Core.bool (vs.head?.any (s.equal v))) ∧ s' = s := by
  have same : State.equal { s with depth := s.depth + 1 } v = s.equal v :=
    funext fun w => State.equal_depth (s.depth + 1)
  exact same ▸ ends_send_of_done found left run_objectIs

/-- That of symbols does so, too. -/
theorem ends_send_symbolIs (found : s.nativeOf? v name = some (.builtin .symbolIs))
    (left : s.depth < s.limit) {out : Outcome Value} :
    (send v name vs caller).Ends s out s' ↔
      out = .ok (Core.bool (vs.head?.any (s.sameSymbol v))) ∧ s' = s := by
  have same : State.sameSymbol { s with depth := s.depth + 1 } v = s.sameSymbol v :=
    funext fun w => by simp only [State.sameSymbol, symbol?_depth]
  exact same ▸ ends_send_of_done found left run_symbolIs

/-- **A call with the wrong number of arguments fails and changes nothing**, whoever is called,
where a level is left and the method takes a fixed number of arguments; only `is` has an answer,
which depends on the first argument and changes nothing either. -/
theorem ends_send_miscounted {n : Native} {k : Nat} (found : s.nativeOf? v name = some n)
    (takes : n.arity? = some k) (miscounted : vs.length ≠ k) (left : s.depth < s.limit) :
    (¬n.IsLax → ∀ out s', (send v name vs caller).Ends s out s' ↔
      out = .error (.arity n.label k vs.length) ∧ s' = s) ∧
    (n = .builtin .objectIs → ∀ out s', (send v name vs caller).Ends s out s' ↔
      out = .ok (Core.bool (vs.head?.any (s.equal v))) ∧ s' = s) ∧
    (n = .builtin .symbolIs → ∀ out s', (send v name vs caller).Ends s out s' ↔
      out = .ok (Core.bool (vs.head?.any (s.sameSymbol v))) ∧ s' = s) := by
  refine ⟨fun strict out s' => ?_, ?_, ?_⟩
  · have run : n.run v vs caller { s with depth := s.depth + 1 }
        = .done (.error (.arity n.label k vs.length)) { s with depth := s.depth + 1 } :=
      Native.run_miscounted takes miscounted strict
    -- the level that the call opens is closed again
    exact ends_send_of_done found left run
  · rintro rfl _ _
    exact ends_send_objectIs found left
  · rintro rfl _ _
    exact ends_send_symbolIs found left

/-- The superclass of `Integer` is asked for with two arguments. -/
theorem ends_send_miscounted_superclass : let s := State.initial 5
    let n : Native := .builtin .classSuperclass
    s.nativeOf? (.cls Core.integer) "superclass" = some n ∧ n.arity? = some 0 ∧
    s.depth < s.limit ∧ ¬n.IsLax ∧
    ∀ out s', (send (.cls Core.integer) "superclass" [.nil, .nil] Core.root).Ends s out s' ↔
      out = .error (.arity "superclass" 0 2) ∧ s' = s := by
  intro s n
  have found : s.nativeOf? (.cls Core.integer) "superclass" = some n := by decide +kernel
  have strict : ¬Native.IsLax (.builtin .classSuperclass) := by rintro (e | e) <;> cases e
  refine ⟨found, rfl, by decide, strict, ?_⟩
  exact (ends_send_miscounted found (k := 0) rfl (by decide) (by decide)).1 strict

/-- A number and a symbol. -/
def numberAndSymbol : Program := [.setGlobal "$n" (.int 1), .setGlobal "$a" (.symbol "a")]

/-- **`is` does not count its arguments**: the number, object 3, has an answer when it is asked with
none, and the symbol, object 4, when it is asked with two. -/
theorem ends_is_miscounted : ∃ s : State, s.Reachable ∧ s.depth < s.limit ∧
    s.int? (.object 3) = some 1 ∧
    s.nativeOf? (.object 3) "is" = some (.builtin .objectIs) ∧
    (Native.builtin .objectIs).arity? = some 1 ∧
    (send (.object 3) "is" [] Core.root).Ends s (.ok (Core.bool false)) s ∧
    s.nativeOf? (.object 4) "is" = some (.builtin .symbolIs) ∧
    (Native.builtin .symbolIs).arity? = some 1 ∧
    (send (.object 4) "is" [.object 4, .object 4] Core.root).Ends s (.ok (Core.bool true)) s := by
  let test (s : State) : Bool := decide (s.depth < s.limit ∧ s.int? (.object 3) = some 1 ∧
    s.nativeOf? (.object 3) "is" = some (.builtin .objectIs) ∧
    s.nativeOf? (.object 4) "is" = some (.builtin .symbolIs) ∧
    s.sameSymbol (.object 4) (.object 4) = true)
  obtain ⟨s, reachable, ht⟩ :=
    State.exists_reachable_of_run 5 100 numberAndSymbol test (by decide +kernel)
  obtain ⟨left, one, plain, symbol, same⟩ := of_decide_eq_true ht
  refine ⟨s, reachable, left, one, plain, rfl, ?_, symbol, rfl, ?_⟩
  · exact (ends_send_objectIs plain left).2 ⟨rfl, rfl⟩
  · refine (ends_send_symbolIs symbol left).2 ⟨?_, rfl⟩
    rw [List.head?_cons, Option.any_some, same]

end Eval

end OpenScript
