import Mathlib.Algebra.Group.Nat.Defs
import OpenScript.Proofs.Equality

/-!
# Proofs/Integers — arithmetic in sixty-four bits

    a op b  ──numberArithmetic op──▸  exact result  ──bmod 2⁶⁴──▸  a fresh integer
    a / 0,  a % 0  ──▸  divided by zero

The operators of `Integer` compute with integers without bounds and reduce the result modulo `2⁶⁴`
into the signed range; a quotient is truncated first (`Number.toInt_of_intArithmetic?`).  A send of
an operator adds one object and changes nothing else, so operators can be put together to formulas
which end with the number that they come to (`State.Formula.ends`), and dividing and putting back
together gives the dividend (`Number.div_mul_add_rem`).
-/

namespace OpenScript

/-! ## Sixty-four bits -/

namespace Arithmetic

/-- What an operator makes of integers without bounds; a quotient is truncated. -/
def exact : Arithmetic → Int → Int → Int
  | .add, x, y => x + y
  | .sub, x, y => x - y
  | .mul, x, y => x * y
  | .div, x, y => x.tdiv y
  | .rem, x, y => x.tmod y

/-- The operators that need a divisor. -/
def Divides (op : Arithmetic) : Prop := op = .div ∨ op = .rem

end Arithmetic

namespace Number

variable {op : Arithmetic} {a b n : Int64}

theorem ite_eq_none_iff : (if b = 0 then none else some n) = none ↔ b = 0 := by
  by_cases hb : b = 0
  · exact iff_of_true (if_pos hb) hb
  · exact iff_of_false (fun h => nomatch (if_neg hb).symm.trans h) hb

theorem intArithmetic?_eq_none_iff : intArithmetic? op a b = none ↔ op.Divides ∧ b = 0 := by
  cases op with
  | add | sub | mul => exact iff_of_false nofun fun h => h.1.elim nofun nofun
  | div => exact ite_eq_none_iff.trans (and_iff_right (.inl rfl)).symm
  | rem => exact ite_eq_none_iff.trans (and_iff_right (.inr rfl)).symm

/-- **Arithmetic is exact up to a multiple of `2⁶⁴`**, and its results are in the signed range. -/
theorem toInt_of_intArithmetic? (h : intArithmetic? op a b = some n) :
    n.toInt = (op.exact a.toInt b.toInt).bmod (2 ^ 64) := by
  cases op with
  | add => obtain rfl := Option.some.inj h; exact Int64.toInt_add a b
  | sub => obtain rfl := Option.some.inj h; exact Int64.toInt_sub a b
  | mul => obtain rfl := Option.some.inj h; exact Int64.toInt_mul a b
  | div =>
    obtain ⟨-, e⟩ := Option.ite_none_left_eq_some.1 h
    obtain rfl := Option.some.inj e
    exact Int64.toInt_div a b
  | rem =>
    obtain ⟨-, e⟩ := Option.ite_none_left_eq_some.1 h
    obtain rfl := Option.some.inj e
    rw [Arithmetic.exact, ← Int64.toInt_mod]
    exact (Int64.toInt_bmod _).symm

/-- A remainder needs no reducing: it is smaller than the divisor and has the dividend's sign. -/
theorem exact_rem (a : Int64) (hb : b ≠ 0) :
    (Arithmetic.rem.exact a.toInt b.toInt).bmod (2 ^ 64) = Arithmetic.rem.exact a.toInt b.toInt ∧
    (Arithmetic.rem.exact a.toInt b.toInt).natAbs < b.toInt.natAbs ∧
    (Arithmetic.rem.exact a.toInt b.toInt ≠ 0 →
      (Arithmetic.rem.exact a.toInt b.toInt).sign = a.toInt.sign) := by
  have positive : 0 < b.toInt.natAbs :=
    Int.natAbs_pos.2 fun zero => hb (Int64.toInt_inj.1 (zero.trans Int64.toInt_zero.symm))
  refine ⟨?_, ?_, fun nonzero => ?_⟩
  · rw [Arithmetic.exact, ← Int64.toInt_mod]
    exact Int64.toInt_bmod _
  · rw [Arithmetic.exact, Int.natAbs_tmod]
    exact Nat.mod_lt _ positive
  · rw [Arithmetic.exact, Int.sign_tmod, if_neg fun divides => nonzero ?_]
    exact Int.tmod_eq_zero_of_dvd divides

/-- **Quotient times divisor plus remainder is the dividend**: reducing what comes in between
changes nothing modulo `2⁶⁴`, and the dividend is in range. -/
theorem div_mul_add_rem (a b : Int64) : a / b * b + a % b = a := by
  rw [← Int64.toInt_inj]
  calc (a / b * b + a % b).toInt
      = ((a.toInt.tdiv b.toInt).bmod (2 ^ 64) * b.toInt + a.toInt.tmod b.toInt).bmod (2 ^ 64) := by
        rw [Int64.toInt_add, Int64.toInt_mul, Int64.toInt_div, Int64.toInt_mod, Int.bmod_add_bmod]
    _ = (a.toInt.tdiv b.toInt * b.toInt + a.toInt.tmod b.toInt).bmod (2 ^ 64) := by
        rw [← Int.bmod_add_bmod, Int.bmod_mul_bmod, Int.bmod_add_bmod]
    _ = a.toInt := by
        rw [Int.tdiv_mul_add_tmod]
        exact Int64.toInt_bmod a

end Number

/-! ## Operators -/

namespace State

variable {s s' s₁ s₂ : State} {f : FrameId} {v w : Value} {a b n : Int64}

/-- The operators of `Integer` are its own: nobody has redefined them there. -/
def OperatorsStand (s : State) : Prop :=
  ∀ op : Arithmetic, (s.classAt Core.integer).methods[op.label]?.bind Method.native?
    = some (.builtin (.numberArithmetic op))

/-- Where no operator is defined by anyone, those of `Integer` are its own. -/
theorem AsFresh.operatorsStand (h : s.AsFresh ["+", "-", "*", "/", "%"]) : s.OperatorsStand := by
  intro op
  have listed : (Core.methodsOf Core.integer).reverse.lookup op.label
      = some (.numberArithmetic op) := by cases op <;> decide
  rw [(h op.label (by cases op <;> decide) Core.integer).1, getElem?_methods_initial, listed]
  rfl

/-- A value is an instance of `Integer` itself and boxes a number. -/
structure IsInteger (s : State) (v : Value) (n : Int64) : Prop where
  cls : s.classOf v = Core.integer
  int : s.int? v = some n

/-- What boxes an integer is an instance of `Integer`. -/
theorem Reachable.isInteger (h : s.Reachable) (hv : s.int? v = some n) : s.IsInteger v n :=
  ⟨h.classOf_eq_home (payload_of_int? hv) nofun, hv⟩

namespace IsInteger

theorem payload (h : s.IsInteger v n) : s.payload v = .int n := payload_of_int? h.int

theorem depth (h : s.IsInteger v n) (d : Nat) : State.IsInteger { s with depth := d } v n where
  cls := ((s.alike_depth d).classOf v).trans h.cls
  int := by rw [int?, payload_depth, h.payload]

theorem ne_nil (h : s.IsInteger v n) : v ≠ .nil := by
  rintro rfl
  cases h.int

/-- An integer answers operators with those of `Integer`. -/
theorem nativeOf? (h : s.IsInteger v n) (stand : s.OperatorsStand) (op : Arithmetic) :
    s.nativeOf? v op.label = some (.builtin (.numberArithmetic op)) := by
  obtain ⟨m, hm, native⟩ := Option.bind_eq_some_iff.1 (stand op)
  have found : s.methodOf? v op.label = some (Core.integer, m) := by
    cases v with
    | nil | cls c => cases h.int
    | object o =>
      change s.findMethod? (s.classOf _) _ = _
      rw [h.cls, findMethod?, ancestors, List.findSome?_cons, hm]
      rfl
  rw [State.nativeOf?, found]
  exact native

end IsInteger

/-- A fresh integer. -/
def addInteger (s : State) (n : Int64) : Value × State := s.box Core.integer (.int n)

theorem run_numberArithmetic (op : Arithmetic) (hv : s.IsInteger v a) (hw : s.IsInteger w b)
    (caller : FrameId) :
    Builtin.run v [w] caller (.numberArithmetic op) s =
      match Number.intArithmetic? op a b with
      | some n => .done (.ok (s.addInteger n).1) (s.addInteger n).2
      | none => .done (.error .dividedByZero) s := by
  have left : Number.ofPayload? (s.payload v) = some (.int a) := by rw [hv.payload]; rfl
  have right : Number.ofPayload? (s.payload w) = some (.int b) := by rw [hw.payload]; rfl
  have argument : Eval.onlyArgument op.label [w] s = .done (.ok w) s := rfl
  rw [Builtin.run, Eval.bind_of_done argument, Eval.bind_of_done (Eval.theNumber_of_some left),
    Eval.bind_of_done (Eval.theNumber_of_some right), Number.arithmetic?]
  cases Number.intArithmetic? op a b <;> rfl

/-- **A send of an operator adds the number that comes of it**, or the division by zero fails; there
is nothing else it can do. -/
theorem ends_send_operator (op : Arithmetic) (stand : s.OperatorsStand) (left : s.depth < s.limit)
    (hv : s.IsInteger v a) (hw : s.IsInteger w b) {caller : FrameId} {out : Outcome Value} :
    (Eval.send v op.label [w] caller).Ends s out s' ↔
      match Number.intArithmetic? op a b with
      | some n => out = .ok (s.addInteger n).1 ∧ s' = (s.addInteger n).2
      | none => out = .error .dividedByZero ∧ s' = s := by
  have run := run_numberArithmetic op (hv.depth (s.depth + 1)) (hw.depth (s.depth + 1)) caller
  have found := hv.nativeOf? stand op
  cases hn : Number.intArithmetic? op a b with
  | some n =>
    rw [hn] at run
    exact Eval.ends_send_of_done found left run
  | none =>
    rw [hn] at run
    exact Eval.ends_send_of_done found left run

/-! ## States with further integers -/

/-- A state in which integers have been added to another, and nothing else has happened. -/
inductive Boxing (s : State) : State → Prop where
  | refl : Boxing s s
  | add {s' : State} (h : Boxing s s') (n : Int64) : Boxing s (s'.addInteger n).2

theorem objectAt_addInteger_of_lt {o : ObjectId} (ho : o < s.objects.size) (n : Int64) :
    (s.addInteger n).2.objectAt o = s.objectAt o := s.objectAt_addObject_of_lt ho _

theorem objectAt_addInteger_size (s : State) (n : Int64) :
    (s.addInteger n).2.objectAt s.objects.size = { cls := Core.integer, payload := .int n } :=
  s.objectAt_addObject_size _

theorem objectAt_of_le {o : ObjectId} (ho : s.objects.size ≤ o) : s.objectAt o = default := by
  rw [objectAt, Array.getElem?_eq_none ho]
  rfl

/-- A fresh integer has no instance variables. -/
theorem ivar?_addInteger (v : Value) (key : String) :
    (s.addInteger n).2.ivar? v key = s.ivar? v key := by
  cases v with
  | nil | cls c => rfl
  | object o =>
    have kept : ((s.addInteger n).2.objectAt o).ivars = (s.objectAt o).ivars := by
      rcases Nat.lt_trichotomy o s.objects.size with there | rfl | past
      · rw [objectAt_addInteger_of_lt there]
      · rw [objectAt_addInteger_size, objectAt_of_le (Nat.le_refl _)]
        rfl
      · rw [objectAt_of_le (Nat.le_of_lt past), objectAt_of_le]
        rw [addInteger, box, addObject, Array.size_push]
        exact past
    exact congrArg (·[key]?) kept

theorem get_addInteger (f : FrameId) (name : String) :
    (s.addInteger n).2.get f name = s.get f name := by
  have same : (s.addInteger n).2.frames = s.frames := rfl
  have own (g : FrameId) : (s.addInteger n).2.lookupOwn g name = s.lookupOwn g name := by
    simp only [lookupOwn, local?, nearest?_eq, closureChain_of_grow (framesGrow_of_eq same _),
      ivarOwner_of_grow (framesGrow_of_eq same _), ivar?_addInteger]
    rfl
  rw [get, get, lookup, lookup, seek?_eq, seek?_eq, searchPath_of_grow (framesGrow_of_eq same _)]
  simp only [own]

theorem isInteger_of_objectAt {o : ObjectId} {x : Object} (h : s.objectAt o = x)
    (cls : x.cls = Core.integer) (datum : x.payload = .int n) : s.IsInteger (.object o) n := by
  have payload : s.payload (.object o) = .int n := (congrArg Object.payload h).trans datum
  exact ⟨(congrArg Object.cls h).trans cls, by rw [int?, payload]⟩

theorem isInteger_addInteger (s : State) (n : Int64) :
    (s.addInteger n).2.IsInteger (s.addInteger n).1 n :=
  isInteger_of_objectAt (s.objectAt_addInteger_size n) rfl rfl

theorem IsInteger.addInteger (h : s.IsInteger v a) (n : Int64) :
    (s.addInteger n).2.IsInteger v a := by
  cases v with
  | nil | cls c => cases h.int
  | object o =>
    have there : o < s.objects.size := by
      refine Nat.lt_of_not_le fun past => ?_
      have cls : (s.objectAt o).cls = Core.integer := h.cls
      rw [objectAt_of_le past] at cls
      cases cls
    exact isInteger_of_objectAt (objectAt_addInteger_of_lt there n) h.cls h.payload

namespace Boxing

theorem trans (h : s.Boxing s₁) (h' : s₁.Boxing s₂) : s.Boxing s₂ := by
  induction h' with
  | refl => exact h
  | add _ n ih => exact ih.add n

theorem depth_lt (h : s.Boxing s') (left : s.depth < s.limit) : s'.depth < s'.limit := by
  induction h with
  | refl => exact left
  | add _ _ ih => exact ih

theorem operatorsStand (h : s.Boxing s') (stand : s.OperatorsStand) : s'.OperatorsStand := by
  induction h with
  | refl => exact stand
  | add _ _ ih => exact ih

theorem isInteger (h : s.Boxing s') (hv : s.IsInteger v a) : s'.IsInteger v a := by
  induction h with
  | refl => exact hv
  | add _ n ih => exact ih.addInteger n

theorem get (h : s.Boxing s') (f : FrameId) (name : String) : s'.get f name = s.get f name := by
  induction h with
  | refl => rfl
  | add _ n ih => exact (get_addInteger f name).trans ih

end Boxing

end State

/-! ## Formulas -/

namespace Eval

variable {s s' s₁ s₂ : State} {f : FrameId} {x name : String} {l r : Node} {v w : Value}
  {e : RuntimeError} {flow : Outcome Flow}

/-- A name that stands for something is read. -/
theorem ends_getLocal_iff (h : s.get f x ≠ .nil) :
    (node (.getLocal x) f).Ends s flow s' ↔ flow = .ok (.normal (s.get f x)) ∧ s' = s := by
  let self := (s.frameAt f).self
  have bound : ¬(s.get f x == .nil && s.respondsTo self x) = true := by
    rw [beq_eq_false_iff_ne.2 h]
    exact Bool.false_ne_true
  have read : (if (s.get f x == .nil && s.respondsTo self x) = true then send self x [] f
      else Pure.pure (s.get f x)) s = .done (.ok (s.get f x)) s := by
    rw [if_neg bound]
    rfl
  have performed : performNode f (.getLocal x) s = .done (.ok (.normal (s.get f x))) s :=
    bind_of_done read
  rw [ends_node_iff]
  exact ends_of_done performed

/-- Calls a method with one argument. -/
def callWith (f : FrameId) (l : Node) (name : String) (r : Node) : Eval Value := do
  let v ← value l f
  let w ← value r f
  send v name [w] f

theorem performNode_callWith :
    performNode f (.call (some l) name [r]) = normal (callWith f l name r) := by
  change normal (value l f >>= fun v =>
    (value r f >>= fun w => Pure.pure [w]) >>= fun vs => send v name vs f) = _
  simp only [bind_assoc]
  rfl

theorem ends_callWith_of_ends (hl : (node l f).Ends s (.ok (.normal v)) s₁)
    (hr : (node r f).Ends s₁ (.ok (.normal w)) s₂) {out : Outcome Value}
    (h : (send v name [w] f).Ends s₂ out s') :
    (node (.call (some l) name [r]) f).Ends s (out.map Flow.normal) s' := by
  have left : (value l f).Ends s (.ok v) s₁ := ends_value_iff.2 ⟨_, hl, rfl⟩
  have right : (value r f).Ends s₁ (.ok w) s₂ := ends_value_iff.2 ⟨_, hr, rfl⟩
  rw [ends_node_iff, performNode_callWith, ends_normal_iff]
  refine ⟨out, ?_, rfl⟩
  rw [callWith, ends_bind_of_ends left, ends_bind_of_ends right]
  exact h

theorem ends_callWith_of_left (hl : (node l f).Ends s (.error e) s') :
    (node (.call (some l) name [r]) f).Ends s (.error e) s' := by
  have left : (value l f).Ends s (.error e) s' := ends_value_iff.2 ⟨_, hl, rfl⟩
  rw [ends_node_iff, performNode_callWith, ends_normal_iff]
  exact ⟨.error e, (ends_bind_of_fails left).2 ⟨rfl, rfl⟩, rfl⟩

theorem ends_callWith_of_right (hl : (node l f).Ends s (.ok (.normal v)) s₁)
    (hr : (node r f).Ends s₁ (.error e) s') :
    (node (.call (some l) name [r]) f).Ends s (.error e) s' := by
  have left : (value l f).Ends s (.ok v) s₁ := ends_value_iff.2 ⟨_, hl, rfl⟩
  have right : (value r f).Ends s₁ (.error e) s' := ends_value_iff.2 ⟨_, hr, rfl⟩
  rw [ends_node_iff, performNode_callWith, ends_normal_iff]
  refine ⟨.error e, ?_, rfl⟩
  rw [callWith, ends_bind_of_ends left, ends_bind_of_fails right]
  exact ⟨rfl, rfl⟩

end Eval

namespace State

variable {s s' s₁ : State} {f : FrameId} {n l r : Node} {a b : Int64}

/-- Arithmetic on integers that are written down or have names in a frame, with the number that it
comes to, or without one where it divides by zero. -/
inductive Formula (s : State) (f : FrameId) : Node → Option Int64 → Prop where
  | literal (a : Int64) : Formula s f (.int a) (some a)
  | name {x : String} {a : Int64} (h : s.IsInteger (s.get f x) a) :
    Formula s f (.getLocal x) (some a)
  | operation (op : Arithmetic) {l r : Node} {x y : Option Int64} (hl : Formula s f l x)
    (hr : Formula s f r y) :
    Formula s f (.call (some l) op.label [r])
      (x.bind fun a => y.bind fun b => Number.intArithmetic? op a b)

/-- A node ends with an integer, or by dividing by zero. -/
def EndsAs (n : Node) (f : FrameId) (s : State) : Option Int64 → State → Prop
  | some a, s' => ∃ v, (Eval.node n f).Ends s (.ok (.normal v)) s' ∧ s'.IsInteger v a
  | none, s' => (Eval.node n f).Ends s (.error .dividedByZero) s'

/-- An operation on two integers. -/
theorem exists_endsAs_operation (stand : s.OperatorsStand) (left : s.depth < s.limit)
    (op : Arithmetic) {s₂ : State} {v w : Value}
    (hl : (Eval.node l f).Ends s₁ (.ok (.normal v)) s₂)
    (hr : (Eval.node r f).Ends s₂ (.ok (.normal w)) s) (hv : s.IsInteger v a)
    (hw : s.IsInteger w b) :
    ∃ s', s.Boxing s' ∧
      EndsAs (.call (some l) op.label [r]) f s₁ (Number.intArithmetic? op a b) s' := by
  have send {out : Outcome Value} {s' : State} :
      (Eval.send v op.label [w] f).Ends s out s' ↔ _ := ends_send_operator op stand left hv hw
  cases hn : Number.intArithmetic? op a b with
  | some n =>
    rw [hn] at send
    exact ⟨_, .add .refl n, _, Eval.ends_callWith_of_ends hl hr (send.2 ⟨rfl, rfl⟩),
      s.isInteger_addInteger n⟩
  | none =>
    rw [hn] at send
    exact ⟨s, .refl, Eval.ends_callWith_of_ends hl hr (send.2 ⟨rfl, rfl⟩)⟩

/-- **A formula ends with the number that it comes to**, or divides by zero where it has none, and
does nothing but adding integers. -/
theorem Formula.ends {x : Option Int64} (h : s.Formula f n x) (stand : s.OperatorsStand)
    (left : s.depth < s.limit) (h₁ : s.Boxing s₁) : ∃ s', s₁.Boxing s' ∧ EndsAs n f s₁ x s' := by
  induction h generalizing s₁ with
  | literal a =>
    have made : (Eval.node (.int a) f).Ends s₁ (.ok (.normal (s₁.addInteger a).1))
        (s₁.addInteger a).2 := Eval.ends_node_iff.2 ((Eval.ends_of_done rfl).2 ⟨rfl, rfl⟩)
    exact ⟨_, .add .refl a, _, made, s₁.isInteger_addInteger a⟩
  | @name x a h =>
    have there : s₁.IsInteger (s₁.get f x) a := h₁.get f x ▸ h₁.isInteger h
    exact ⟨s₁, .refl, _, (Eval.ends_getLocal_iff there.ne_nil).2 ⟨rfl, rfl⟩, there⟩
  | @operation op l r x y _ _ ihl ihr =>
    obtain ⟨s₂, b₂, endsLeft⟩ := ihl h₁
    cases x with
    | none => exact ⟨s₂, b₂, Eval.ends_callWith_of_left endsLeft⟩
    | some a =>
      obtain ⟨v, hl, hv⟩ := endsLeft
      obtain ⟨s₃, b₃, endsRight⟩ := ihr (h₁.trans b₂)
      cases y with
      | none => exact ⟨s₃, b₂.trans b₃, Eval.ends_callWith_of_right hl endsRight⟩
      | some b =>
        obtain ⟨w, hr, hw⟩ := endsRight
        have all : s.Boxing s₃ := (h₁.trans b₂).trans b₃
        obtain ⟨s', b', ends⟩ := exists_endsAs_operation (all.operatorsStand stand)
          (all.depth_lt left) op hl hr (b₃.isInteger hv) hw
        exact ⟨s', (b₂.trans b₃).trans b', ends⟩

/-! ## Operands -/

/-- The quotient of two nodes, times the second, plus the remainder. -/
def recomposed (l r : Node) : Node :=
  .call (some (.call (some (.call (some l) "/" [r])) "*" [r])) "+" [.call (some l) "%" [r]]

theorem Formula.operation_of_eq (op : Arithmetic) {n : Int64} (hl : s.Formula f l (some a))
    (hr : s.Formula f r (some b)) (h : Number.intArithmetic? op a b = some n) :
    s.Formula f (.call (some l) op.label [r]) (some n) :=
  h ▸ (Formula.operation op hl hr :
    s.Formula f (.call (some l) op.label [r]) (Number.intArithmetic? op a b))

/-- **What is divided and put together again is what it was.** -/
theorem Formula.recomposed (hl : s.Formula f l (some a)) (hr : s.Formula f r (some b))
    (hb : b ≠ 0) : s.Formula f (State.recomposed l r) (some a) := by
  have quotient := Formula.operation_of_eq .div hl hr (if_neg hb)
  have remainder := Formula.operation_of_eq .rem hl hr (if_neg hb)
  have product := Formula.operation_of_eq .mul quotient hr rfl
  have sum := Formula.operation_of_eq .add product remainder rfl
  rwa [Number.div_mul_add_rem] at sum

/-- **Arithmetic on integers is that of two's complement**, for all pairs of them.  Where `Integer`
has its own operators and a level is left, an operator adds the integer that is the exact result up
to a multiple of `2⁶⁴`, or fails for a division by zero, and there is no other way to end.  A
remainder is exact, smaller than the divisor and has the sign of the dividend.  Whatever formulas
two integers come from, dividing and putting together again gives the dividend. -/
theorem Reachable.integer_arithmetic (h : s.Reachable) (stand : s.OperatorsStand)
    (left : s.depth < s.limit) {v w : Value} (hv : s.int? v = some a) (hw : s.int? w = some b) :
    (∀ (op : Arithmetic) caller, ¬(op.Divides ∧ b = 0) → ∃ n : Int64,
      n.toInt = (op.exact a.toInt b.toInt).bmod (2 ^ 64) ∧
      ∀ out s', (Eval.send v op.label [w] caller).Ends s out s' ↔
        out = .ok (s.addInteger n).1 ∧ s' = (s.addInteger n).2) ∧
    (∀ (op : Arithmetic) caller, op.Divides → b = 0 → ∀ out s',
      (Eval.send v op.label [w] caller).Ends s out s' ↔
        out = .error .dividedByZero ∧ s' = s) ∧
    RuntimeError.dividedByZero.kind = .argument ∧
    (b ≠ 0 →
      (Arithmetic.rem.exact a.toInt b.toInt).bmod (2 ^ 64)
        = Arithmetic.rem.exact a.toInt b.toInt ∧
      (Arithmetic.rem.exact a.toInt b.toInt).natAbs < b.toInt.natAbs ∧
      (Arithmetic.rem.exact a.toInt b.toInt ≠ 0 →
        (Arithmetic.rem.exact a.toInt b.toInt).sign = a.toInt.sign)) ∧
    ∀ f l r, s.Formula f l (some a) → s.Formula f r (some b) → b ≠ 0 →
      ∃ u s', s'.int? u = some a ∧ ∀ flow s'',
        (Eval.node (recomposed l r) f).Ends s flow s'' ↔ flow = .ok (.normal u) ∧ s'' = s' := by
  have integer : s.IsInteger v a := h.isInteger hv
  have argument : s.IsInteger w b := h.isInteger hw
  refine ⟨fun op caller there => ?_, fun op caller divides zero out s' => ?_, rfl,
    Number.exact_rem a, fun f l r hl hr hb => ?_⟩
  · obtain ⟨n, hn⟩ := Option.ne_none_iff_exists'.1 (mt Number.intArithmetic?_eq_none_iff.1 there)
    refine ⟨n, Number.toInt_of_intArithmetic? hn, fun out s' => ?_⟩
    rw [ends_send_operator op stand left integer argument, hn]
  · have none : Number.intArithmetic? op a b = none :=
      Number.intArithmetic?_eq_none_iff.2 ⟨divides, zero⟩
    rw [ends_send_operator op stand left integer argument, none]
  · obtain ⟨s', -, u, ends, hu⟩ := (hl.recomposed hr hb).ends stand left .refl
    exact ⟨u, s', hu.int, fun _ _ => ends.iff_eq⟩

/-- The least integer and minus one. -/
def extremes : Program := [.setLocal "x" (.int Int64.minValue), .setLocal "y" (.int (-1))]

/-- The least integer divided by minus one is itself and leaves nothing. -/
theorem integer_arithmetic_extremes : ∃ (s : State) (v w : Value), s.Reachable ∧ s.OperatorsStand ∧
    s.depth < s.limit ∧ s.int? v = some Int64.minValue ∧ s.int? w = some (-1) ∧
    (Eval.send v "/" [w] Core.root).Ends s (.ok (s.addInteger Int64.minValue).1)
      (s.addInteger Int64.minValue).2 ∧
    (Eval.send v "%" [w] Core.root).Ends s (.ok (s.addInteger 0).1) (s.addInteger 0).2 ∧
    ∃ u s', (Eval.node (recomposed (.getLocal "x") (.getLocal "y")) Core.root).Ends s
      (.ok (.normal u)) s' ∧ s'.int? u = some Int64.minValue := by
  let seen (s : State) : Bool := decide (s.depth < s.limit ∧
    s.int? (s.get Core.root "x") = some Int64.minValue ∧ s.int? (s.get Core.root "y") = some (-1))
  obtain ⟨s, reached, ok⟩ := exists_reachedSparing_of_run ["+", "-", "*", "/", "%"] 5 100 extremes
    seen (by decide +kernel) (by decide +kernel)
  obtain ⟨left, hx, hy⟩ := of_decide_eq_true ok
  have h : s.Reachable := reached.reachedBy.reachable
  have stand := reached.asFresh.operatorsStand
  obtain ⟨results, -, -, -, formulas⟩ := h.integer_arithmetic stand left hx hy
  obtain ⟨q, hq, quotient⟩ := results .div Core.root (fun zero => absurd zero.2 (by decide))
  obtain ⟨m, hm, remainder⟩ := results .rem Core.root (fun zero => absurd zero.2 (by decide))
  obtain rfl : q = Int64.minValue := Int64.toInt_inj.1 (hq.trans (by decide))
  obtain rfl : m = 0 := Int64.toInt_inj.1 (hm.trans (by decide))
  obtain ⟨u, s', hu, ends⟩ := formulas Core.root _ _ (.name (h.isInteger hx))
    (.name (h.isInteger hy)) (by decide)
  exact ⟨s, _, _, h, stand, left, hx, hy, (quotient _ _).2 ⟨rfl, rfl⟩,
    (remainder _ _).2 ⟨rfl, rfl⟩, u, s', (ends _ _).2 ⟨rfl, rfl⟩, hu⟩

end State

end OpenScript
