import OpenScript.Program

/-!
# Proofs/Code — nodes and the nodes in them

What holds of a node and of all nodes in it, down to the bodies of methods and lambdas, is said once
for all such properties (`Node.Everywhere`).
-/

namespace OpenScript.Node

/-- The nodes that a node is made of. -/
def parts : Node → List Node
  | .setLocal _ n | .setConstant _ n | .setGlobal _ n | .setClassVar _ n | .setInstanceVar _ n
  | .not n => [n]
  | .call receiver _ ns => receiver.toList ++ ns
  | .super given => given.getD []
  | .defineClass _ _ body | .defineMethod _ _ body | .lambda _ body | .block body
  | .inNamespace _ body => body
  | .ifElse condition body otherwise => condition :: (body ++ otherwise.toList)
  | .whileLoop condition body => condition :: body
  | .return value => value.toList
  | .and left right | .or left right => [left, right]
  | _ => []

/-- A part is smaller than the whole. -/
theorem sizeOf_lt_of_mem_parts {m n : Node} (h : m ∈ n.parts) : sizeOf m < sizeOf n := by
  have inList {ns : List Node} (h : m ∈ ns) : sizeOf m < sizeOf ns := List.sizeOf_lt_of_mem h
  have inOption {o : Option Node} (h : m ∈ o.toList) : sizeOf m < sizeOf o := by
    obtain rfl := Option.mem_toList.1 h
    exact Nat.lt_add_of_pos_left Nat.one_pos
  cases n with
  | setLocal _ v | setConstant _ v | setGlobal _ v | setClassVar _ v | setInstanceVar _ v =>
    obtain rfl : m = v := List.mem_singleton.1 h
    simp only [setLocal.sizeOf_spec, setConstant.sizeOf_spec, setGlobal.sizeOf_spec,
      setClassVar.sizeOf_spec, setInstanceVar.sizeOf_spec]
    omega
  | not v =>
    obtain rfl : m = v := List.mem_singleton.1 h
    rw [not.sizeOf_spec]
    omega
  | defineClass _ _ ns | defineMethod _ _ ns | lambda _ ns | block ns | inNamespace _ ns =>
    have : sizeOf m < sizeOf ns := inList h
    simp only [defineClass.sizeOf_spec, defineMethod.sizeOf_spec, lambda.sizeOf_spec,
      block.sizeOf_spec, inNamespace.sizeOf_spec]
    omega
  | call receiver _ ns =>
    rw [call.sizeOf_spec]
    rcases List.mem_append.1 h with h | h
    · have : sizeOf m < sizeOf receiver := inOption h
      omega
    · have : sizeOf m < sizeOf ns := inList h
      omega
  | super given =>
    rw [super.sizeOf_spec]
    cases given with
    | none => exact absurd h List.not_mem_nil
    | some ns =>
      have : sizeOf m < sizeOf ns := inList h
      rw [Option.some.sizeOf_spec]
      omega
  | ifElse condition ns otherwise =>
    rw [ifElse.sizeOf_spec]
    rcases List.mem_cons.1 h with rfl | h
    · omega
    rcases List.mem_append.1 h with h | h
    · have : sizeOf m < sizeOf ns := inList h
      omega
    · have : sizeOf m < sizeOf otherwise := inOption h
      omega
  | whileLoop condition ns =>
    rw [whileLoop.sizeOf_spec]
    rcases List.mem_cons.1 h with rfl | h
    · omega
    · have : sizeOf m < sizeOf ns := inList h
      omega
  | «return» value =>
    have : sizeOf m < sizeOf value := inOption h
    rw [return.sizeOf_spec]
    omega
  | and left right | or left right =>
    simp only [and.sizeOf_spec, or.sizeOf_spec]
    rcases List.mem_cons.1 h with rfl | h
    · omega
    · obtain rfl : m = right := List.mem_singleton.1 h
      omega
  | _ => exact absurd h List.not_mem_nil

/-- What a node inherits from the nodes it is made of holds of all nodes. -/
theorem parts_induction {motive : Node → Prop}
    (step : ∀ n : Node, (∀ m ∈ n.parts, motive m) → motive n) (n : Node) : motive n :=
  step n fun m _ => parts_induction step m
termination_by sizeOf n
decreasing_by exact sizeOf_lt_of_mem_parts ‹_›

/-- A property of a node and of all nodes in it. -/
inductive Everywhere (p : Node → Prop) : Node → Prop where
  | intro {n : Node} (h : p n) (hs : ∀ m ∈ n.parts, Everywhere p m) : Everywhere p n

variable {p : Node → Prop} {n : Node}

theorem everywhere_iff : n.Everywhere p ↔ p n ∧ ∀ m ∈ n.parts, m.Everywhere p :=
  ⟨fun ⟨h, hs⟩ => ⟨h, hs⟩, fun h => ⟨h.1, h.2⟩⟩

theorem Everywhere.self (h : n.Everywhere p) : p n := (everywhere_iff.1 h).1

theorem Everywhere.part (h : n.Everywhere p) {m : Node} (hm : m ∈ n.parts) : m.Everywhere p :=
  (everywhere_iff.1 h).2 m hm

/-- Whether a property holds of a node and of all nodes in it, and these are nested less deep than
the given depth. -/
def holdsTo (p : Node → Prop) [DecidablePred p] : (depth : Nat) → Node → Bool
  | 0, _ => Bool.false
  | depth + 1, n => decide (p n) && n.parts.all (holdsTo p depth)

theorem everywhere_of_holdsTo [DecidablePred p] {depth : Nat} (h : n.holdsTo p depth) :
    n.Everywhere p := by
  induction depth generalizing n with
  | zero => exact absurd h Bool.false_ne_true
  | succ depth ih =>
    obtain ⟨hn, hs⟩ := Bool.and_eq_true_iff.1 h
    exact ⟨of_decide_eq_true hn, fun m hm => ih (List.all_eq_true.1 hs m hm)⟩

end OpenScript.Node
