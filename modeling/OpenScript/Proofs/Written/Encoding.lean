import OpenScript.Program.Encode
import OpenScript.Proofs.Code
import OpenScript.Proofs.Written.Value

/-!
# Proofs/Written/Encoding — the JSON of programs: how deep it nests, and that it can be written

    node ──encode──▸ { tag : payload }      one deeper than the payload
    payload = { field : …, … }              one deeper than the deepest field

How deep JSON nests is compared with a bound one array or object at a time
(`Json.nesting_array_le`, `Json.nesting_record_le`), which is how a decoder spends its budget.  The
numbers in the JSON of a program keep to the number syntax (`Node.valid_encode`), so all of it reads
back from its text.
-/

namespace OpenScript

namespace Json

mutual

/-- How many arrays and objects are open at once at the deepest place of a value. -/
def nesting : Json → Nat
  | .array items => itemsNesting items + 1
  | .object fields => fieldsNesting fields + 1
  | _ => 0

/-- The deepest nesting of the items of an array. -/
def itemsNesting : List Json → Nat
  | [] => 0
  | j :: js => max j.nesting (itemsNesting js)

/-- The deepest nesting of the fields of an object. -/
def fieldsNesting : List (Option String × Json) → Nat
  | [] => 0
  | (_, j) :: fs => max j.nesting (fieldsNesting fs)

end

variable {k : Nat}

theorem itemsNesting_le {items : List Json} :
    itemsNesting items ≤ k ↔ ∀ j ∈ items, j.nesting ≤ k := by
  induction items with
  | nil => simp [itemsNesting]
  | cons j js ih => rw [itemsNesting, Nat.max_le, ih, List.forall_mem_cons]

theorem fieldsNesting_le {fields : List (Option String × Json)} :
    fieldsNesting fields ≤ k ↔ ∀ f ∈ fields, f.2.nesting ≤ k := by
  induction fields with
  | nil => simp [fieldsNesting]
  | cons f fs ih => rw [fieldsNesting, Nat.max_le, ih, List.forall_mem_cons]

@[simp] theorem nesting_null : Json.null.nesting = 0 := rfl

@[simp] theorem nesting_number (l : Decimal.Literal) : (Json.number l).nesting = 0 := rfl

@[simp] theorem nesting_text (s : String) : (text s).nesting = 0 := rfl

theorem nesting_array_le {items : List Json} :
    (array items).nesting ≤ k ↔ 0 < k ∧ ∀ j ∈ items, j.nesting ≤ k - 1 := by
  rw [nesting, ← itemsNesting_le]
  omega

theorem nesting_object_le {fields : List (Option String × Json)} :
    (object fields).nesting ≤ k ↔ 0 < k ∧ ∀ f ∈ fields, f.2.nesting ≤ k - 1 := by
  rw [nesting, ← fieldsNesting_le]
  omega

theorem nesting_record_le {fields : List (String × Json)} :
    (record fields).nesting ≤ k ↔ 0 < k ∧ ∀ f ∈ fields, f.2.nesting ≤ k - 1 := by
  rw [record, nesting_object_le, List.forall_mem_map]

theorem valid_record {fields : List (String × Json)} (h : ∀ f ∈ fields, f.2.Valid) :
    (record fields).Valid := by
  refine .object fun f hf => ?_
  obtain ⟨g, hg, rfl⟩ := List.mem_map.1 hf
  exact h g hg

end Json

namespace Node

/-- The double that a node stands for. -/
def double? : Node → Option Float
  | .float x => some x
  | _ => none

/-- A property of the double that a node stands for, if it does. -/
def OfDouble (q : Float → Prop) (n : Node) : Prop := ∀ x ∈ n.double?, q x

instance {q : Float → Prop} [DecidablePred q] : DecidablePred (OfDouble q) :=
  fun n => inferInstanceAs (Decidable (∀ x ∈ n.double?, q x))

/-- A property of all doubles in a node. -/
def EveryDouble (q : Float → Prop) (n : Node) : Prop := n.Everywhere (OfDouble q)

theorem EveryDouble.mp {q r : Float → Prop} {n : Node} (hq : n.EveryDouble q)
    (hr : n.EveryDouble fun x => q x → r x) : n.EveryDouble r := by
  induction n using parts_induction with
  | _ n ih =>
  exact ⟨fun x hx => hr.self x hx (hq.self x hx), fun m hm => ih m hm (hq.part hm) (hr.part hm)⟩

variable {number : Float → Json} {k : Nat}

theorem encodeList_eq_map (ns : List Node) : encodeList number ns = ns.map (encodeWith number) := by
  induction ns with
  | nil => rfl
  | cons n ns ih => rw [encodeList, ih, List.map_cons]

/-! ## How deep the JSON of a node nests -/

theorem nesting_tagged_le {tag : String} {payload : Json} :
    (tagged tag payload).nesting ≤ k ↔ 0 < k ∧ payload.nesting ≤ k - 1 := by
  rw [tagged, Json.nesting_record_le, List.forall_mem_singleton]

theorem nesting_encodeList_le {ns : List Node} :
    (Json.array (encodeList number ns)).nesting ≤ k
      ↔ 0 < k ∧ ∀ n ∈ ns, (n.encodeWith number).nesting ≤ k - 1 := by
  rw [Json.nesting_array_le, encodeList_eq_map, List.forall_mem_map]

theorem nesting_encodeOption_le {o : Option Node} :
    (encodeOption number o).nesting ≤ k ↔ ∀ n ∈ o, (n.encodeWith number).nesting ≤ k := by
  cases o with
  | none => simp [encodeOption]
  | some n => simp [encodeOption]

theorem nesting_namesJson_le (names : List String) : (namesJson names).nesting ≤ k ↔ 0 < k := by
  simp [namesJson, Json.nesting_array_le]

theorem nesting_optionalName (name : Option String) : (optionalName name).nesting = 0 := by
  cases name <;> rfl

/-! ## The JSON of a node can be written -/

theorem valid_text (s : String) : (Json.text s).Valid := .string _

theorem valid_namesJson (names : List String) : (namesJson names).Valid :=
  .array (List.forall_mem_map.2 fun _ _ => valid_text _)

theorem valid_optionalName (name : Option String) : (optionalName name).Valid := by
  cases name with
  | none => exact .null
  | some s => exact valid_text s

theorem valid_tagged (tag : String) {payload : Json} (h : payload.Valid) :
    (tagged tag payload).Valid := Json.valid_record (List.forall_mem_singleton.2 h)

theorem valid_encodeList {ns : List Node} (h : ∀ n ∈ ns, (n.encodeWith number).Valid) :
    (Json.array (encodeList number ns)).Valid := by
  rw [encodeList_eq_map]
  exact .array (List.forall_mem_map.2 h)

theorem valid_encodeOption {o : Option Node} (h : ∀ n ∈ o, (n.encodeWith number).Valid) :
    (encodeOption number o).Valid := by
  cases o with
  | none => exact .null
  | some n => exact h n rfl

/-- **The JSON of a node can be written**, if that of doubles can. -/
theorem valid_encodeWith (hn : ∀ x, (number x).Valid) (n : Node) : (n.encodeWith number).Valid := by
  induction n using parts_induction with
  | _ n ih =>
  have payload {tag : String} {fields : List (String × Json)} (h : ∀ f ∈ fields, f.2.Valid) :
      (tagged tag (.record fields)).Valid := valid_tagged tag (Json.valid_record h)
  have list (ns : List Node) (h : ∀ m ∈ ns, m ∈ n.parts) :
      (Json.array (encodeList number ns)).Valid := valid_encodeList fun m hm => ih m (h m hm)
  have option (o : Option Node) (h : ∀ m ∈ o.toList, m ∈ n.parts) :
      (encodeOption number o).Valid :=
    valid_encodeOption fun m hm => ih m (h m (Option.mem_toList.2 hm))
  cases n with
  | int n => exact valid_tagged _ (.number (Decimal.Literal.valid_ofInt _))
  | float x => exact valid_tagged _ (hn x)
  | text | symbol | getLocal | getConstant | getGlobal | getClassVar | getInstanceVar =>
    exact valid_tagged _ (valid_text _)
  | true | false | nil | self | next => exact valid_text _
  | setLocal | setConstant | setGlobal | setClassVar | setInstanceVar =>
    have value := ih _ List.mem_cons_self
    exact payload (by simp [valid_text, value])
  | not => exact valid_tagged _ (ih _ List.mem_cons_self)
  | property => exact payload (by simp [valid_namesJson])
  | getFromNamespace => exact payload (by simp [valid_text])
  | call receiver method arguments =>
    have first := option receiver fun _ => List.mem_append_left _
    have others := list arguments fun _ => List.mem_append_right _
    exact payload (by simp [valid_text, first, others])
  | super given =>
    cases given with
    | none => exact payload (by simp [Json.Valid.null])
    | some ns =>
      have all := list ns fun _ => id
      exact payload (by simp [all])
  | defineClass name parent body =>
    have all := list body fun _ => id
    exact payload (by simp [valid_text, valid_optionalName, all])
  | defineMethod name params body | lambda params body =>
    have all := list body fun _ => id
    exact payload (by simp [valid_text, valid_namesJson, all])
  | inNamespace name body =>
    have all := list body fun _ => id
    exact payload (by simp [valid_text, all])
  | block body => exact valid_tagged _ (list body fun _ => id)
  | ifElse condition body otherwise =>
    have first := ih condition List.mem_cons_self
    have all := list body fun _ hm => List.mem_cons_of_mem _ (List.mem_append_left _ hm)
    have last := option otherwise fun _ hm =>
      List.mem_cons_of_mem _ (List.mem_append_right _ hm)
    exact payload (by simp [first, all, last])
  | whileLoop condition body =>
    have first := ih condition List.mem_cons_self
    have all := list body fun _ => List.mem_cons_of_mem _
    exact payload (by simp [first, all])
  | «return» value => exact valid_tagged _ (option value fun _ => id)
  | and left right | or left right =>
    have first := ih left List.mem_cons_self
    have second := ih right (List.mem_cons_of_mem _ List.mem_cons_self)
    exact valid_tagged _ (.array (by simp [first, second]))

theorem valid_encode (n : Node) : n.encode.Valid :=
  valid_encodeWith (fun x => .number (Decimal.Layout.valid_literal _ x)) n

end Node

/-- **All of the JSON of a program reads back from its text.** -/
theorem Program.parse_render_encode (p : Program) : Json.parse p.render = some p.encode := by
  refine Json.parse_render_value ?_
  exact Node.valid_encodeList fun n _ => n.valid_encode

end OpenScript
