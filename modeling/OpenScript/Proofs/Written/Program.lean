import OpenScript.Program.Decode
import OpenScript.Proofs.Written.Encoding

/-!
# Proofs/Written/Program — a program reads back from its canonical text

    program ──encode──▸ JSON ──render──▸ text ──parse──▸ JSON ──decode──▸ the same program

A decoder spends one unit of its budget for each array and object it enters (`Node.decode_eq`),
which are those that the JSON of a node nests (`Node.decode_encode`).  So a program whose doubles
read back from how they are written reads back from its canonical text, as long as this nests no
deeper than is allowed (`Program.parse_render`).
-/

namespace OpenScript

/-- A double that reads back from how it is written in JSON. -/
def ReadsBack (x : Float) : Prop := (Decimal.jsonLayout.literal x).toFloat? = some x

instance : DecidablePred ReadsBack := fun _ => inferInstanceAs (Decidable (_ = _))

/-- Reading scales in double arithmetic, so not all doubles read back. -/
example : ¬ ReadsBack 1.2345678901234567e300 := by decide +kernel

namespace Node

variable {α : Type} {k : Nat} {decoder : Json → Option Node}

/-- The decoder of what is some arrays and objects further in. -/
def inner (budget further : Nat) (j : Json) : Option Node :=
  if further ≤ budget then decode (budget - further) j else none

theorem inner_of_le {budget further : Nat} (h : further ≤ budget) :
    inner budget further = decode (budget - further) := funext fun _ => if_pos h

theorem inner_of_lt {budget further : Nat} (h : budget < further) :
    inner budget further = fun _ => none := funext fun _ => if_neg (Nat.not_le.2 h)

/-- Each decoder is made of those for what is up to three arrays and objects further in. -/
theorem decode_eq (k : Nat) (j : Json) :
    decode k j = shallow? k (inner k 1) (inner k 2) (inner k 3) j := by
  match k with
  | 0 => rw [decode, inner_of_lt Nat.one_pos, inner_of_lt Nat.two_pos, inner_of_lt (by decide)]
  | 1 => rw [decode, inner_of_le (by decide), inner_of_lt (by decide), inner_of_lt (by decide)]
  | 2 => rw [decode, inner_of_le (by decide), inner_of_le (by decide), inner_of_lt (by decide)]
  | k + 3 =>
    rw [decode, inner_of_le (Nat.le_add_left 1 _), inner_of_le (Nat.le_add_left 2 _),
      inner_of_le (Nat.le_add_left 3 _)]
    rfl

theorem decode_tagged {tag : String} {payload : Json} (h : 0 < k) :
    decode k (tagged tag payload)
      = tagged? (k - 1) (inner k 1) (inner k 2) (inner k 3) tag payload := by
  rw [decode_eq]
  exact if_neg (Nat.ne_of_gt h)

/-! ## The parts of a payload -/

theorem mapM_eq_some {β : Type} {f : α → Option β} {g : α → β} {xs : List α}
    (h : ∀ x ∈ xs, f x = some (g x)) : xs.mapM f = some (xs.map g) := by
  induction xs with
  | nil => rfl
  | cons x xs ih =>
    rw [List.mapM_cons, h x List.mem_cons_self, ih fun y hy => h y (List.mem_cons_of_mem _ hy)]
    rfl

/-- The fields of a record are read in the order they are written in. -/
theorem fields?_record {names : List String} {fields : List (String × Json)} (h : 0 < k)
    (hf : fields.map Prod.fst = names) (hn : names.Nodup) :
    fields? k names (.record fields) = some fields := by
  obtain ⟨k, rfl⟩ := Nat.exists_eq_succ_of_ne_zero (Nat.ne_of_gt h)
  have known : fields.filter (fun f => names.contains f.1) = fields :=
    List.filter_eq_self.2 fun f hm => List.contains_iff_mem.2 (hf ▸ List.mem_map_of_mem hm)
  have keyed {f : Option String × Json → Option (String × Json)}
      {g : String × Json → Option String × Json} (hf : ∀ x, f (g x) = some x) :
      (fields.map g).mapM f = some fields := by
    rw [List.mapM_map, mapM_eq_some (f := f ∘ g) (g := id) fun x _ => hf x, List.map_id]
  rw [Json.record, fields?, keyed fun _ => rfl]
  simp only [Option.bind_eq_bind, Option.bind_some, known, hf, if_pos hn]

theorem items?_map {decode : Json → Option α} {encode : α → Json} {xs : List α} (h : 0 < k)
    (hx : ∀ x ∈ xs, decode (encode x) = some x) :
    items? k decode (.array (xs.map encode)) = some xs := by
  rw [items?, if_neg (Nat.ne_of_gt h), List.mapM_map,
    mapM_eq_some (f := decode ∘ encode) (g := id) hx, List.map_id]

theorem items?_namesJson (names : List String) (hn : (namesJson names).nesting ≤ k - 2) :
    items? (k - 1 - 1) Json.text? (namesJson names) = some names :=
  items?_map ((nesting_namesJson_le names).1 hn) fun _ _ => rfl

theorem text?_text (s : String) : (Json.text s).text? = some s := rfl

theorem absentOr?_optionalName (name : Option String) :
    absentOr? Json.text? (some (optionalName name)) = some name := by
  cases name <;> rfl

theorem encodeWith_ne_null (number : Float → Json) (n : Node) : n.encodeWith number ≠ .null := by
  cases n with
  | super given => cases given <;> exact Json.noConfusion
  | _ => exact Json.noConfusion

theorem absentOr?_encodeOption {number : Float → Json} {o : Option Node}
    (h : ∀ n ∈ o, decoder (n.encodeWith number) = some n) :
    absentOr? decoder (some (encodeOption number o)) = some o := by
  cases o with
  | none => rfl
  | some n =>
    rw [encodeOption, absentOr?, h n rfl, Option.map_some]
    exact fun e => encodeWith_ne_null number n e

theorem items?_encodeList {number : Float → Json} {ns : List Node} (h : 0 < k)
    (hn : ∀ n ∈ ns, decoder (n.encodeWith number) = some n) :
    items? k decoder (.array (encodeList number ns)) = some ns := by
  rw [encodeList_eq_map]
  exact items?_map h hn

/-! ## Decoding undoes encoding -/

theorem nesting_tagged_record_le {tag : String} {fields : List (String × Json)} :
    (tagged tag (.record fields)).nesting ≤ k
      ↔ 0 < k ∧ 0 < k - 1 ∧ ∀ f ∈ fields, f.2.nesting ≤ k - 2 := by
  rw [nesting_tagged_le, Json.nesting_record_le, Nat.sub_sub]

/-- The inner decoders undo the encoding of the nodes, where the budget allows it. -/
def Undone (k : Nat) (ms : List Node) : Prop :=
  ∀ m ∈ ms, ∀ further ≤ k, m.encode.nesting ≤ k - further → inner k further m.encode = some m

namespace Undone

variable {ms : List Node} {o : Option Node}

theorem field {m : Node} (h : Undone k ms) (hm : m ∈ ms) (hk : 0 < k - 1)
    (hn : m.encode.nesting ≤ k - 2) : inner k 2 m.encode = some m :=
  h m hm 2 (by omega) hn

theorem option (h : Undone k ms) (ho : ∀ m ∈ o.toList, m ∈ ms) (hk : 0 < k - 1)
    (hn : (encodeOption (fun x => .number (Decimal.jsonLayout.literal x)) o).nesting ≤ k - 2) :
    absentOr? (inner k 2)
        (some (encodeOption (fun x => .number (Decimal.jsonLayout.literal x)) o)) = some o :=
  absentOr?_encodeOption fun m hm =>
    h.field (ho m (Option.mem_toList.2 hm)) hk (nesting_encodeOption_le.1 hn m hm)

theorem list (h : Undone k ms) (ns : List Node) (hs : ∀ m ∈ ns, m ∈ ms)
    (hn : (Json.array
      (encodeList (fun x => .number (Decimal.jsonLayout.literal x)) ns)).nesting ≤ k - 2) :
    items? (k - 1 - 1) (inner k 3)
        (.array (encodeList (fun x => .number (Decimal.jsonLayout.literal x)) ns)) = some ns := by
  obtain ⟨hk, hn⟩ := nesting_encodeList_le.1 hn
  exact items?_encodeList hk fun m hm => h m (hs m hm) 3 (by omega) (hn m hm)

end Undone

/-- **Decoding undoes encoding** where the budget allows for the nesting and doubles read back. -/
theorem decode_encode (n : Node) (hq : n.EveryDouble ReadsBack) (hk : n.encode.nesting ≤ k) :
    decode k n.encode = some n := by
  induction n using parts_induction generalizing k with
  | _ n ih =>
  have parts : Undone k n.parts := fun m hm further hf h => by
    rw [inner_of_le hf]
    exact ih m hm (hq.part hm) h
  cases n with
  | int x =>
    rw [encode, encodeWith, decode_tagged (nesting_tagged_le.1 hk).1]
    show (do some (int (← (Decimal.Literal.ofInt x.toInt).toInt64?))) = _
    rw [Decimal.Literal.toInt64?_ofInt]
    rfl
  | float x =>
    rw [encode, encodeWith, decode_tagged (nesting_tagged_le.1 hk).1]
    show (do some (float (← (Decimal.jsonLayout.literal x).toFloat?))) = _
    rw [hq.self x rfl]
    rfl
  | text | symbol | getLocal | getConstant | getGlobal | getClassVar | getInstanceVar =>
    exact decode_tagged (nesting_tagged_le.1 hk).1
  | true | false | nil | self | next => exact decode_eq k _
  | setLocal x v | setConstant x v | setGlobal x v | setClassVar x v | setInstanceVar x v =>
    obtain ⟨h, h', hf⟩ := nesting_tagged_record_le.1 hk
    have value := parts.field List.mem_cons_self h' (hf ("value", _) (by simp))
    rw [encode] at value
    rw [encode, encodeWith, assignment, decode_tagged h]
    simp [tagged?, fields?_record, h', List.lookup_cons, text?_text, value]
  | call receiver method arguments =>
    obtain ⟨h, h', hf⟩ := nesting_tagged_record_le.1 hk
    have first := parts.option (fun _ => List.mem_append_left _) h' (hf ("receiver", _) (by simp))
    have others := parts.list arguments (fun _ => List.mem_append_right _)
      (hf ("arguments", _) (by simp))
    rw [encode, encodeWith, decode_tagged h]
    simp [tagged?, fields?_record, h', List.lookup_cons, text?_text, first, others]
  | super given =>
    cases given with
    | none =>
      obtain ⟨h, h', -⟩ := nesting_tagged_record_le.1 hk
      rw [encode, encodeWith, decode_tagged h]
      simp [tagged?, fields?_record, h', absentOr?]
    | some ns =>
      obtain ⟨h, h', hf⟩ := nesting_tagged_record_le.1 hk
      have all := parts.list ns (fun _ => id) (hf ("arguments", _) (by simp))
      rw [encode, encodeWith, decode_tagged h]
      simp [tagged?, fields?_record, h', absentOr?, all]
  | defineClass name parent body =>
    obtain ⟨h, h', hf⟩ := nesting_tagged_record_le.1 hk
    have all := parts.list body (fun _ => id) (hf ("body", _) (by simp))
    rw [encode, encodeWith, decode_tagged h]
    simp [tagged?, fields?_record, h', List.lookup_cons, text?_text, absentOr?_optionalName, all]
  | property names =>
    obtain ⟨h, h', hf⟩ := nesting_tagged_record_le.1 hk
    have read := items?_namesJson names (hf ("names", _) List.mem_cons_self)
    rw [encode, encodeWith, decode_tagged h]
    simp [tagged?, fields?_record, h', read]
  | defineMethod name params body =>
    obtain ⟨h, h', hf⟩ := nesting_tagged_record_le.1 hk
    have read := items?_namesJson params (hf ("params", namesJson params) (by simp))
    have all := parts.list body (fun _ => id) (hf ("body", _) (by simp))
    rw [encode, encodeWith, decode_tagged h]
    simp [tagged?, fields?_record, h', List.lookup_cons, text?_text, read, all]
  | lambda params body =>
    obtain ⟨h, h', hf⟩ := nesting_tagged_record_le.1 hk
    have read := items?_namesJson params (hf ("params", namesJson params) (by simp))
    have all := parts.list body (fun _ => id) (hf ("body", _) (by simp))
    rw [encode, encodeWith, decode_tagged h]
    simp [tagged?, fields?_record, h', List.lookup_cons, read, all]
  | ifElse condition body otherwise =>
    obtain ⟨h, h', hf⟩ := nesting_tagged_record_le.1 hk
    have first := parts.field List.mem_cons_self h' (hf ("condition", _) (by simp))
    have all := parts.list body (fun _ hm => List.mem_cons_of_mem _ (List.mem_append_left _ hm))
      (hf ("body", _) (by simp))
    have last := parts.option (fun _ hm => List.mem_cons_of_mem _ (List.mem_append_right _ hm)) h'
      (hf ("else_branch", _) (by simp))
    rw [encode] at first
    rw [encode, encodeWith, decode_tagged h]
    simp [tagged?, fields?_record, h', List.lookup_cons, first, all, last]
  | whileLoop condition body =>
    obtain ⟨h, h', hf⟩ := nesting_tagged_record_le.1 hk
    have first := parts.field List.mem_cons_self h' (hf ("condition", _) (by simp))
    have all := parts.list body (fun _ => List.mem_cons_of_mem _) (hf ("body", _) (by simp))
    rw [encode] at first
    rw [encode, encodeWith, decode_tagged h]
    simp [tagged?, fields?_record, h', List.lookup_cons, first, all]
  | block body =>
    obtain ⟨h, hn⟩ := nesting_tagged_le.1 hk
    obtain ⟨h', hn⟩ := nesting_encodeList_le.1 hn
    have all : items? (k - 1) (inner k 2) (.array (encodeList _ body)) = some body :=
      items?_encodeList h' fun m hm => parts.field hm h' (hn m hm)
    rw [encode, encodeWith, decode_tagged h]
    simp [tagged?, all]
  | «return» value =>
    obtain ⟨h, hn⟩ := nesting_tagged_le.1 hk
    have read := absentOr?_encodeOption fun m hm =>
      parts m (Option.mem_toList.2 hm) 1 h (nesting_encodeOption_le.1 hn m hm)
    rw [encode, encodeWith, decode_tagged h]
    simp [tagged?, read]
  | and left right | or left right =>
    obtain ⟨h, hn⟩ := nesting_tagged_le.1 hk
    obtain ⟨h', hn⟩ := Json.nesting_array_le.1 hn
    have first := parts.field List.mem_cons_self h' (hn _ List.mem_cons_self)
    have second := parts.field (List.mem_cons_of_mem _ List.mem_cons_self) h'
      (hn _ (List.mem_cons_of_mem _ List.mem_cons_self))
    rw [encode] at first second
    rw [encode, encodeWith, decode_tagged h]
    simp [tagged?, two?, items?, Nat.ne_of_gt h', first, second]
  | not operand =>
    obtain ⟨h, hn⟩ := nesting_tagged_le.1 hk
    have read := parts operand List.mem_cons_self 1 h hn
    rw [encode] at read
    rw [encode, encodeWith, decode_tagged h]
    simp [tagged?, read]
  | inNamespace name body =>
    obtain ⟨h, h', hf⟩ := nesting_tagged_record_le.1 hk
    have all := parts.list body (fun _ => id) (hf ("body", _) (by simp))
    rw [encode, encodeWith, decode_tagged h]
    simp [tagged?, fields?_record, h', List.lookup_cons, text?_text, all]
  | getFromNamespace space name =>
    obtain ⟨h, h', -⟩ := nesting_tagged_record_le.1 hk
    rw [encode, encodeWith, decode_tagged h]
    simp [tagged?, fields?_record, h', List.lookup_cons, text?_text]

end Node

namespace Program

/-- A property of all doubles in a program. -/
def EveryDouble (q : Float → Prop) (p : Program) : Prop := ∀ n ∈ p, n.EveryDouble q

theorem everyDouble_of_holdsTo {q : Float → Prop} [DecidablePred q] {p : Program} (depth : Nat)
    (h : p.all (Node.holdsTo (Node.OfDouble q) depth) = true) : p.EveryDouble q :=
  fun n hn => Node.everywhere_of_holdsTo (List.all_eq_true.1 h n hn)

/-- Parsing undoes rendering where the nesting is allowed and doubles read back. -/
theorem parse_render_of_readsBack {p : Program} (hq : p.EveryDouble ReadsBack)
    (nests : p.encode.nesting ≤ nestingLimit) : parse p.render = some p := by
  obtain ⟨-, nests⟩ := Node.nesting_encodeList_le.1 nests
  rw [parse, parse_render_encode, Option.bind_some]
  exact Node.items?_encodeList (by decide) fun n hn => n.decode_encode (hq n hn) (nests n hn)

/-- **A program reads back from its canonical text**, if this nests no deeper than is allowed and
the doubles in the program are finite and read back. -/
theorem parse_render (p : Program) (finite : p.EveryDouble fun x => x.isFinite)
    (exact : p.EveryDouble fun x => x.isFinite → ReadsBack x)
    (nests : p.encode.nesting ≤ nestingLimit) : parse p.render = some p := by
  have readsBack : p.EveryDouble ReadsBack := fun n hn => (finite n hn).mp (exact n hn)
  exact parse_render_of_readsBack readsBack nests

/-- Quotes, backslashes and control characters, the least word, a negative zero, a double with an
exponent, and nodes of all shapes. -/
def sample : Program :=
  [.setLocal "x" (.float 0.1),
    .call (some (.text "\"a\\b\x01\n☃\"")) "m" [.int (-9223372036854775808), .float (-0.0), .nil],
    .defineClass "K" none [.property ["p", "q"], .defineMethod "m" ["a"] [.super none]],
    .inNamespace "N" [.whileLoop (.or .true .false) [.next, .and .self (.float 1e300)]],
    .ifElse (.symbol "s") [.return none] (some (.not (.lambda ["a"] [.super (some [])])))]

theorem parse_render_sample :
    (sample.EveryDouble fun x => x.isFinite)
      ∧ (sample.EveryDouble fun x => x.isFinite → ReadsBack x)
      ∧ sample.encode.nesting ≤ nestingLimit ∧ parse sample.render = some sample := by
  have finite : sample.EveryDouble fun x => x.isFinite :=
    everyDouble_of_holdsTo 9 (by decide +kernel)
  have exact : sample.EveryDouble fun x => x.isFinite → ReadsBack x :=
    everyDouble_of_holdsTo 9 (by decide +kernel)
  have nests : sample.encode.nesting ≤ nestingLimit := by decide +kernel
  exact ⟨finite, exact, nests, parse_render sample finite exact nests⟩

end Program

end OpenScript
