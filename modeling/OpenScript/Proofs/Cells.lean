import OpenScript.Proofs.Lambdas

/-!
# Proofs/Cells — every name has cells of its own

    frame, name ──own cells──▸ c₁, c₂, ⋯        read:     the first that is bound
                                                written:  the same, or c₁ if none is bound

    cell ──sigil and key──▸ its name

The stores of a state are cells, and each is the cell of one name only, which its sigil and its key
put together (`Cell.name`).  Whatever its kind, a frame reads a name in the cells that it has for
it and writes one of them, so what is written is read there (`State.get_set`), and no name reads
what is written to another (`State.lookup_set_of_ne`).
-/

namespace OpenScript

/-! ## Names -/

namespace Shape

/-- What the names of a shape start with. -/
def sigil : Shape → String
  | .globalVar => "$"
  | .classVar => "@@"
  | .instanceVar => "@"
  | _ => ""

theorem toList_key (shape : Shape) (name : String) :
    (shape.key name).toList = name.toList.drop shape.sigilLength := by
  cases shape <;> simp [key, sigilLength]

theorem sigil_append_drop (cs : List Char) :
    (ofChars cs).sigil.toList ++ cs.drop (ofChars cs).sigilLength = cs := by
  unfold ofChars
  split
  · rfl
  · rfl
  · rfl
  · rfl
  · split
    · rfl
    · split <;> rfl

/-- **A name is its sigil and its key.** -/
theorem sigil_append_key (name : String) : (of name).sigil ++ (of name).key name = name := by
  rw [← String.toList_inj, String.toList_append, toList_key]
  exact sigil_append_drop name.toList

end Shape

/-! ## Cells -/

/-- A place for the value of a name. -/
inductive Cell where
  | constant (frame : FrameId) (key : String)
  | localVar (frame : FrameId) (key : String)
  /-- All frames share the globals. -/
  | globalVar (key : String)
  | classVar (cls : ClassId) (key : String)
  /-- An instance variable of an object or of a class used as a value. -/
  | instanceVar (owner : Value) (key : String)
  deriving DecidableEq

namespace Cell

/-- The name that a cell is for. -/
def name : Cell → String
  | .constant _ key => Shape.constant.sigil ++ key
  | .localVar _ key => Shape.localVar.sigil ++ key
  | .globalVar key => Shape.globalVar.sigil ++ key
  | .classVar _ key => Shape.classVar.sigil ++ key
  | .instanceVar _ key => Shape.instanceVar.sigil ++ key

/-- A cell of something that is there. -/
def In (s : State) : Cell → Prop
  | .constant f _ | .localVar f _ => (Item.frame f).In s
  | .globalVar _ => True
  | .classVar c _ => (Item.value (.cls c)).In s
  | .instanceVar v _ => v ≠ .nil ∧ (Item.value v).In s

end Cell

namespace State

variable {s : State} {f g : FrameId} {n m key : String} {v owner : Value} {c : Cell}

/-- What a cell holds. -/
def held? (s : State) : Cell → Option Value
  | .constant f key => (s.frameAt f).constants[key]?
  | .localVar f key => (s.frameAt f).locals[key]?
  | .globalVar key => s.globals[key]?
  | .classVar c key => (s.classAt c).classVars[key]?
  | .instanceVar v key => s.ivar? v key

/-- The cells that a frame itself has for a name, in the order they are looked at. -/
def ownCells (s : State) (f : FrameId) (n : String) : List Cell :=
  let key := (Shape.of n).key n
  match Shape.of n with
  | .constant => [.constant f key]
  | .localVar => (s.closureChain f).map (.localVar · key)
  | .globalVar => [.globalVar key]
  | .classVar => [.classVar (s.frameAt f).cls key]
  | .instanceVar => if s.ivarOwner f = .nil then [] else [.instanceVar (s.ivarOwner f) key]
  | .unknown => []

/-- The cell that a frame writes a name to: the first of its own that is bound, or else the very
first. -/
def target? (s : State) (f : FrameId) (n : String) : Option Cell :=
  ((s.ownCells f n).find? fun c => (s.held? c).isSome).or (s.ownCells f n).head?

/-- A name that a frame has no cell for: it is no name at all, or one of an instance variable where
the owner is `nil`. -/
def Placeless (s : State) (f : FrameId) (n : String) : Prop :=
  Shape.of n = .unknown ∨ Shape.of n = .instanceVar ∧ s.ivarOwner f = .nil

theorem ownCells_eq_nil_iff : s.ownCells f n = [] ↔ s.Placeless f n := by
  have chain : s.closureChain f ≠ [] := by
    rw [closureChain]
    exact List.cons_ne_nil f _
  unfold ownCells Placeless
  cases Shape.of n <;> simp [chain]

/-- **The cells that a frame has for a name are for no other name.** -/
theorem name_of_mem_ownCells (h : c ∈ s.ownCells f n) : c.name = n := by
  have whole := Shape.sigil_append_key n
  unfold ownCells at h
  generalize Shape.of n = shape at h whole
  cases shape with
  | constant | globalVar | classVar =>
    obtain rfl := List.mem_singleton.1 h
    exact whole
  | localVar =>
    obtain ⟨g, -, rfl⟩ := List.mem_map.1 h
    exact whole
  | instanceVar =>
    dsimp only at h
    split at h
    · exact absurd h List.not_mem_nil
    · obtain rfl := List.mem_singleton.1 h
      exact whole
  | unknown => exact absurd h List.not_mem_nil

/-- The cells of a frame are there if the frame is, and what it refers to. -/
theorem in_of_mem_ownCells (hf : f < s.frames.size)
    (hc : Shape.of n = .classVar → (s.frameAt f).cls < s.classes.size)
    (ho : Shape.of n = .instanceVar → (Item.value (s.ivarOwner f)).In s)
    (h : c ∈ s.ownCells f n) : c.In s := by
  unfold ownCells at h
  generalize Shape.of n = shape at h hc ho
  cases shape with
  | constant =>
    obtain rfl := List.mem_singleton.1 h
    exact hf
  | localVar =>
    obtain ⟨g, hg, rfl⟩ := List.mem_map.1 h
    exact Nat.lt_of_le_of_lt (le_of_mem_closureChain hg) hf
  | globalVar =>
    obtain rfl := List.mem_singleton.1 h
    trivial
  | classVar =>
    obtain rfl := List.mem_singleton.1 h
    exact hc rfl
  | instanceVar =>
    dsimp only at h
    split at h
    · exact absurd h List.not_mem_nil
    · next owned =>
      obtain rfl := List.mem_singleton.1 h
      exact ⟨owned, ho rfl⟩
  | unknown => exact absurd h List.not_mem_nil

/-! ## Reading -/

/-- **A frame's own stores bind a name to what the first bound cell holds.** -/
theorem lookupOwn_eq_findSome? (s : State) (f : FrameId) (n : String) :
    s.lookupOwn f n = (s.ownCells f n).findSome? s.held? := by
  unfold lookupOwn ownCells
  cases Shape.of n with
  | constant | globalVar | classVar => exact List.findSome?_singleton.symm
  | localVar =>
    dsimp only
    rw [local?, nearest?_eq, List.findSome?_map]
    rfl
  | instanceVar =>
    dsimp only
    split
    · next nobody => rw [nobody]; rfl
    · exact List.findSome?_singleton.symm
  | unknown => rfl

theorem lookup_of_placeless (h : s.Placeless f n) : s.lookup f n = none := by
  rcases h with hn | ⟨hn, nobody⟩
  · rw [lookup_of_delegates (by rw [hn]; rfl), List.findSome?_eq_none_iff]
    intro g _
    rw [lookupOwn, hn]
  · have own : ¬Shape.delegates .instanceVar = true := Bool.false_ne_true
    rw [lookup, hn, if_neg own, lookupOwn, hn]
    dsimp only
    rw [nobody]
    rfl

/-! ## Where a write goes -/

theorem mem_of_target? (h : s.target? f n = some c) : c ∈ s.ownCells f n := by
  rcases Option.or_eq_some_iff.1 h with h | ⟨-, h⟩
  · exact List.mem_of_find?_eq_some h
  · exact List.mem_of_mem_head? h

theorem target?_eq_none_iff : s.target? f n = none ↔ s.Placeless f n := by
  rw [target?, Option.or_eq_none_iff, List.head?_eq_none_iff, ownCells_eq_nil_iff,
    and_iff_right_iff_imp]
  intro h
  rw [ownCells_eq_nil_iff.2 h, List.find?_nil]

theorem target?_of_singleton (h : s.ownCells f n = [c]) : s.target? f n = some c := by
  rw [target?, h, List.find?_singleton, List.head?_cons]
  split <;> rfl

/-- A local is written in the frame that owns it. -/
theorem target?_localVar (hn : Shape.of n = .localVar) :
    s.target? f n = some (.localVar (s.localOwner f n) n) := by
  have own : s.ownCells f n = (s.closureChain f).map (.localVar · n) := by
    rw [ownCells, hn]
    rfl
  have binds : (fun c => (s.held? c).isSome) ∘ (.localVar · n) = s.bindsLocal n := by
    funext g
    rw [bindsLocal, Std.TreeMap.contains_eq_isSome_getElem?]
    rfl
  have first : (s.closureChain f).head? = some f := by rw [closureChain, List.head?_cons]
  rw [target?, own, List.find?_map, binds, List.head?_map, first, localOwner]
  cases (s.closureChain f).find? (s.bindsLocal n) <;> rfl

/-- **Nothing before the cell that is written is bound.** -/
theorem ownCells_eq_append (h : s.target? f n = some c) :
    ∃ before after, s.ownCells f n = before ++ c :: after ∧
      ∀ b ∈ before, s.held? b = none ∧ b ≠ c := by
  rcases Option.or_eq_some_iff.1 h with h | ⟨-, h⟩
  · obtain ⟨bound, before, after, e, free⟩ := List.find?_eq_some_iff_append.1 h
    refine ⟨before, after, e, fun b hb => ?_⟩
    have unbound : s.held? b = none := by simpa using free b hb
    refine ⟨unbound, ?_⟩
    rintro rfl
    rw [unbound] at bound
    exact absurd bound Bool.false_ne_true
  · obtain ⟨after, e⟩ := List.head?_eq_some_iff.1 h
    exact ⟨[], after, e, fun b hb => absurd hb List.not_mem_nil⟩

/-! ## Cells as a memory -/

/-- Binds a global. -/
def setGlobal (s : State) (key : String) (v : Value) : State :=
  { s with globals := s.globals.insert key v }

/-- Binds a class variable. -/
def setClassVar (s : State) (c : ClassId) (key : String) (v : Value) : State :=
  s.modifyClass c fun x => { x with classVars := x.classVars.insert key v }

/-- Puts a value into a cell. -/
def put (s : State) (c : Cell) (v : Value) : State :=
  match c with
  | .constant f key => s.bindConstant f key v
  | .localVar f key => s.bindLocal f key v
  | .globalVar key => s.setGlobal key v
  | .classVar c key => s.setClassVar c key v
  | .instanceVar owner key => s.setIvar owner key v

theorem held?_bindConstant_of_ne (h : c ≠ .constant f key) :
    (s.bindConstant f key v).held? c = s.held? c := by
  cases c with
  | constant g k =>
    refine s.frameAt_modifyFrame_of_keeps (g := (·.constants[k]?)) fun e x => ?_
    exact Store.getElem?_insert_of_ne fun hk => h (by rw [e, hk])
  | localVar g k =>
    exact s.frameAt_modifyFrame_of_keeps (g := (·.locals[k]?)) fun _ _ => rfl
  | globalVar | classVar => rfl
  | instanceVar u => cases u <;> rfl

theorem held?_bindLocal_of_ne (h : c ≠ .localVar f key) :
    (s.bindLocal f key v).held? c = s.held? c := by
  cases c with
  | constant g k =>
    exact s.frameAt_modifyFrame_of_keeps (g := (·.constants[k]?)) fun _ _ => rfl
  | localVar g k =>
    refine s.frameAt_modifyFrame_of_keeps (g := (·.locals[k]?)) fun e x => ?_
    exact Store.getElem?_insert_of_ne fun hk => h (by rw [e, hk])
  | globalVar | classVar => rfl
  | instanceVar u => cases u <;> rfl

theorem held?_setGlobal_of_ne (h : c ≠ .globalVar key) :
    (s.setGlobal key v).held? c = s.held? c := by
  cases c with
  | globalVar k => exact Store.getElem?_insert_of_ne fun hk => h (by rw [hk])
  | constant | localVar | classVar => rfl
  | instanceVar u => cases u <;> rfl

theorem held?_setClassVar_of_ne {d : ClassId} (h : c ≠ .classVar d key) :
    (s.setClassVar d key v).held? c = s.held? c := by
  cases c with
  | classVar e k =>
    refine s.classAt_modifyClass_of_keeps (g := (·.classVars[k]?)) fun e x => ?_
    exact Store.getElem?_insert_of_ne fun hk => h (by rw [e, hk])
  | constant | localVar | globalVar => rfl
  | instanceVar u k =>
    cases u with
    | nil | object => rfl
    | cls e => exact s.classAt_modifyClass_of_keeps (g := (·.ivars[k]?)) fun _ _ => rfl

theorem held?_setIvar_of_ne (h : c ≠ .instanceVar owner key) :
    (s.setIvar owner key v).held? c = s.held? c := by
  cases owner with
  | nil => rfl
  | object o =>
    cases c with
    | constant | localVar | globalVar | classVar => rfl
    | instanceVar u k =>
      cases u with
      | nil | cls => rfl
      | object p =>
        refine s.objectAt_modifyObject_of_keeps (g := (·.ivars[k]?)) fun e x => ?_
        exact Store.getElem?_insert_of_ne fun hk => h (by rw [e, hk])
  | cls d =>
    cases c with
    | constant | localVar | globalVar => rfl
    | classVar e k =>
      exact s.classAt_modifyClass_of_keeps (g := (·.classVars[k]?)) fun _ _ => rfl
    | instanceVar u k =>
      cases u with
      | nil | object => rfl
      | cls e =>
        refine s.classAt_modifyClass_of_keeps (g := (·.ivars[k]?)) fun e x => ?_
        exact Store.getElem?_insert_of_ne fun hk => h (by rw [e, hk])

/-- **What is put into a cell leaves all others as they are.** -/
theorem held?_put_of_ne {d : Cell} (h : c ≠ d) : (s.put d v).held? c = s.held? c := by
  cases d with
  | constant => exact held?_bindConstant_of_ne h
  | localVar => exact held?_bindLocal_of_ne h
  | globalVar => exact held?_setGlobal_of_ne h
  | classVar => exact held?_setClassVar_of_ne h
  | instanceVar => exact held?_setIvar_of_ne h

/-- **A cell holds what is put into it**, if it is there. -/
theorem held?_put_self (h : c.In s) (v : Value) : (s.put c v).held? c = some v := by
  cases c with
  | constant f key =>
    change ((s.modifyFrame f _).frameAt f).constants[key]? = some v
    rw [frameAt_modifyFrame s h, if_pos rfl]
    exact Std.TreeMap.getElem?_insert_self
  | localVar f key =>
    change ((s.modifyFrame f _).frameAt f).locals[key]? = some v
    rw [frameAt_modifyFrame s h, if_pos rfl]
    exact Std.TreeMap.getElem?_insert_self
  | globalVar key => exact Std.TreeMap.getElem?_insert_self
  | classVar d key =>
    change ((s.modifyClass d _).classAt d).classVars[key]? = some v
    rw [classAt_modifyClass s h, if_pos rfl]
    exact Std.TreeMap.getElem?_insert_self
  | instanceVar owner key =>
    obtain ⟨owned, there⟩ := h
    cases owner with
    | nil => exact absurd rfl owned
    | object o =>
      change ((s.modifyObject o _).objectAt o).ivars[key]? = some v
      rw [objectAt_modifyObject s there, if_pos rfl]
      exact Std.TreeMap.getElem?_insert_self
    | cls d =>
      change ((s.modifyClass d _).classAt d).ivars[key]? = some v
      rw [classAt_modifyClass s there, if_pos rfl]
      exact Std.TreeMap.getElem?_insert_self

/-! ## Writing a name -/

/-- **To write a name is to put the value into one cell.** -/
theorem set_eq_put (h : s.target? f n = some c) (v : Value) : s.set f n v = s.put c v := by
  have one {d : Cell} (own : s.ownCells f n = [d]) : d = c :=
    Option.some.inj ((target?_of_singleton own).symm.trans h)
  unfold set
  cases hn : Shape.of n with
  | constant | globalVar | classVar =>
    obtain rfl := one (by rw [ownCells, hn])
    rfl
  | localVar =>
    obtain rfl := Option.some.inj ((target?_localVar hn).symm.trans h)
    rfl
  | instanceVar =>
    have owned : s.ivarOwner f ≠ .nil := fun nobody =>
      Option.some_ne_none c (h.symm.trans (target?_eq_none_iff.2 (.inr ⟨hn, nobody⟩)))
    obtain rfl := one (by rw [ownCells, hn]; exact if_neg owned)
    rfl
  | unknown => exact absurd (h.symm.trans (target?_eq_none_iff.2 (.inl hn))) (Option.some_ne_none c)

theorem set_of_placeless (h : s.Placeless f n) (v : Value) : s.set f n v = s := by
  unfold set
  rcases h with hn | ⟨hn, nobody⟩
  · rw [hn]
  · rw [hn, nobody]
    rfl

/-- A write only touches the cell that the frame has for the name. -/
theorem held?_set_of_ne (h : s.target? f n ≠ some c) (v : Value) :
    (s.set f n v).held? c = s.held? c := by
  cases ht : s.target? f n with
  | none => rw [set_of_placeless (target?_eq_none_iff.1 ht)]
  | some d =>
    rw [set_eq_put ht]
    exact held?_put_of_ne fun e => h (ht.trans (congrArg some e.symm))

/-- Frames keep what they refer to when a name is written. -/
theorem framesGrow_set (s : State) (f : FrameId) (n : String) (v : Value) (g : FrameId) :
    s.FramesGrow (s.set f n v) g := by
  intro k _
  by_cases hk : k < s.frames.size
  · exact (s.grows_set f n v).frameAt hk
  · have past : s.frames.size ≤ k := Nat.le_of_not_lt hk
    rw [frameAt, frameAt, Array.getElem?_eq_none past, Array.getElem?_eq_none (by simpa using past)]
    exact .refl _

/-- **Frames keep their cells when a name is written.** -/
theorem ownCells_set (s : State) (f : FrameId) (n : String) (v : Value) (g : FrameId) (m : String) :
    (s.set f n v).ownCells g m = s.ownCells g m := by
  have grows := s.framesGrow_set f n v g
  unfold ownCells
  rw [closureChain_of_grow grows, ivarOwner_of_grow grows, (grows g (Nat.le_refl g)).cls]

/-- **What is written is in the frame's own stores.** -/
theorem lookupOwn_set_self (h : s.target? f n = some c) (hc : c.In s) (v : Value) :
    (s.set f n v).lookupOwn f n = some v := by
  obtain ⟨before, after, e, free⟩ := ownCells_eq_append h
  have written : (s.set f n v).held? c = some v := by
    rw [set_eq_put h]
    exact held?_put_self hc v
  have unbound : before.findSome? (s.set f n v).held? = none := by
    refine List.findSome?_eq_none_iff.2 fun b hb => ?_
    obtain ⟨empty, other⟩ := free b hb
    rw [held?_set_of_ne fun hb => other (Option.some.inj (hb.symm.trans h)), empty]
  rw [lookupOwn_eq_findSome?, ownCells_set, e, List.findSome?_append, unbound, Option.none_or,
    List.findSome?_cons, written]

theorem lookupOwn_set_of_ne (h : n ≠ m) (v : Value) :
    (s.set f n v).lookupOwn g m = s.lookupOwn g m := by
  rw [lookupOwn_eq_findSome?, lookupOwn_eq_findSome?, ownCells_set]
  refine findSome?_congr fun c hc => held?_set_of_ne (fun ht => h ?_) v
  -- the cell would be for both names
  rw [← name_of_mem_ownCells (mem_of_target? ht), name_of_mem_ownCells hc]

/-! ## What is read after a write -/

/-- **What is written to a name is read there**, in a frame of whatever kind, unless the frame has
no place for the name: then the write changes nothing, and nothing is read.  The frame has to be
there, for a class variable its class and for an instance variable the owner; in states that are
well-formed what a frame refers to is there. -/
theorem get_set (hf : f < s.frames.size)
    (hc : Shape.of n = .classVar → (s.frameAt f).cls < s.classes.size)
    (ho : Shape.of n = .instanceVar → (Item.value (s.ivarOwner f)).In s) (v : Value) :
    (¬s.Placeless f n → (s.set f n v).get f n = v) ∧
    (s.Placeless f n → s.set f n v = s ∧ (s.set f n v).get f n = .nil) := by
  refine ⟨fun placed => ?_, fun placeless => ?_⟩
  · obtain ⟨c, ht⟩ := Option.ne_none_iff_exists'.1 (mt target?_eq_none_iff.1 placed)
    have there : c.In s := in_of_mem_ownCells hf hc ho (mem_of_target? ht)
    rw [get, lookup_of_lookupOwn (lookupOwn_set_self ht there v), Option.getD_some]
  · have same : s.set f n v = s := set_of_placeless placeless v
    refine ⟨same, ?_⟩
    rw [same, get, lookup_of_placeless placeless, Option.getD_none]

/-- A class in the body of another. -/
def nestedBodies : Program := [.defineClass "A" none [.defineClass "B" none []]]

/-- The body of the inner class, frame 11, writes and reads `@x` of the self of the root. -/
theorem get_set_inBody : ∃ s : State, s.Reachable ∧ s.isClassBody 10 = true ∧
    s.isClassBody 11 = true ∧ 11 < s.frames.size ∧
    (Shape.of "@x" = .classVar → (s.frameAt 11).cls < s.classes.size) ∧
    (Shape.of "@x" = .instanceVar → (Item.value (s.ivarOwner 11)).In s) ∧
    s.ivarOwner 11 = Core.main ∧ ¬s.Placeless 11 "@x" ∧
    (s.set 11 "@x" (Core.bool true)).get 11 "@x" = Core.bool true := by
  let test (s : State) : Bool := decide (s.isClassBody 10 = true ∧ s.isClassBody 11 = true ∧
    11 < s.frames.size ∧ 0 < s.objects.size ∧ s.ivarOwner 11 = Core.main)
  obtain ⟨s, reachable, ht⟩ := exists_reachable_of_run 5 100 nestedBodies test (by decide +kernel)
  obtain ⟨outer, inner, hf, there, owner⟩ := of_decide_eq_true ht
  have hc : Shape.of "@x" = .classVar → (s.frameAt 11).cls < s.classes.size :=
    fun hn => absurd hn (by decide)
  have ho : Shape.of "@x" = .instanceVar → (Item.value (s.ivarOwner 11)).In s := by
    intro _
    rw [owner]
    exact there
  have placed : ¬s.Placeless 11 "@x" := by
    rintro (hn | ⟨-, nobody⟩)
    · exact absurd hn (by decide)
    · rw [owner] at nobody
      exact nomatch nobody
  exact ⟨s, reachable, outer, inner, hf, hc, ho, owner, placed,
    (get_set hf hc ho (Core.bool true)).1 placed⟩

/-- **What is written to one name no other name reads**, from whatever frame the one is written and
the other looked up. -/
theorem lookup_set_of_ne (h : n ≠ m) (s : State) (f g : FrameId) (v : Value) :
    (s.set f n v).lookup g m = s.lookup g m := by
  by_cases hd : (Shape.of m).delegates = true
  · rw [lookup_of_delegates hd, lookup_of_delegates hd,
      searchPath_of_grow (s.framesGrow_set f n v g)]
    exact findSome?_congr fun k _ => lookupOwn_set_of_ne h v
  · rw [lookup, lookup, if_neg hd, if_neg hd, lookupOwn_set_of_ne h v]

/-- A class with a class variable and an instance variable of one key. -/
def bothSigils : Program :=
  [.defineClass "K" none [.setClassVar "@@x" .false,
    .call (some (.lambda [] [.setInstanceVar "@x" .true])) "call" []]]

/-- The body of the class, frame 10, writes `@@x`, and code that runs on the class, frame 11, goes
on to read the `@x` of the same class. -/
theorem lookup_set_of_ne_sigils : ∃ s : State, s.Reachable ∧ (s.frameAt 10).cls = 9 ∧
    (s.frameAt 11).self = .cls 9 ∧ s.lookup 11 "@x" = some (Core.bool true) ∧ "@@x" ≠ "@x" ∧
    (s.set 10 "@@x" .nil).lookup 11 "@x" = s.lookup 11 "@x" := by
  let test (s : State) : Bool := decide ((s.frameAt 10).cls = 9 ∧
    (s.frameAt 11).self = .cls 9 ∧ s.lookup 11 "@x" = some (Core.bool true))
  obtain ⟨s, reachable, ht⟩ := exists_reachable_of_run 5 100 bothSigils test (by decide +kernel)
  obtain ⟨cls, self, bound⟩ := of_decide_eq_true ht
  have ne : "@@x" ≠ "@x" := by decide
  exact ⟨s, reachable, cls, self, bound, ne, lookup_set_of_ne ne s 10 11 .nil⟩

end State

end OpenScript
