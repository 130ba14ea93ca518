import Mathlib.Data.List.Dedup
import OpenScript.Proofs.Arities
import OpenScript.Proofs.Interpolation

/-!
# Proofs/Symbols — one symbol for every text

    "a", "b", "a"  ──internAll──▸  0, 1, 0  ──resolve, ever after──▸  "a", "b", "a"

    :t,  t.to_symbol,  Symbol.new(t)  ──▸ v ──any time later──▸  v.to_string = t
                                                                 v is w  ⟺  t = u

In a symbol table a handle stands for one name and a name has one handle
(`SymbolTable.Names.eq_iff`), and a handle that stands for a name does so for good.  So whatever
names are interned in whatever order, equal handles are equal names.  An object that boxes the
handle of a text is the symbol of that text (`State.IsSymbolOf`) and stays so; whichever way it was
made, it is shown as its text and is the same as another symbol exactly if their texts are the same.
-/

namespace OpenScript

/-! ## Histories -/

namespace SymbolTable

variable {table : SymbolTable} {i j : SymbolId} {a b name : String} {names : List String}

/-- A handle stands for a name. -/
def Names (table : SymbolTable) (i : SymbolId) (name : String) : Prop := table.names[i]? = some name

theorem names_iff_resolve : table.Names i name ↔ i < table.size ∧ table.resolve i = name := by
  rw [Names, resolve, Array.getElem?_eq_some_iff]
  constructor
  · rintro ⟨hi, rfl⟩
    exact ⟨hi, by rw [Array.getElem?_eq_getElem hi, Option.getD_some]⟩
  · rintro ⟨hi, rfl⟩
    exact ⟨hi, by rw [Array.getElem?_eq_getElem hi, Option.getD_some]⟩

/-- **A handle stands for one name, and a name has one handle.** -/
theorem Names.eq_iff (hi : table.Names i a) (hj : table.Names j b) : i = j ↔ a = b := by
  constructor
  · rintro rfl
    exact Option.some.inj (hi.symm.trans hj)
  · rintro rfl
    have one : table.ids[a]? = some i := (table.inverse a i).2 hi
    have other : table.ids[a]? = some j := (table.inverse a j).2 hj
    exact Option.some.inj (one.symm.trans other)

theorem names_intern (table : SymbolTable) (name : String) :
    (table.intern name).2.Names (table.intern name).1 name := table.getElem?_intern name

/-- A handle keeps its name when another name is interned. -/
theorem Names.intern (h : table.Names i a) (name : String) : (table.intern name).2.Names i a :=
  (table.getElem?_intern_of_lt name (names_iff_resolve.1 h).1).trans h

theorem mem_names_intern : a ∈ (table.intern name).2.names ↔ a ∈ table.names ∨ a = name := by
  constructor
  · intro h
    cases hn : table.ids[name]? with
    | some i =>
      rw [intern_of_some table name hn] at h
      exact .inl h
    | none =>
      rw [(names_intern_of_none table name hn).2] at h
      exact Array.mem_push.1 h
  · rintro (h | rfl)
    · obtain ⟨i, hi⟩ := Array.mem_iff_getElem?.1 h
      exact Array.mem_iff_getElem?.2 ⟨i, Names.intern hi name⟩
    · exact Array.mem_iff_getElem?.2 ⟨_, table.names_intern a⟩

/-- No name is in a table twice. -/
theorem nodup_names (table : SymbolTable) : table.names.toList.Nodup := by
  refine List.nodup_iff_injective_get.2 fun i j same => Fin.ext ?_
  have hi : table.Names i (table.names.toList.get i) := by
    rw [Names, ← Array.getElem?_toList]
    exact List.getElem?_eq_getElem i.isLt
  have hj : table.Names j (table.names.toList.get j) := by
    rw [Names, ← Array.getElem?_toList]
    exact List.getElem?_eq_getElem j.isLt
  exact (hi.eq_iff hj).2 same

/-- Interns names one after another: their handles, and the table that is left. -/
def internAll : SymbolTable → List String → List SymbolId × SymbolTable
  | table, [] => ([], table)
  | table, name :: names =>
    let (i, table) := table.intern name
    let (is, table) := table.internAll names
    (i :: is, table)

/-- **A handle keeps its name**, whatever is interned afterwards. -/
theorem Names.internAll (h : table.Names i a) (names : List String) :
    (table.internAll names).2.Names i a := by
  induction names generalizing table with
  | nil => exact h
  | cons name names ih => exact ih (h.intern name)

/-- **All handles are shown as the names they were given for**, whatever is interned afterwards. -/
theorem map_resolve_internAll (table : SymbolTable) (names later : List String) :
    (table.internAll names).1.map ((table.internAll names).2.internAll later).2.resolve = names := by
  induction names generalizing table with
  | nil => rfl
  | cons name names ih =>
    have kept := ((table.names_intern name).internAll names).internAll later
    exact congrArg₂ List.cons (names_iff_resolve.1 kept).2 (ih (table.intern name).2)

theorem lt_size_of_mem_internAll (h : i ∈ (table.internAll names).1) :
    i < (table.internAll names).2.size := by
  induction names generalizing table with
  | nil => exact absurd h List.not_mem_nil
  | cons name names ih =>
    rcases List.mem_cons.1 h with rfl | h
    · exact (names_iff_resolve.1 ((table.names_intern name).internAll names)).1
    · exact ih h

/-- **Handles are equal where names are.** -/
theorem getElem?_internAll_eq_iff (table : SymbolTable) (names : List String) (j k : Nat) :
    (table.internAll names).1[j]? = (table.internAll names).1[k]? ↔ names[j]? = names[k]? := by
  have shown (j : Nat) :
      names[j]? = (table.internAll names).1[j]?.map (table.internAll names).2.resolve := by
    conv_lhs => rw [← map_resolve_internAll table names []]
    exact List.getElem?_map
  have named {j : Nat} {i : SymbolId} (hi : (table.internAll names).1[j]? = some i) :
      (table.internAll names).2.Names i ((table.internAll names).2.resolve i) :=
    names_iff_resolve.2 ⟨lt_size_of_mem_internAll (List.mem_of_getElem? hi), rfl⟩
  rw [shown j, shown k]
  refine ⟨congrArg _, fun same => ?_⟩
  cases hj : (table.internAll names).1[j]? with
  | none =>
    rw [hj] at same
    exact (Option.map_eq_none_iff.1 same.symm).symm
  | some i =>
    rw [hj] at same
    obtain ⟨i', hk, resolved⟩ := Option.map_eq_some_iff.1 same.symm
    rw [hk, ((named hj).eq_iff (named hk)).2 resolved.symm]

theorem mem_names_internAll :
    a ∈ (table.internAll names).2.names ↔ a ∈ table.names ∨ a ∈ names := by
  induction names generalizing table with
  | nil => exact (or_iff_left List.not_mem_nil).symm
  | cons name names ih =>
    rw [List.mem_cons, ← or_assoc, ← mem_names_intern]
    exact ih

/-- **A table that starts empty has as many names as there are different ones.** -/
theorem size_internAll (names : List String) :
    ((∅ : SymbolTable).internAll names).2.size = names.dedup.length := by
  have same (a : String) :
      a ∈ ((∅ : SymbolTable).internAll names).2.names.toList ↔ a ∈ names.dedup := by
    rw [Array.mem_toList_iff, mem_names_internAll, List.mem_dedup]
    exact or_iff_right (Array.not_mem_empty a)
  exact ((List.perm_ext_iff_of_nodup (nodup_names _) names.nodup_dedup).2 same).length_eq

end SymbolTable

/-! ## Symbols of texts -/

namespace State

variable {s s' : State} {v w : Value} {text text' name : String} {c : ClassId} {b : Builtin}

/-- A value is the symbol of a text: an instance of `Symbol` that boxes the handle of the text. -/
structure IsSymbolOf (s : State) (v : Value) (text : String) : Prop where
  cls : s.classOf v = Core.symbol
  handle : ∃ i, s.payload v = .symbol i ∧ s.symbols.Names i text

theorem Persists.names (h : s.Persists s') {i : SymbolId} (hi : s.symbols.Names i name) :
    s'.symbols.Names i name := by
  obtain ⟨there, rfl⟩ := SymbolTable.names_iff_resolve.1 hi
  obtain ⟨there', kept⟩ := h.symbols there
  exact SymbolTable.names_iff_resolve.2 ⟨there', kept⟩

/-- **A symbol stays the symbol of its text.** -/
theorem IsSymbolOf.persists (h : s.IsSymbolOf v text) (hp : s.Persists s') :
    s'.IsSymbolOf v text := by
  obtain ⟨cls, i, boxed, named⟩ := h
  cases v with
  | nil | cls => cases boxed
  | object o =>
    have there : o < s.objects.size := by
      refine Nat.lt_of_not_le fun past => ?_
      have none : (s.objectAt o).payload = .none := payload_of_le past
      exact nomatch none.symm.trans boxed
    obtain ⟨cls', payload⟩ := hp.keepsBoxes o there
    exact ⟨cls'.trans cls, i, payload.trans boxed, hp.names named⟩

theorem IsSymbolOf.depth (h : s.IsSymbolOf v text) (d : Nat) :
    IsSymbolOf { s with depth := d } v text := h.persists (Grows.persists { Grows.refl s with })

theorem IsSymbolOf.symbol?_eq_some (h : s.IsSymbolOf v text) :
    ∃ i, s.symbol? v = some i ∧ s.symbols.Names i text := by
  obtain ⟨-, i, boxed, named⟩ := h
  exact ⟨i, by rw [symbol?, boxed], named⟩

/-- **Two symbols are the same exactly if their texts are.** -/
theorem IsSymbolOf.sameSymbol (hv : s.IsSymbolOf v text) (hw : s.IsSymbolOf w text') :
    s.sameSymbol v w = decide (text = text') := by
  obtain ⟨i, hi, named⟩ := hv.symbol?_eq_some
  obtain ⟨j, hj, named'⟩ := hw.symbol?_eq_some
  rw [Bool.eq_iff_iff, decide_eq_true_iff, ← named.eq_iff named', State.sameSymbol, hi, hj]
  simp

theorem IsSymbolOf.isExact (h : s.IsSymbolOf v text) : s.IsExact v := by
  obtain ⟨-, i, boxed, -⟩ := h
  exact isExact_of_eq boxed nofun

theorem IsSymbolOf.equal (hv : s.IsSymbolOf v text) (hw : s.IsSymbolOf w text') :
    s.equal v w = decide (text = text') := by
  obtain ⟨-, i, boxed, named⟩ := id hv
  obtain ⟨-, j, boxed', named'⟩ := hw
  rw [Bool.eq_iff_iff, decide_eq_true_iff, ← named.eq_iff named', equal_iff hv.isExact]
  constructor
  · intro same
    exact Payload.symbol.inj (boxed.symm.trans (same.payload_eq.trans boxed'))
  · rintro rfl
    exact .symbol boxed boxed'

/-! ## Making symbols -/

/-- A fresh object for the symbol of a text. -/
def addSymbol (s : State) (text : String) : Value × State :=
  (s.intern text).2.box Core.symbol (.symbol (s.intern text).1)

theorem persists_addSymbol (s : State) (text : String) : s.Persists (s.addSymbol text).2 :=
  ((s.grows_intern text).trans (grows_addObject _ _)).persists

theorem isSymbolOf_addSymbol (s : State) (text : String) :
    (s.addSymbol text).2.IsSymbolOf (s.addSymbol text).1 text where
  cls := congrArg Object.cls ((s.intern text).2.objectAt_addObject_size _)
  handle := ⟨_, (s.intern text).2.payload_box Core.symbol _, s.symbols.names_intern text⟩

/-- The instances of a class answer a name with a built-in method. -/
def Answers (s : State) (c : ClassId) (name : String) (b : Builtin) : Prop :=
  (s.findMethod? c name).bind (·.2.native?) = some (.builtin b)

instance : Decidable (s.Answers c name b) := inferInstanceAs (Decidable (_ = _))

theorem Answers.nativeOf? (h : s.Answers c name b) (hv : v ≠ .nil) (cls : s.classOf v = c)
    (other : c ≠ Core.cls) : s.nativeOf? v name = some (.builtin b) := by
  subst cls
  cases v with
  | nil => exact absurd rfl hv
  | cls => exact absurd rfl other
  | object o => exact h

/-- The ways to make the symbol of a text: to write it down, to convert a string, or to ask the
class `Symbol` for it. -/
inductive MakesSymbol (s : State) (text : String) : Eval Value → Prop where
  | literal (f : FrameId) : MakesSymbol s text (Eval.value (.symbol text) f)
  | conversion {v : Value} (hv : s.text? v = some text)
    (stands : s.Answers Core.string "to_symbol" .stringToSymbol) (left : s.depth < s.limit)
    (caller : FrameId) : MakesSymbol s text (Eval.send v "to_symbol" [] caller)
  /-- The string is asked for its text, one level deeper. -/
  | new {v : Value} (hv : s.text? v = some text)
    (stands : s.nativeOf? (.cls Core.symbol) "new" = some (.builtin .symbolNew))
    (shown : s.Answers Core.string "to_string" .stringToString) (left : s.depth + 2 ≤ s.limit)
    (caller : FrameId) : MakesSymbol s text (Eval.send (.cls Core.symbol) "new" [v] caller)

/-- Strings answer with the methods of `String`. -/
theorem Reachable.nativeOf?_of_text (h : s.Reachable) (hv : s.text? v = some text)
    (stands : s.Answers Core.string name b) : s.nativeOf? v name = some (.builtin b) := by
  have boxed : s.payload v = .text text := payload_of_text? hv
  refine stands.nativeOf? ?_ (h.classOf_eq_home boxed nofun) (by decide)
  rintro rfl
  cases boxed

end State

namespace Eval

variable {s s' : State} {v : Value} {text : String}

theorem text?_depth (d : Nat) (v : Value) :
    State.text? { s with depth := d } v = s.text? v := by
  rw [State.text?, State.payload_depth]
  rfl

theorem run_stringToSymbol (hv : s.text? v = some text) (caller : FrameId) :
    Builtin.run v [] caller .stringToSymbol s
      = .done (.ok (s.addSymbol text).1) (s.addSymbol text).2 := by
  have counted : expect "to_symbol" 0 [] s = .done (.ok ()) s := rfl
  rw [Builtin.run, bind_of_done counted, bind_of_done (theText_of_some hv)]
  rfl

/-- A string is its own text. -/
theorem ends_stringify_of_text (hv : s.text? v = some text) (left : s.depth < s.limit)
    (found : s.nativeOf? v "to_string" = some (.builtin .stringToString)) :
    (stringify v).Ends s (.ok text) s := by
  have run : (Native.builtin .stringToString).run v [] Core.root { s with depth := s.depth + 1 }
      = .done (.ok v) { s with depth := s.depth + 1 } := rfl
  exact ends_stringify_iff.2 (.text ((ends_send_of_done found left run).2 ⟨rfl, rfl⟩) hv)

end Eval

namespace State

variable {s s' : State} {v w : Value} {text text' name : String} {c : ClassId} {b : Builtin}
  {x : Eval Value}

/-- **However the symbol of a text is made, it is added and nothing else changes.** -/
theorem MakesSymbol.ends (h : s.MakesSymbol text x) (reached : s.Reachable) :
    x.Ends s (.ok (s.addSymbol text).1) (s.addSymbol text).2 := by
  cases h with
  | literal f =>
    have made : (Eval.node (.symbol text) f).Ends s (.ok (.normal (s.addSymbol text).1))
        (s.addSymbol text).2 := Eval.ends_node_iff.2 ((Eval.ends_of_done rfl).2 ⟨rfl, rfl⟩)
    exact Eval.ends_value_iff.2 ⟨_, made, rfl⟩
  | conversion hv stands left caller =>
    have found := reached.nativeOf?_of_text hv stands
    have run := Eval.run_stringToSymbol ((Eval.text?_depth (s.depth + 1) _).trans hv) caller
    exact (Eval.ends_send_of_done found left run).2 ⟨rfl, rfl⟩
  | @new v hv stands shown left caller =>
    have found := reached.nativeOf?_of_text hv shown
    have text : (Eval.stringify v).Ends { s with depth := s.depth + 1 } (.ok text)
        { s with depth := s.depth + 1 } :=
      Eval.ends_stringify_of_text ((Eval.text?_depth _ _).trans hv) left
        ((nativeOf?_depth _).trans found)
    have run : (Eval.stringify v >>= Eval.symbol).Ends { s with depth := s.depth + 1 } _ _ :=
      (Eval.ends_bind_of_ends text).2 ((Eval.ends_of_done rfl).2 ⟨rfl, rfl⟩)
    exact (Eval.ends_send_native_iff stands (Nat.lt_of_succ_lt left)).2 ⟨_, run, rfl⟩

/-! ## Asking symbols -/

theorem IsSymbolOf.nativeOf? (h : s.IsSymbolOf v text) (stands : s.Answers Core.symbol name b) :
    s.nativeOf? v name = some (.builtin b) := by
  refine stands.nativeOf? ?_ h.cls (by decide)
  rintro rfl
  obtain ⟨-, i, boxed, -⟩ := h
  cases boxed

theorem run_symbolToString (h : s.IsSymbolOf v text) (caller : FrameId) :
    Builtin.run v [] caller .symbolToString s
      = .done (.ok (s.box Core.string (.text text)).1) (s.box Core.string (.text text)).2 := by
  obtain ⟨i, hi, named⟩ := h.symbol?_eq_some
  have counted : Eval.expect "to_string" 0 [] s = .done (.ok ()) s := rfl
  have looked : Eval.state s = .done (.ok s) s := rfl
  rw [Builtin.run, Eval.bind_of_done counted, Eval.bind_of_done looked, hi,
    ← (SymbolTable.names_iff_resolve.1 named).2]
  rfl

theorem IsSymbolOf.ends_to_string (h : s.IsSymbolOf v text)
    (stands : s.Answers Core.symbol "to_string" .symbolToString) (left : s.depth < s.limit)
    (caller : FrameId) :
    (Eval.send v "to_string" [] caller).Ends s (.ok (s.box Core.string (.text text)).1)
      (s.box Core.string (.text text)).2 :=
  (Eval.ends_send_of_done (h.nativeOf? stands) left (run_symbolToString (h.depth _) caller)).2
    ⟨rfl, rfl⟩

theorem IsSymbolOf.tells_is (hv : s.IsSymbolOf v text) (hw : s.IsSymbolOf w text')
    (stands : s.Answers Core.symbol "is" .symbolIs) (left : s.depth < s.limit) :
    s.Tells v "is" w (.ok (decide (text = text'))) := by
  intro caller out s'
  rw [Eval.ends_send_symbolIs (hv.nativeOf? stands) left, List.head?_cons, Option.any_some,
    hv.sameSymbol hw]
  rfl

theorem IsSymbolOf.tells_equal (hv : s.IsSymbolOf v text) (hw : s.IsSymbolOf w text')
    (stands : s.Answers Core.symbol "==" .objectEqual) (left : s.depth < s.limit) :
    s.Tells v "==" w (.ok (decide (text = text'))) :=
  hv.equal hw ▸ tells_equal_of_object (hv.nativeOf? stands) left

/-! ## Where nobody redefines -/

/-- Core classes inherit as at the start. -/
theorem Reachable.ancestors_eq_initial (h : s.Reachable) (hc : c ≤ Core.lambda)
    (other : c ≠ Core.object) : s.ancestors c = (State.initial 0).ancestors c :=
  (h.ancestors_core hc other).trans ((Reachable.fresh 0).ancestors_core hc other).symm

section Sparing

variable {names : List String} (h : s.ReachedSparing names) (hn : name ∈ names)
include h hn

/-- **Where nobody defines a name, core classes answer it as at the start.** -/
theorem ReachedSparing.answers (hc : c ≤ Core.lambda) (other : c ≠ Core.object)
    (fresh : (State.initial 0).Answers c name b) : s.Answers c name b := by
  have way := h.reachedBy.reachable.ancestors_eq_initial hc other
  have same : s.findMethod? c name = (State.initial 0).findMethod? c name := by
    simp only [findMethod?, way, (h.asFresh name hn _).1]
  rw [Answers, same]
  exact fresh

/-- So they do as values. -/
theorem ReachedSparing.nativeOf?_cls (hc : c ≤ Core.lambda) (other : c ≠ Core.object)
    (fresh : (State.initial 0).nativeOf? (.cls c) name = some (.builtin b)) :
    s.nativeOf? (.cls c) name = some (.builtin b) := by
  have way := h.reachedBy.reachable.ancestors_eq_initial hc other
  have up := h.reachedBy.reachable.ancestors_eq_initial (c := Core.cls) (by decide) (by decide)
  have same : s.methodOf? (.cls c) name = (State.initial 0).methodOf? (.cls c) name := by
    simp only [methodOf?, findClassMethod?, findMethod?, way, up, (h.asFresh name hn _).1,
      (h.asFresh name hn _).2]
  rw [State.nativeOf?, same]
  exact fresh

end Sparing

/-- The methods that make, show and compare symbols are those that an interpreter starts with. -/
structure SymbolsStand (s : State) : Prop where
  conversion : s.Answers Core.string "to_symbol" .stringToSymbol
  text : s.Answers Core.string "to_string" .stringToString
  new : s.nativeOf? (.cls Core.symbol) "new" = some (.builtin .symbolNew)
  shown : s.Answers Core.symbol "to_string" .symbolToString
  same : s.Answers Core.symbol "is" .symbolIs
  equal : s.Answers Core.symbol "==" .objectEqual

/-- Their names. -/
def symbolMethods : List String := ["to_symbol", "to_string", "new", "is", "=="]

theorem ReachedSparing.symbolsStand (h : s.ReachedSparing symbolMethods) : s.SymbolsStand where
  conversion := h.answers (by decide) (by decide) (by decide) (by decide +kernel)
  text := h.answers (by decide) (by decide) (by decide) (by decide +kernel)
  new := h.nativeOf?_cls (by decide) (by decide) (by decide) (by decide +kernel)
  shown := h.answers (by decide) (by decide) (by decide) (by decide +kernel)
  same := h.answers (by decide) (by decide) (by decide) (by decide +kernel)
  equal := h.answers (by decide) (by decide) (by decide) (by decide +kernel)

end State

/-! ## Symbols stand for texts -/

/-- An evaluation ends with a value, and value and state are as described.  There is no other way
to end (`Ends.unique`). -/
def Eval.Gives (x : Eval Value) (s : State) (P : Value → State → Prop) : Prop :=
  ∃ v s', x.Ends s (.ok v) s' ∧ P v s'

namespace State

/-- **Symbols stand for texts, one for one and for good.**  Whatever names are interned one after
another, two handles are equal exactly if their names are, each handle is shown as its name at every
later time, and there are as many handles as different names, numbered from zero.  So the symbol of
a text, however it is made, is shown as that text at every later time, and it is the same as and
equal to a symbol made at any later time exactly if that is the symbol of the same text, where
`Symbol` has its own methods and a level is left. -/
theorem symbols_stand_for_texts :
    (∀ names later : List String,
      let made := (∅ : SymbolTable).internAll names
      (∀ j k : Nat, made.1[j]? = made.1[k]? ↔ names[j]? = names[k]?) ∧
      made.1.map (made.2.internAll later).2.resolve = names ∧
      made.2.size = names.dedup.length ∧ ∀ i ∈ made.1, i < names.dedup.length) ∧
    ∀ (s : State) text x, s.Reachable → s.MakesSymbol text x → x.Gives s fun v s₁ =>
      (∀ s₂ caller, s₁.Later s₂ → s₂.Answers Core.symbol "to_string" .symbolToString →
        s₂.depth < s₂.limit →
        (Eval.send v "to_string" [] caller).Gives s₂ fun u s' => s'.text? u = some text) ∧
      ∀ s₂ text' y, s₁.Later s₂ → s₂.Reachable → s₂.MakesSymbol text' y →
        y.Gives s₂ fun w s₃ => ∀ s₄, s₃.Later s₄ → s₄.depth < s₄.limit →
          (s₄.Answers Core.symbol "is" .symbolIs →
            s₄.Tells v "is" w (.ok (text = text')) ∧ s₄.Tells w "is" v (.ok (text = text'))) ∧
          (s₄.Answers Core.symbol "==" .objectEqual →
            s₄.Tells v "==" w (.ok (text = text')) ∧ s₄.Tells w "==" v (.ok (text = text'))) := by
  refine ⟨fun names later => ?_, fun s text x reached makes => ?_⟩
  · have size := SymbolTable.size_internAll names
    exact ⟨SymbolTable.getElem?_internAll_eq_iff ∅ names,
      SymbolTable.map_resolve_internAll ∅ names later, size,
      fun i hi => size ▸ SymbolTable.lt_size_of_mem_internAll hi⟩
  have made := s.isSymbolOf_addSymbol text
  refine ⟨_, _, makes.ends reached, fun s₂ caller later stands left => ?_,
    fun s₂ text' y later reached' makes' => ?_⟩
  · have shown := (made.persists later.persists).ends_to_string stands left caller
    exact ⟨_, _, shown, s₂.text?_box Core.string text⟩
  have made' := s₂.isSymbolOf_addSymbol text'
  refine ⟨_, _, makes'.ends reached', fun s₄ later' left => ?_⟩
  have between : s₂.IsSymbolOf _ text := made.persists later.persists
  have hv := (between.persists (s₂.persists_addSymbol text')).persists later'.persists
  have hw := made'.persists later'.persists
  have swapped : decide (text' = text) = decide (text = text') := decide_eq_decide.2 eq_comm
  refine ⟨fun stands => ⟨hv.tells_is hw stands left, ?_⟩,
    fun stands => ⟨hv.tells_equal hw stands left, ?_⟩⟩
  · exact swapped ▸ hw.tells_is hv stands left
  · exact swapped ▸ hw.tells_equal hv stands left

/-- A string. -/
def red : Program := [.setGlobal "$t" (.text "red")]

/-- The string, object 3, is converted, and `Symbol` is asked for its symbol afterwards. -/
theorem symbols_stand_for_texts_red : ∃ (s : State) (v : Value) (s₁ : State) (w : Value)
    (s₂ : State), s.Reachable ∧ s.text? (.object 3) = some "red" ∧
    (Eval.send (.object 3) "to_symbol" [] Core.root).Ends s (.ok v) s₁ ∧
    (Eval.send (.cls Core.symbol) "new" [.object 3] Core.root).Ends s₁ (.ok w) s₂ ∧
    s₂.Tells v "is" w (.ok true) ∧ s₂.Tells w "==" v (.ok true) ∧
    ∃ u s₃, (Eval.send v "to_string" [] Core.root).Ends s₂ (.ok u) s₃ ∧
      s₃.text? u = some "red" := by
  let test (s : State) : Bool := decide (s.depth + 2 ≤ s.limit ∧ 3 < s.objects.size ∧
    s.text? (.object 3) = some "red" ∧ (s.addSymbol "red").2.text? (.object 3) = some "red")
  obtain ⟨s, sparing, ht⟩ := exists_reachedSparing_of_run symbolMethods 5 100 red test
    (by decide +kernel) (by decide +kernel)
  obtain ⟨left, there, text, still⟩ := of_decide_eq_true ht
  have h : s.Reachable := sparing.reachedBy.reachable
  have one : s.depth < s.limit := Nat.lt_of_succ_lt left
  have converts := MakesSymbol.conversion text sparing.symbolsStand.conversion one Core.root
  obtain ⟨v, s₁, made, back, compare⟩ := symbols_stand_for_texts.2 s "red" _ h converts
  have request : RequestOf (Node.Spares symbolMethods) s
      (Eval.send (.object 3) "to_symbol" [] Core.root) :=
    .send (v := .object 3) _ there (fun _ none => absurd none List.not_mem_nil)
      h.wellFormed.inv.rootIn
  have sparing₁ := sparing.ends request made
  obtain ⟨-, rfl⟩ := (converts.ends h).unique made
  -- the string is still there when `Symbol` is asked
  have h₁ := sparing₁.reachedBy.reachable
  have stand₁ := sparing₁.symbolsStand
  have asks := MakesSymbol.new still stand₁.new stand₁.text left Core.root
  obtain ⟨w, s₂, made', told⟩ := compare _ "red" _ .refl h₁ asks
  have request' : RequestOf (Node.Spares symbolMethods) (s.addSymbol "red").2
      (Eval.send (.cls Core.symbol) "new" [.object 3] Core.root) := by
    refine .send _ (Nat.lt_trans (by decide) h₁.wellFormed.inv.classes) (fun v hv => ?_)
      h₁.wellFormed.inv.rootIn
    obtain rfl := List.mem_singleton.1 hv
    exact Nat.lt_of_lt_of_le there (s.persists_addSymbol "red").objects.size_le
  have stand₂ := (sparing₁.ends request' made').symbolsStand
  have between := later_of_ends h₁.wellFormed request'.request made'
  obtain ⟨-, rfl⟩ := (asks.ends h₁).unique made'
  obtain ⟨same, equal⟩ := told _ .refl one
  obtain ⟨u, s₃, shown, isRed⟩ := back _ Core.root between stand₂.shown one
  exact ⟨s, v, _, w, _, h, text, made, made', (same stand₂.same).1, (equal stand₂.equal).2, u, s₃,
    shown, isRed⟩

end State

end OpenScript
