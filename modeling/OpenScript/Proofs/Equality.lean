import OpenScript.Proofs.Boxes
import OpenScript.Proofs.Sparing

/-!
# Proofs/Equality — the `==` that nobody redefined

    a == b  ──dispatch──▸  Integer, Float: comparison of numbers      a ≠ bare number
                           Object: same value or equal data       ⟹  both say the same

Values are equal if they are the same or box equal data (`State.SameData`), an equivalence.  Numbers
answer `==` with a method of their own and all other values with that of `Object`, but what decides
is the class: an instance of `Integer`, of `Float` or of a class below them that boxes no number
(`State.IsBareNumber`) gets the comparison of numbers too, and that one is not made for it.  For all
other values `==` and `!=` tell whether two values are equal (`State.ReachedSparing.equality`).
-/

namespace OpenScript.State

variable {s s' : State} {a b v w : Value} {name : String}

/-! ## What is boxed -/

theorem eq_none_of_matches {p : Payload} (h : (p matches .none) = true) : p = .none := by
  cases p with
  | none => rfl
  | _ => exact nomatch h

theorem payload_of_int? {n : Int64} (h : s.int? v = some n) : s.payload v = .int n := by
  unfold int? at h
  split at h
  · next hp => exact Option.some.inj h ▸ hp
  · cases h

theorem payload_of_text? {text : String} (h : s.text? v = some text) : s.payload v = .text text := by
  unfold text? at h
  split at h
  · next t ht => exact Option.some.inj h ▸ ht
  · cases h

/-! ## Equal data -/

/-- Two values are the same, or box equal integers, texts, symbols or truth values.  No two lambdas
have equal data, and plain objects, classes and `nil` have none. -/
inductive SameData (s : State) : Value → Value → Prop where
  | refl (v : Value) : SameData s v v
  | int {v w : Value} {n : Int64} (hv : s.payload v = .int n) (hw : s.payload w = .int n) :
    SameData s v w
  | text {v w : Value} {t : String} (hv : s.payload v = .text t) (hw : s.payload w = .text t) :
    SameData s v w
  | symbol {v w : Value} {i : SymbolId} (hv : s.payload v = .symbol i)
    (hw : s.payload w = .symbol i) : SameData s v w
  | bool {v w : Value} {t : Bool} (hv : s.payload v = .bool t) (hw : s.payload w = .bool t) :
    SameData s v w

namespace SameData

/-- Equal data are the same payload. -/
theorem payload_eq (h : s.SameData v w) : s.payload v = s.payload w := by
  cases h with
  | refl => rfl
  | int hv hw | text hv hw | symbol hv hw | bool hv hw => exact hv.trans hw.symm

theorem symm (h : s.SameData v w) : s.SameData w v := by
  cases h with
  | refl => exact .refl v
  | int hv hw => exact .int hw hv
  | text hv hw => exact .text hw hv
  | symbol hv hw => exact .symbol hw hv
  | bool hv hw => exact .bool hw hv

theorem trans {u : Value} (h : s.SameData u v) (h' : s.SameData v w) : s.SameData u w := by
  cases h with
  | refl => exact h'
  | int hu hv => exact .int hu (h'.payload_eq ▸ hv)
  | text hu hv => exact .text hu (h'.payload_eq ▸ hv)
  | symbol hu hv => exact .symbol hu (h'.payload_eq ▸ hv)
  | bool hu hv => exact .bool hu (h'.payload_eq ▸ hv)

end SameData

/-- **To have equal data is an equivalence.** -/
theorem sameData_equivalence (s : State) : Equivalence s.SameData :=
  ⟨.refl, .symm, .trans⟩

/-- A value that boxes no double. -/
def IsExact (s : State) (v : Value) : Prop := ∀ x, s.payload v ≠ .float x

theorem isExact_of_eq {p : Payload} (h : s.payload v = p) (hp : ∀ x, p ≠ .float x) :
    s.IsExact v := fun x e => hp x (h.symm.trans e)

/-- **Values that box no double are equal exactly if they have equal data.** -/
theorem equal_iff (ha : s.IsExact a) : s.equal a b = true ↔ s.SameData a b := by
  rw [equal, Bool.or_eq_true, beq_iff_eq]
  constructor
  · rintro (rfl | agrees)
    · exact .refl a
    · generalize hp : s.payload a = p, hq : s.payload b = q at agrees
      unfold Payload.agrees at agrees
      split at agrees
      · exact .int hp (eq_of_beq agrees ▸ hq)
      · exact absurd hp (ha _)
      · exact .text hp (eq_of_beq agrees ▸ hq)
      · exact .symbol hp (eq_of_beq agrees ▸ hq)
      · exact .bool hp (eq_of_beq agrees ▸ hq)
      · exact absurd agrees Bool.false_ne_true
  · intro h
    cases h with
    | refl => exact .inl rfl
    | int hv hw | text hv hw | symbol hv hw | bool hv hw =>
      rw [hv, hw]
      exact .inr (beq_self_eq_true _)

/-! ## What `==` finds -/

/-- An instance of a number class, or of a class below one, that boxes no number. -/
def IsBareNumber (s : State) (v : Value) : Prop :=
  s.payload v = .none ∧ ∃ c ∈ [Core.integer, Core.float], c ∈ s.ancestors (s.classOf v)

/-- Which method of a fresh interpreter stands under `==` in a class. -/
def equalAt? (c : ClassId) : Option Builtin :=
  if c = Core.object then some .objectEqual
  else if c ∈ [Core.integer, Core.float] then some (.numberComparison .equal)
  else none

/-- Which method of a fresh interpreter stands under `!=` in a class. -/
def notEqualAt? (c : ClassId) : Option Builtin :=
  if c = Core.object then some .objectNotEqual else none

/-- The tables have under a name what a function says and nothing on the classes' own side. -/
def Stands (s : State) (name : String) (g : ClassId → Option Builtin) : Prop :=
  ∀ c, (s.classAt c).methods[name]?.map Method.native? = (g c).map (some ∘ .builtin) ∧
    (s.classAt c).classMethods[name]? = none

/-- A table that is as in a fresh interpreter has what is listed for it. -/
theorem AsFresh.stands {names : List String} (h : s.AsFresh names) (hn : name ∈ names)
    {g : ClassId → Option Builtin}
    (core : ∀ c < 9, (Core.methodsOf c).reverse.lookup name = g c ∧
      (Core.classMethodsOf c).reverse.lookup name = none)
    (past : ∀ c, 9 ≤ c → g c = none) : s.Stands name g := by
  intro c
  obtain ⟨methods, classMethods⟩ := h name hn c
  have listed : (Core.methodsOf c).reverse.lookup name = g c ∧
      (Core.classMethodsOf c).reverse.lookup name = none := by
    rcases Nat.lt_or_ge c 9 with there | later
    · exact core c there
    · rw [past c later, Core.methodsOf, List.getElem?_eq_none later, Core.classMethodsOf,
        if_neg fun e => absurd (e ▸ later) (by decide)]
      exact ⟨rfl, rfl⟩
  rw [methods, classMethods, getElem?_methods_initial, getElem?_classMethods_initial, listed.1,
    listed.2, Option.map_map]
  exact ⟨rfl, rfl⟩

theorem stands_equal (h : s.AsFresh ["==", "!="]) : s.Stands "==" equalAt? := by
  refine h.stands (by decide) (by decide) fun c later => ?_
  have core : ∀ k ∈ [Core.object, Core.integer, Core.float], k < 9 := by decide
  have past : c ∉ [Core.object, Core.integer, Core.float] :=
    fun hm => absurd (core c hm) (Nat.not_lt_of_le later)
  obtain ⟨notTop, notNumber⟩ := not_or.1 (mt List.mem_cons.2 past)
  rw [equalAt?, if_neg notTop, if_neg notNumber]

theorem stands_notEqual (h : s.AsFresh ["==", "!="]) : s.Stands "!=" notEqualAt? := by
  refine h.stands (by decide) (by decide) fun c later => ?_
  have notTop : c ≠ Core.object := by
    rintro rfl
    exact absurd later (by decide)
  rw [notEqualAt?, if_neg notTop]

/-- Where the tables are known, so is what a value answers with: the first that stands there on the
way up from its class. -/
theorem Stands.nativeOf?_eq {g : ClassId → Option Builtin} (h : s.Stands name g) (v : Value) :
    s.nativeOf? v name = ((s.ancestors (s.classOf v)).findSome? g).map .builtin := by
  have climb (cs : List ClassId) :
      (cs.findSome? fun c => (s.classAt c).methods[name]?.map (c, ·)).bind (·.2.native?)
        = (cs.findSome? g).map .builtin := by
    induction cs with
    | nil => rfl
    | cons c cs ih =>
      have here := (h c).1
      rw [List.findSome?_cons, List.findSome?_cons]
      cases hm : (s.classAt c).methods[name]? with
      | none =>
        rw [hm] at here
        cases hg : g c with
        | none => exact ih
        | some b => rw [hg] at here; cases here
      | some m =>
        rw [hm] at here
        cases hg : g c with
        | none => rw [hg] at here; cases here
        | some b => rw [hg] at here; exact Option.some.inj here
  cases v with
  | nil | object => exact climb _
  | cls c =>
    have own : s.findClassMethod? c name = none :=
      List.findSome?_eq_none_iff.2 fun d _ => by rw [(h d).2]; rfl
    rw [nativeOf?, methodOf?, own, Option.none_or]
    exact climb _

/-- Whatever class a value has, `Object` is on the way up, and last. -/
theorem Tree.exists_ancestors (h : s.Tree) {c : ClassId} (hc : c < s.classes.size) :
    ∃ before, s.ancestors c = before ++ [Core.object] :=
  List.getLast?_eq_some_iff.1 (h.getLast?_ancestors hc)

section Dispatch

variable (h : s.Reachable) (fresh : s.AsFresh ["==", "!="])
include h fresh

theorem nativeOf?_notEqual (v : Value) :
    s.nativeOf? v "!=" = some (.builtin .objectNotEqual) := by
  obtain ⟨before, way⟩ := h.tree.exists_ancestors (h.wellFormed.has (known_classOf s v))
  rw [(stands_notEqual fresh).nativeOf?_eq, way, List.findSome?_append]
  cases hb : before.findSome? notEqualAt? with
  | none => rfl
  | some b =>
    obtain ⟨c, -, hc⟩ := List.exists_of_findSome?_eq_some hb
    unfold notEqualAt? at hc
    split at hc
    · obtain rfl := Option.some.inj hc
      rfl
    · cases hc

/-- **Below a number class `==` compares numbers.** -/
theorem nativeOf?_equal_of_number {v : Value} {c : ClassId} (hc : c ∈ [Core.integer, Core.float])
    (below : c ∈ s.ancestors (s.classOf v)) :
    s.nativeOf? v "==" = some (.builtin (.numberComparison .equal)) := by
  obtain ⟨before, way⟩ := h.tree.exists_ancestors (h.wellFormed.has (known_classOf s v))
  have other {c : ClassId} (hc : c ∈ [Core.integer, Core.float]) : c ≠ Core.object := by
    rintro rfl
    exact absurd hc (by decide)
  have at_number {c : ClassId} (hc : c ∈ [Core.integer, Core.float]) :
      equalAt? c = some (.numberComparison .equal) := by
    rw [equalAt?, if_neg (other hc), if_pos hc]
  have earlier : c ∈ before := by
    rw [way] at below
    rcases List.mem_append.1 below with below | top
    · exact below
    · exact absurd (List.mem_singleton.1 top) (other hc)
  rw [(stands_equal fresh).nativeOf?_eq, way, List.findSome?_append]
  cases hb : before.findSome? equalAt? with
  | none => cases (List.findSome?_eq_none_iff.1 hb c earlier).symm.trans (at_number hc)
  | some b =>
    obtain ⟨d, hd, found⟩ := List.exists_of_findSome?_eq_some hb
    -- `Object` comes last and only once
    have notTop : d ≠ Core.object := by
      rintro rfl
      have nodup := h.tree.nodup_ancestors (s.classOf v)
      rw [way] at nodup
      exact (List.nodup_append.1 nodup).2.2 _ hd _ (List.mem_singleton_self _) rfl
    rw [equalAt?, if_neg notTop] at found
    split at found
    · obtain rfl := Option.some.inj found
      rfl
    · cases found

/-- **Elsewhere `==` is that of `Object`.** -/
theorem nativeOf?_equal_of_other {v : Value}
    (other : ∀ c ∈ [Core.integer, Core.float], c ∉ s.ancestors (s.classOf v)) :
    s.nativeOf? v "==" = some (.builtin .objectEqual) := by
  obtain ⟨before, way⟩ := h.tree.exists_ancestors (h.wellFormed.has (known_classOf s v))
  rw [way] at other
  rw [(stands_equal fresh).nativeOf?_eq, way, List.findSome?_append]
  cases hb : before.findSome? equalAt? with
  | none => rfl
  | some b =>
    obtain ⟨d, hd, found⟩ := List.exists_of_findSome?_eq_some hb
    unfold equalAt? at found
    split at found
    · obtain rfl := Option.some.inj found
      rfl
    · split at found
      · next number => exact absurd (List.mem_append_left _ hd) (other d number)
      · cases found

end Dispatch

/-! ## What `==` and `!=` tell -/

/-- Whoever asks a value a question about another, it ends with one answer and changes nothing. -/
def Tells (s : State) (a : Value) (name : String) (b : Value) (r : Outcome Bool) : Prop :=
  ∀ caller out s', (Eval.send a name [b] caller).Ends s out s' ↔
    out = r.map Core.bool ∧ s' = s

section Level

variable (d : Nat)

theorem payload_depth (v : Value) : State.payload { s with depth := d } v = s.payload v := by
  cases v <;> rfl

theorem equal_depth : State.equal { s with depth := d } a b = s.equal a b := by
  simp only [equal, payload_depth]

theorem nativeOf?_depth : State.nativeOf? { s with depth := d } a name = s.nativeOf? a name := by
  rw [nativeOf?, (s.alike_depth d).methodOf?]
  rfl

end Level

/-- A built-in method that only reads tells the same at every level. -/
theorem tells_of_run {n : Native} {r : Outcome Bool} (found : s.nativeOf? a name = some n)
    (run : ∀ d caller, n.run a [b] caller { s with depth := d }
      = .done (r.map Core.bool) { s with depth := d }) {d : Nat} (left : d < s.limit) :
    State.Tells { s with depth := d } a name b r := by
  intro caller out s'
  have found' : State.nativeOf? { s with depth := d } a name = some n :=
    (nativeOf?_depth d).trans found
  exact Eval.ends_send_of_done found' left (run (d + 1) caller)

theorem tells_equal_of_object (found : s.nativeOf? a "==" = some (.builtin .objectEqual)) {d : Nat}
    (left : d < s.limit) : State.Tells { s with depth := d } a "==" b (.ok (s.equal a b)) := by
  refine tells_of_run found (fun d caller => ?_) left
  rw [← equal_depth d]
  rfl

section Numbers

variable {m n : Number}

theorem run_equal_of_noNumber (caller : FrameId) (hb : Number.ofPayload? (s.payload b) = none) :
    Builtin.run a [b] caller (.numberComparison .equal) s = .done (.ok (Core.bool false)) s := by
  have argument : Eval.onlyArgument Comparison.equal.label [b] s = .done (.ok b) s := rfl
  have payload : Eval.read (·.payload b) s = .done (.ok (s.payload b)) s := rfl
  rw [Builtin.run, Eval.bind_of_done argument, Eval.bind_of_done payload, hb]
  rfl

/-- Against a number the receiver has to be one, too. -/
theorem run_equal_of_number (caller : FrameId) (hb : Number.ofPayload? (s.payload b) = some n) :
    Builtin.run a [b] caller (.numberComparison .equal) s
      = (do return Core.bool (Number.compare .equal (← Eval.theNumber a) (← Eval.theNumber b)) :
          Eval Value) s := by
  have argument : Eval.onlyArgument Comparison.equal.label [b] s = .done (.ok b) s := rfl
  have payload : Eval.read (·.payload b) s = .done (.ok (s.payload b)) s := rfl
  rw [Builtin.run, Eval.bind_of_done argument, Eval.bind_of_done payload, hb]

theorem run_equal_of_numbers (caller : FrameId)
    (ha : Number.ofPayload? (s.payload a) = some m)
    (hb : Number.ofPayload? (s.payload b) = some n) :
    Builtin.run a [b] caller (.numberComparison .equal) s
      = .done (.ok (Core.bool (Number.compare .equal m n))) s := by
  rw [run_equal_of_number caller hb, Eval.bind_of_done (Eval.theNumber_of_some ha),
    Eval.bind_of_done (Eval.theNumber_of_some hb)]
  rfl

theorem run_equal_of_bare (caller : FrameId)
    (ha : Number.ofPayload? (s.payload a) = none) (hb : Number.ofPayload? (s.payload b) = some n) :
    Builtin.run a [b] caller (.numberComparison .equal) s
      = .done (.error (.type "number" (s.classNameOf a))) s := by
  rw [run_equal_of_number caller hb, Eval.bind_of_error (Eval.theNumber_of_none ha)]

variable (found : s.nativeOf? a "==" = some (.builtin (.numberComparison .equal)))
include found

theorem tells_equal_of_noNumber (hb : Number.ofPayload? (s.payload b) = none) {d : Nat}
    (left : d < s.limit) : State.Tells { s with depth := d } a "==" b (.ok false) := by
  refine tells_of_run found (fun d caller => ?_) left
  exact run_equal_of_noNumber caller (by rw [payload_depth, hb])

theorem tells_equal_of_numbers (ha : Number.ofPayload? (s.payload a) = some m)
    (hb : Number.ofPayload? (s.payload b) = some n) {d : Nat} (left : d < s.limit) :
    State.Tells { s with depth := d } a "==" b (.ok (Number.compare .equal m n)) := by
  refine tells_of_run found (fun d caller => ?_) left
  exact run_equal_of_numbers caller (by rw [payload_depth, ha]) (by rw [payload_depth, hb])

theorem tells_equal_of_bare (ha : Number.ofPayload? (s.payload a) = none)
    (hb : Number.ofPayload? (s.payload b) = some n) {d : Nat} (left : d < s.limit) :
    State.Tells { s with depth := d } a "==" b (.error (.type "number" (s.classNameOf a))) := by
  refine tells_of_run found (fun d caller => ?_) left
  rw [← (s.alike_depth d).classNameOf a]
  exact run_equal_of_bare (n := n) caller (by rw [payload_depth, ha]) (by rw [payload_depth, hb])

/-- **The comparison of numbers tells of an integer what `Object` would.** -/
theorem tells_equal_of_int {k : Int64} (ha : s.payload a = .int k) (hb : s.IsExact b) {d : Nat}
    (left : d < s.limit) : State.Tells { s with depth := d } a "==" b (.ok (s.equal a b)) := by
  have ha' : Number.ofPayload? (s.payload a) = some (.int k) := by rw [ha]; rfl
  have agrees : s.equal a b = (s.payload a).agrees (s.payload b) := by
    rw [equal]
    cases e : a == b with
    | false => rfl
    | true =>
      rw [← eq_of_beq e, ha]
      exact (beq_self_eq_true k).symm
  rw [agrees, ha]
  generalize hq : s.payload b = q
  cases q with
  | int m => exact tells_equal_of_numbers found ha' (by rw [hq]; rfl) left
  | float x => exact absurd hq (hb x)
  | none | text | symbol | bool | lambda =>
    exact tells_equal_of_noNumber found (by rw [hq]; rfl) left

end Numbers

/-- Truth values stay what they are. -/
theorem Reachable.isTruthy_bool (h : s.Reachable) (t : Bool) : s.isTruthy (Core.bool t) = t := by
  obtain ⟨limit, later⟩ := h.later_initial
  have kept {o : ObjectId} (ho : o < 3) :
      (s.objectAt o).payload = ((State.initial limit).objectAt o).payload :=
    (later.persists.keepsBoxes o (size_objects_initial limit ▸ ho)).2
  cases t with
  | true =>
    change s.isTruthy (.object 1) = true
    rw [isTruthy, kept (by decide), objectAt, objects_initial]
    rfl
  | false =>
    change s.isTruthy (.object 2) = false
    rw [isTruthy, kept (by decide), objectAt, objects_initial]
    rfl

/-- **`!=` tells the opposite of `==`**, or fails as that does. -/
theorem tells_notEqual (h : s.Reachable)
    (found : s.nativeOf? a "!=" = some (.builtin .objectNotEqual)) (left : s.depth + 2 ≤ s.limit)
    {r : Outcome Bool} (equal : State.Tells { s with depth := s.depth + 1 } a "==" b r) :
    s.Tells a "!=" b (r.map not) := by
  intro caller out s'
  have asks : (Native.builtin .objectNotEqual).run a [b] caller { s with depth := s.depth + 1 }
      = (do
          let equal ← Eval.send a "==" [b] Core.root
          return Core.bool !(← Eval.read (·.isTruthy equal)) : Eval Value)
        { s with depth := s.depth + 1 } := rfl
  have negates (t : Bool) :
      (do return Core.bool !(← Eval.read (·.isTruthy (Core.bool t))) : Eval Value)
          { s with depth := s.depth + 1 }
        = .done (.ok (Core.bool !t)) { s with depth := s.depth + 1 } := by
    have truth : State.isTruthy { s with depth := s.depth + 1 } (Core.bool t) = t := by
      refine Eq.trans ?_ (h.isTruthy_bool t)
      cases t <;> rfl
    rw [Eval.bind_of_done (Eval.read_of_eq truth)]
    rfl
  have told : ((Native.builtin .objectNotEqual).run a [b] caller).Ends
      { s with depth := s.depth + 1 } ((r.map not).map Core.bool)
      { s with depth := s.depth + 1 } := by
    refine (Eval.ends_congr asks).2 (Eval.ends_bind_iff.2 ?_)
    have asked := (equal Core.root (r.map Core.bool) _).2 ⟨rfl, rfl⟩
    cases r with
    | ok t => exact .inl ⟨_, _, asked, (Eval.ends_of_done (negates t)).2 ⟨rfl, rfl⟩⟩
    | error e => exact .inr ⟨e, asked, rfl⟩
  exact ((Eval.ends_send_native_iff found (Nat.lt_of_succ_lt left)).2 ⟨_, told, rfl⟩).iff_eq

/-! ## The relation -/

/-- A value below a number class that boxes something, but no double, boxes an integer. -/
theorem Reachable.exists_int (h : s.Reachable) (hp : s.payload a ≠ .none) (ha : s.IsExact a)
    {c : ClassId} (hc : c ∈ [Core.integer, Core.float]) (below : c ∈ s.ancestors (s.classOf a)) :
    ∃ n, s.payload a = .int n := by
  cases a with
  | nil | cls => exact absurd rfl hp
  | object o =>
    change c ∈ s.ancestors (s.objectAt o).cls at below
    rw [h.ancestors_boxed hp] at below
    change ∃ n, (s.objectAt o).payload = .int n
    have number : (s.objectAt o).payload.home ∈ [Core.integer, Core.float] := by
      rcases List.mem_cons.1 below with rfl | top
      · exact hc
      · exact absurd (List.mem_singleton.1 top ▸ hc) (by decide)
    cases hq : (s.objectAt o).payload with
    | int n => exact ⟨n, rfl⟩
    | float x => exact absurd hq (ha x)
    | _ => exact absurd (hq ▸ number) (by dsimp only [Payload.home]; decide)

/-- **`==` is one equivalence, and `!=` its opposite**, wherever an interpreter gets if nobody
redefines them and two levels are left: for values that box no double, `==` tells whether they have
equal data.  The exception are instances of number classes that box no number.  As receivers they
get an error from both if the argument is an integer, and otherwise are told to be equal to nothing,
not even to themselves. -/
theorem ReachedSparing.equality (h : s.ReachedSparing ["==", "!="]) (left : s.depth + 2 ≤ s.limit) :
    Equivalence s.SameData ∧ ∀ a b, s.IsExact a → s.IsExact b →
      (¬s.IsBareNumber a → ∃ t, (t = true ↔ s.SameData a b) ∧
        s.Tells a "==" b (.ok t) ∧ s.Tells a "!=" b (.ok !t)) ∧
      (s.IsBareNumber a →
        (∀ n, s.payload b = .int n →
          s.Tells a "==" b (.error (.type "number" (s.classNameOf a))) ∧
          s.Tells a "!=" b (.error (.type "number" (s.classNameOf a)))) ∧
        ((∀ n, s.payload b ≠ .int n) →
          s.Tells a "==" b (.ok false) ∧ s.Tells a "!=" b (.ok true))) := by
  have reachable := h.reachedBy.reachable
  have fresh := h.asFresh
  refine ⟨s.sameData_equivalence, fun a b ha hb => ?_⟩
  have unequal := nativeOf?_notEqual reachable fresh a
  have both {r : Outcome Bool}
      (told : ∀ d < s.limit, State.Tells { s with depth := d } a "==" b r) :
      s.Tells a "==" b r ∧ s.Tells a "!=" b (r.map not) :=
    ⟨told s.depth (Nat.lt_of_succ_lt left), tells_notEqual reachable unequal left (told _ left)⟩
  constructor
  · intro plain
    refine ⟨s.equal a b, equal_iff ha, both fun d below => ?_⟩
    by_cases number : ∃ c ∈ [Core.integer, Core.float], c ∈ s.ancestors (s.classOf a)
    · obtain ⟨c, hc, way⟩ := number
      have boxes : s.payload a ≠ .none := fun e => plain ⟨e, c, hc, way⟩
      obtain ⟨n, hn⟩ := reachable.exists_int boxes ha hc way
      exact tells_equal_of_int (nativeOf?_equal_of_number reachable fresh hc way) hn hb below
    · have other (c : ClassId) (hc : c ∈ [Core.integer, Core.float]) :
          c ∉ s.ancestors (s.classOf a) := fun way => number ⟨c, hc, way⟩
      exact tells_equal_of_object (nativeOf?_equal_of_other reachable fresh other) below
  · rintro ⟨bare, c, hc, way⟩
    have found := nativeOf?_equal_of_number reachable fresh hc way
    have none : Number.ofPayload? (s.payload a) = none := by rw [bare]; rfl
    refine ⟨fun n hn => both fun d below => ?_, fun no => both fun d below => ?_⟩
    · exact tells_equal_of_bare found none (n := .int n) (by rw [hn]; rfl) below
    · refine tells_equal_of_noNumber found ?_ below
      generalize hq : s.payload b = q
      cases q with
      | int n => exact absurd hq (no n)
      | float x => exact absurd hq (hb x)
      | none | text | symbol | bool | lambda => rfl

/-- The number 4 twice, and an instance of a class below `Integer`. -/
def fourTwice : Program :=
  [.setGlobal "$x" (.int 4), .setGlobal "$y" (.int 4), .defineClass "Money" (some "Integer") [],
    .setGlobal "$money" (.call (some (.getConstant "Money")) "new" [])]

/-- Objects 3 and 4 are the numbers, object 5 is the instance. -/
theorem equality_fourTwice : ∃ s : State, s.ReachedSparing ["==", "!="] ∧
    s.depth + 2 ≤ s.limit ∧ s.int? (.object 3) = some 4 ∧ s.int? (.object 4) = some 4 ∧
    s.Tells (.object 3) "==" (.object 4) (.ok true) ∧
    s.Tells (.object 3) "!=" (.object 4) (.ok false) ∧
    s.IsBareNumber (.object 5) ∧ s.Tells (.object 5) "==" (.object 5) (.ok false) := by
  let test (s : State) : Bool :=
    decide (s.depth + 2 ≤ s.limit ∧ s.int? (.object 3) = some 4 ∧ s.int? (.object 4) = some 4 ∧
      Core.integer ∈ s.ancestors (s.classOf (.object 5))) &&
    s.payload (.object 5) matches .none
  obtain ⟨s, reached, ht⟩ := exists_reachedSparing_of_run ["==", "!="] 5 100 fourTwice test
    (by decide +kernel) (by decide +kernel)
  obtain ⟨seen, plain⟩ := Bool.and_eq_true_iff.1 ht
  obtain ⟨left, three, four, below⟩ := of_decide_eq_true seen
  have hx := payload_of_int? three
  have hy := payload_of_int? four
  have hz : s.payload (.object 5) = .none := eq_none_of_matches plain
  have exact_x : s.IsExact (.object 3) := isExact_of_eq hx nofun
  have exact_y : s.IsExact (.object 4) := isExact_of_eq hy nofun
  have exact_z : s.IsExact (.object 5) := isExact_of_eq hz nofun
  have bare : s.IsBareNumber (.object 5) := ⟨hz, Core.integer, List.mem_cons_self, below⟩
  have number : ¬s.IsBareNumber (.object 3) := fun h => nomatch hx.symm.trans h.1
  obtain ⟨-, tells⟩ := reached.equality left
  obtain ⟨t, ht, equal, unequal⟩ := (tells _ _ exact_x exact_y).1 number
  obtain rfl := ht.2 (.int hx hy)
  have alone := ((tells _ _ exact_z exact_z).2 bare).2 fun n e => nomatch hz.symm.trans e
  exact ⟨s, reached, left, three, four, equal, unequal, bare, alone.1⟩

/-- An instance of `Integer` that is none, and a number. -/
def plainInteger : Program :=
  [.setGlobal "$x" (.call (some (.getConstant "Integer")) "new" []), .setGlobal "$y" (.int 1)]

/-- **An instance of `Integer` that boxes no number is not equal to itself**, and to ask whether it
equals a number is a type error. -/
theorem equality_plainInteger : ∃ (s : State) (a b : Value), s.ReachedSparing ["==", "!="] ∧
    s.depth + 3 ≤ s.limit ∧ (Item.value a).In s ∧ (Item.value b).In s ∧
    s.payload a = .none ∧ s.int? b = some 1 ∧ s.Tells a "==" a (.ok false) ∧
    s.Tells a "==" b (.error (.type "number" "Integer")) := by
  let test (s : State) : Bool :=
    decide (s.depth + 3 ≤ s.limit ∧ 4 < s.objects.size ∧ s.int? (.object 4) = some 1 ∧
      s.nativeOf? (.object 3) "==" = some (.builtin (.numberComparison .equal)) ∧
      s.classNameOf (.object 3) = "Integer") &&
    s.payload (.object 3) matches .none
  obtain ⟨s, reached, ht⟩ := exists_reachedSparing_of_run ["==", "!="] 5 100 plainInteger test
    (by decide +kernel) (by decide +kernel)
  obtain ⟨seen, plain⟩ := Bool.and_eq_true_iff.1 ht
  obtain ⟨left, there, one, found, cls⟩ := of_decide_eq_true seen
  have hx : s.payload (.object 3) = .none := eq_none_of_matches plain
  have bare : Number.ofPayload? (s.payload (.object 3)) = none := by rw [hx]; rfl
  have number : Number.ofPayload? (s.payload (.object 4)) = some (.int 1) := by
    rw [payload_of_int? one]
    rfl
  have level : s.depth < s.limit := Nat.lt_of_lt_of_le (Nat.lt_add_of_pos_right (by decide)) left
  refine ⟨s, .object 3, .object 4, reached, left, Nat.lt_of_succ_lt there, there, hx, one,
    tells_equal_of_noNumber found bare level, ?_⟩
  rw [← cls]
  exact tells_equal_of_bare found bare number level

end OpenScript.State
