import OpenScript.Proofs.Activations

/-!
# Proofs/Super — where `super` goes

    receiver ──call──▸ nearest that defines the name ──super──▸ the next one above it ──super──▸ ⋯

Code that runs in a method knows the class whose table the method was found in, and `super` looks
for the name above that class.  So whatever happens meanwhile, a `super` invokes the method of the
nearest proper ancestor that defines the name, on the same receiver; and as long as tables stay,
calls that each end in a `super` go through the ancestors that define the name one by one
(`State.Reachable.super_climbs`).
-/

namespace OpenScript

namespace Eval

/-- The arguments that a `super` passes on: those it is given, or those it forwards. -/
def superArguments (f : FrameId) (a : State.Activation) : Option (List Node) → Eval (List Value)
  | some ns => arguments f ns
  | none => read (forwardedArguments · a)

/-- What is read is at hand in the state it is read from. -/
theorem read_bind {α β : Type} (look : State → α) (next : α → Eval β) (s : State) :
    (read look >>= next) s = next (look s) s := rfl

theorem state_bind {β : Type} (next : State → Eval β) (s : State) :
    (state >>= next) s = next s s := rfl

/-- In a running method, a `super` gets its arguments and then calls the parent's method. -/
theorem callSuper_eq {s : State} {f : FrameId} {a : State.Activation} (h : s.active? f = some a)
    (given : Option (List Node)) :
    callSuper f given s = (superArguments f a given >>= callParent f a) s := by
  rw [callSuper, read_bind, h]
  cases given <;> rfl

end Eval

namespace State

variable {s s' : State} {c o : ClassId} {name : String} {m : Method} {a : Activation}

/-! ## The method above -/

/-- The method that the parent of a run's class knows under the name of the run's method. -/
def parentMethod? (s : State) (a : Activation) : Option (ClassId × Method) :=
  (s.classAt a.cls).parent.bind (s.findMethod? · a.name)

/-- `o` is the nearest proper ancestor of `c` that defines a name. -/
def NearestAbove (s : State) (c : ClassId) (name : String) (o : ClassId) : Prop :=
  s.defines name o = true ∧ ∃ before after,
    (s.ancestors c).tail = before ++ o :: after ∧ ∀ b ∈ before, s.defines name b = false

theorem callParent_of_some (h : s.parentMethod? a = some (o, m)) (f : FrameId) (vs : List Value) :
    Eval.callParent f a vs s = Eval.invoke a.receiver o m vs f s := by
  rw [Eval.callParent, Eval.state_bind]
  rw [show (s.classAt a.cls).parent.bind (s.findMethod? · a.name) = some (o, m) from h]

theorem callParent_of_none (h : s.parentMethod? a = none) (f : FrameId) (vs : List Value) :
    Eval.callParent f a vs s = Eval.fail
      (.noMethod (s.classAt ((s.classAt a.cls).parent.getD a.cls)).name a.name) s := by
  rw [Eval.callParent, Eval.state_bind]
  rw [show (s.classAt a.cls).parent.bind (s.findMethod? · a.name) = none from h]

theorem Tree.tail_ancestors (h : s.Tree) (c : ClassId) :
    (s.ancestors c).tail = ((s.classAt c).parent.map s.ancestors).getD [] := by
  rw [h.ancestors_eq, List.tail_cons]

/-- **What `super` finds is the method of the nearest proper ancestor that defines the name.** -/
theorem Tree.parentMethod?_eq_some_iff (h : s.Tree) :
    s.parentMethod? a = some (o, m) ↔
      (s.classAt o).methods[a.name]? = some m ∧ s.NearestAbove a.cls a.name o := by
  rw [parentMethod?, NearestAbove, h.tail_ancestors]
  cases (s.classAt a.cls).parent with
  | none => simp
  | some p =>
    change s.findMethod? p a.name = some (o, m) ↔ _
    rw [findMethod?_eq_some_iff]
    refine and_congr_right fun hm => ?_
    have there : s.defines a.name o = true := by rw [defines, hm]; rfl
    exact (and_iff_right there).symm

/-- `super` finds nothing if no proper ancestor defines the name. -/
theorem Tree.parentMethod?_eq_none_iff (h : s.Tree) :
    s.parentMethod? a = none ↔ ∀ b ∈ (s.ancestors a.cls).tail, s.defines a.name b = false := by
  rw [parentMethod?, h.tail_ancestors]
  cases (s.classAt a.cls).parent with
  | none => simp
  | some p => exact findMethod?_eq_none_iff

/-! ## Arguments -/

/-- A frame that has an older one on its closure chain is there. -/
theorem lt_size_of_mem_closureChain {f g : FrameId} (hg : g < s.frames.size)
    (h : g ∈ s.closureChain f) : f < s.frames.size := by
  refine Nat.lt_of_not_le fun past => ?_
  rw [closureChain, captured?_of_le past] at h
  obtain rfl := List.mem_singleton.1 h
  exact Nat.not_lt_of_le past hg

/-- **A `super` gets its arguments later**, and they are values there are. -/
theorem WellFormed.superArguments (h : s.WellFormed) {f : FrameId} (hf : f < s.frames.size)
    (ha : s.active? f = some a) {given : Option (List Node)} {vs : List Value}
    (he : (Eval.superArguments f a given).Ends s (.ok vs) s') :
    s.Later s' ∧ ∀ v ∈ vs, (Item.value v).In s' := by
  have fits := Discipline.fits_later h
  have keeps : (Discipline.later s).Keeps (fun _ => True) s (Eval.superArguments f a given)
      fun vs s' => ∀ v ∈ vs, (Item.value v).In s' := by
    cases given with
    | none =>
      exact Discipline.keeps_read fits fun v hv => h.has (known_forwardedArguments ha hv)
    | some ns =>
      exact Discipline.keeps_arguments fits (fun _ _ => trivial) hf fun _ _ => trivial
  exact ⟨later_of_keeps_ends keeps he, (keeps.of_ends he).2 vs rfl⟩

/-! ## A `super` in a running method -/

/-- Called with `vs`, a method found in a class comes to a `super` in a frame, in its body or in a
lambda nested there.  The active run there is `a`, and the `super` has got its arguments. -/
inductive ReachesSuper (s : State) (receiver : Value) (owner : ClassId) (m : Method)
    (vs : List Value) : FrameId → Activation → List Value → State → Prop where
  | intro {params : List String} {body : Program} {s₁ s₂ : State} {f : FrameId} {a : Activation}
    {given : Option (List Node)} {ws : List Value} (hb : m.body = .user params body)
    (later : (s.entered receiver owner m vs).2.Later s₁)
    (inside : (s.entered receiver owner m vs).1 ∈ s₁.closureChain f)
    (active : s₁.active? f = some a) (he : (Eval.superArguments f a given).Ends s₁ (.ok ws) s₂) :
    ReachesSuper s receiver owner m vs f a ws s₂

variable {receiver : Value} {vs ws : List Value} {f : FrameId}

/-- **The active run is the one that was called**, and the ways up from its class have stayed. -/
theorem InOrder.of_reachesSuper (h : s.InOrder) (hr : (Item.value receiver).In s)
    (hv : ∀ v ∈ vs, (Item.value v).In s) (hm : (s.classAt o).methods[name]? = some m)
    (hs : s.ReachesSuper receiver o m vs f a ws s') :
    a = s.started receiver o m vs ∧ s.Later s' ∧ s'.InOrder ∧ (∀ v ∈ ws, (Item.value v).In s')
      ∧ s'.ancestors o = s.ancestors o := by
  obtain ⟨-, later, inside, active, he⟩ := hs
  have ho : o < s.classes.size := lt_size_of_method hm
  have start := later_entered (m := m) hr ho hv
  have runs := h.active?_of_later hr ho hv later inside
  have before := h.later (start.trans later)
  have there := lt_size_of_mem_closureChain (Nat.lt_of_lt_of_le (s.entered_lt receiver o m vs)
    later.persists.frames.size_le) inside
  obtain ⟨got, hw⟩ := before.wellFormed.superArguments there active he
  have whole : s.Later s' := start.trans (later.trans got)
  have after := h.later whole
  exact ⟨Option.some.inj (active.symm.trans runs), whole, after, hw,
    h.tree.ancestors_of_persists after.tree whole.persists ho⟩

/-! ## Chains of calls -/

/-- The ancestors of a class that define a name, nearest first. -/
def definers (s : State) (c : ClassId) (name : String) : List ClassId :=
  (s.ancestors c).filter (s.defines name)

/-- The tables of a class and its ancestors have the same entries for a name in two states. -/
def SameEntries (s s' : State) (c : ClassId) (name : String) : Prop :=
  ∀ a ∈ s.ancestors c, (s'.classAt a).methods[name]? = (s.classAt a).methods[name]?

/-- A chain of calls: the first one asks a receiver for a name, each other one is what a `super` in
the one before it invokes.  `visited` are the classes whose methods were called before the latest,
which is the method `m` of `o` called on `r` with `vs`. -/
inductive SuperChain (s : State) (receiver : Value) (name : String) : List ClassId → Value →
    ClassId → Method → List Value → State → Prop where
  | call {o : ClassId} {m : Method} {vs : List Value} (hm : s.methodOf? receiver name = some (o, m))
    (hv : ∀ v ∈ vs, (Item.value v).In s) : SuperChain s receiver name [] receiver o m vs s
  | super {visited : List ClassId} {r : Value} {o o' : ClassId} {m m' : Method}
    {vs ws : List Value} {s₁ s₂ : State} {f : FrameId} {a : Activation}
    (h : SuperChain s receiver name visited r o m vs s₁) (hs : s₁.ReachesSuper r o m vs f a ws s₂)
    (kept : s.SameEntries s₂ (s.classOf receiver) name)
    (hm : s₂.parentMethod? a = some (o', m')) :
    SuperChain s receiver name (visited ++ [o]) a.receiver o' m' ws s₂

/-- Where a chain of calls is: at a class on the way up from that of the receiver, where it has
visited the classes that define the name below. -/
structure ChainPlace (s : State) (receiver : Value) (name : String) (visited : List ClassId)
    (o : ClassId) (m : Method) (s' : State) : Prop where
  method : (s'.classAt o).methods[name]? = some m
  defines : s.defines name o = true
  way : ∃ before after, s.ancestors (s.classOf receiver) = before ++ o :: after ∧
    before.filter (s.defines name) = visited

theorem InOrder.classOf_lt (h : s.InOrder) (v : Value) : s.classOf v < s.classes.size :=
  h.wellFormed.has (known_classOf s v)

theorem Later.isIn {i : Item} (hl : s.Later s') (hi : i.In s) : i.In s' :=
  have persists := hl.persists
  hi.of_size_le persists.classes.size_le persists.frames.size_le persists.objects.size_le

theorem SameEntries.defines_eq (h : s.SameEntries s' c name) {b : ClassId}
    (hb : b ∈ s.ancestors c) : s'.defines name b = s.defines name b := by
  rw [State.defines, State.defines, h b hb]

/-- **A `super` in a chain goes on from the class it is at**: what it looks through is the rest of
the way up. -/
theorem ChainPlace.rest {s₁ s₂ : State} {visited : List ClassId} (h : s.InOrder) (h₁ : s₁.InOrder)
    (hl : s.Later s₁) (hr : (Item.value receiver).In s) (hv : ∀ v ∈ vs, (Item.value v).In s₁)
    (place : s.ChainPlace receiver name visited o m s₁)
    (hs : s₁.ReachesSuper receiver o m vs f a ws s₂) :
    a.receiver = receiver ∧ a.cls = o ∧ a.name = name ∧ s₂.InOrder ∧ s.Later s₂ ∧
      (∀ v ∈ ws, (Item.value v).In s₂) ∧ ∃ before,
        s.ancestors (s.classOf receiver) = before ++ o :: (s₂.ancestors o).tail ∧
        before.filter (s.defines name) = visited := by
  obtain ⟨rfl, later, h₂, hw, same⟩ := h₁.of_reachesSuper (hl.isIn hr) hv place.method hs
  obtain ⟨before, after, way, below⟩ := place.way
  have member : o ∈ s.ancestors (s.classOf receiver) := by rw [way]; simp
  have there : o < s.classes.size :=
    Nat.lt_of_le_of_lt (h.tree.le_of_mem_ancestors member) (h.classOf_lt receiver)
  have first : s₁.ancestors o = s.ancestors o :=
    h.tree.ancestors_of_persists h₁.tree hl.persists there
  have rest : (s₂.ancestors o).tail = after := by
    rw [same, first, h.tree.ancestors_of_append way, List.tail_cons]
  exact ⟨rfl, rfl, (h₁.tables o).named place.method, h₂, hl.trans later, hw, before,
    rest ▸ way, below⟩

/-- What a `super` finds stands next on the way up. -/
theorem ChainPlace.next {s₂ : State} {visited before : List ClassId} {o' : ClassId} {m' : Method}
    (ho : s.defines name o = true)
    (way : s.ancestors (s.classOf receiver) = before ++ o :: (s₂.ancestors o).tail)
    (below : before.filter (s.defines name) = visited)
    (kept : s.SameEntries s₂ (s.classOf receiver) name)
    (hm : (s₂.classAt o').methods[name]? = some m') (nearest : s₂.NearestAbove o name o') :
    s.ChainPlace receiver name (visited ++ [o]) o' m' s₂ := by
  obtain ⟨defined, between, after, split, none⟩ := nearest
  rw [split] at way
  have onWay {b : ClassId} (hb : b ∈ between ++ o' :: after) :
      s₂.defines name b = s.defines name b :=
    kept.defines_eq (by rw [way]; exact List.mem_append_right _ (List.mem_cons_of_mem _ hb))
  refine ⟨hm, ?_, before ++ o :: between, after, by rw [way]; simp, ?_⟩
  · rw [← onWay (by simp), defined]
  · have skipped : between.filter (s.defines name) = [] := by
      refine List.filter_eq_nil_iff.2 fun b hb => ?_
      rw [← onWay (List.mem_append_left _ hb), none b hb]
      exact Bool.false_ne_true
    rw [List.filter_append, below, List.filter_cons_of_pos ho, skipped]

/-- The chain so far has visited the classes that define the name, from the nearest on. -/
theorem ChainPlace.prefix_definers {visited : List ClassId}
    (place : s.ChainPlace receiver name visited o m s') :
    visited ++ [o] <+: s.definers (s.classOf receiver) name := by
  obtain ⟨before, after, way, below⟩ := place.way
  rw [definers, way, List.filter_append, below, List.filter_cons_of_pos place.defines]
  exact ⟨after.filter (s.defines name), by simp⟩

/-- **A chain of calls stays on the way up**, unless the first call already is one of a built-in
method of a class itself. -/
theorem SuperChain.place (h : s.InOrder) (hr : (Item.value receiver).In s) {visited : List ClassId}
    {r : Value} (hc : s.SuperChain receiver name visited r o m vs s') :
    r = receiver ∧ s.Later s' ∧ (∀ v ∈ vs, (Item.value v).In s') ∧
      ((∃ c n, receiver = .cls c ∧ visited = [] ∧ s.findClassMethod? c name = some (o, m) ∧
        m.body = .native n) ∨ s.ChainPlace receiver name visited o m s') := by
  induction hc with
  | call hm hv =>
    refine ⟨rfl, .refl, hv, ?_⟩
    rcases h.tables.findMethod?_of_methodOf? hm with hm | ⟨c, n, rfl, hm, hn⟩
    · obtain ⟨hm, before, after, way, none⟩ := findMethod?_eq_some_iff.1 hm
      refine .inr ⟨hm, by rw [State.defines, hm]; rfl, before, after, way, ?_⟩
      exact List.filter_eq_nil_iff.2 fun b hb => by rw [none b hb]; exact Bool.false_ne_true
    · exact .inl ⟨c, n, rfl, rfl, hm, hn⟩
  | super _ hs kept hm ih =>
    obtain ⟨rfl, later, hv, ⟨c, n, -, -, -, native⟩ | place⟩ := ih
    · obtain ⟨user, -⟩ := hs
      cases native.symm.trans user
    · obtain ⟨hreceiver, hcls, hname, h₂, later₂, hw, before, way, below⟩ :=
        place.rest h (h.later later) later hr hv hs
      have found := h₂.tree.parentMethod?_eq_some_iff.1 hm
      rw [hcls, hname] at found
      exact ⟨hreceiver, later₂, hw, .inr (.next place.defines way below kept found.1 found.2)⟩

/-- What a `super` does in a run of the method that `o` has under the name, once it has its
arguments. -/
theorem Tree.callParent (h : s.Tree) (hc : a.cls = o) (hn : a.name = name) (f : FrameId)
    (ws : List Value) :
    (∀ o', s.NearestAbove o name o' → ∃ m', (s.classAt o').methods[name]? = some m' ∧
      Eval.callParent f a ws s = Eval.invoke a.receiver o' m' ws f s) ∧
    ((∀ b ∈ (s.ancestors o).tail, s.defines name b = false) →
      Eval.callParent f a ws s = Eval.fail
        (.noMethod (s.classAt ((s.classAt o).parent.getD o)).name name) s) := by
  subst hc hn
  constructor
  · intro o' near
    obtain ⟨m', hm'⟩ := Option.isSome_iff_exists.1 near.1
    exact ⟨m', hm', callParent_of_some (h.parentMethod?_eq_some_iff.2 ⟨hm', near⟩) f ws⟩
  · intro none
    exact callParent_of_none (h.parentMethod?_eq_none_iff.2 none) f ws

/-- A method written in the language that a value answers with, or that a class has or inherits,
stands in the table of the class it is found in. -/
theorem TablesFit.method_of_found (h : s.TablesFit) {params : List String} {body : Program}
    (hb : m.body = .user params body)
    (hm : s.methodOf? receiver name = some (o, m) ∨ ∃ c, s.findMethod? c name = some (o, m)) :
    (s.classAt o).methods[name]? = some m := by
  rcases hm with hm | ⟨c, hm⟩
  · rcases h.findMethod?_of_methodOf? hm with hm | ⟨c, n, -, -, hn⟩
    · exact (findMethod?_eq_some_iff.1 hm).1
    · exact absurd (hb.symm.trans hn) nofun
  · exact (findMethod?_eq_some_iff.1 hm).1

/-- **`super` climbs the ancestors, and skips and repeats no class.**

A call of a method that is found in `o` runs it in a frame of its own (`State.invoke_entered`).
Whatever happens then, for code in that frame and in lambdas nested there the active run is that of
`o` on the receiver, and a `super` that has its arguments invokes the method of the nearest proper
ancestor of `o` that defines the name by then, or fails in the name of the parent.

So a chain of calls in which each body invokes `super`, while table entries stay, goes through the
ancestors that define the name, each once, from the nearest on.  It goes on until a built-in method
or until there is none left. -/
theorem Reachable.super_climbs (h : s.Reachable) {receiver : Value}
    (hr : (Item.value receiver).In s) (name : String) :
    (∀ (o : ClassId) (m : Method) (params : List String) (body : Program) (vs : List Value),
      (s.methodOf? receiver name = some (o, m) ∨ ∃ c, s.findMethod? c name = some (o, m)) →
      m.body = .user params body → (∀ v ∈ vs, (Item.value v).In s) →
      ∀ (s₁ : State) (f : FrameId), (s.entered receiver o m vs).2.Later s₁ →
        (s.entered receiver o m vs).1 ∈ s₁.closureChain f →
        (s.classAt o).methods[name]? = some m ∧
        s₁.active? f = some ⟨name, vs, o, receiver, (s.entered receiver o m vs).1⟩ ∧
        ∀ a, s₁.active? f = some a → ∀ given,
          Eval.callSuper f given s₁ = (Eval.superArguments f a given >>= Eval.callParent f a) s₁ ∧
          ∀ ws s₂, (Eval.superArguments f a given).Ends s₁ (.ok ws) s₂ →
            (∀ o', s₂.NearestAbove o name o' → ∃ m', (s₂.classAt o').methods[name]? = some m' ∧
              Eval.callParent f a ws s₂ = Eval.invoke receiver o' m' ws f s₂) ∧
            ((∀ b ∈ (s₂.ancestors o).tail, s₂.defines name b = false) →
              Eval.callParent f a ws s₂ = Eval.fail
                (.noMethod (s₂.classAt ((s₂.classAt o).parent.getD o)).name name) s₂)) ∧
    (∀ (visited : List ClassId) (r : Value) (o : ClassId) (m : Method) (vs : List Value)
      (s₁ : State), s.SuperChain receiver name visited r o m vs s₁ →
      r = receiver ∧
      ((∃ c n, receiver = .cls c ∧ visited = [] ∧ s.findClassMethod? c name = some (o, m) ∧
        m.body = .native n) ∨ visited ++ [o] <+: s.definers (s.classOf receiver) name) ∧
      ∀ f a ws s₂, s₁.ReachesSuper r o m vs f a ws s₂ →
        s.SameEntries s₂ (s.classOf receiver) name → s₂.parentMethod? a = none →
        visited ++ [o] = s.definers (s.classOf receiver) name ∧
        Eval.callParent f a ws s₂ = Eval.fail
          (.noMethod (s₂.classAt ((s₂.classAt o).parent.getD o)).name name) s₂) ∧
    (s.definers (s.classOf receiver) name).Nodup := by
  have order := h.inOrder
  refine ⟨?_, ?_, (order.tree.nodup_ancestors _).filter _⟩
  · intro o m params body vs found hb hv s₁ f later inside
    have hm := order.tables.method_of_found hb found
    have named : m.name = name := (order.tables o).named hm
    have runs := order.active?_of_later hr (lt_size_of_method hm) hv later inside
    rw [started, named] at runs
    refine ⟨hm, runs, fun a active given => ⟨Eval.callSuper_eq active given, fun ws s₂ got => ?_⟩⟩
    have comes : s.ReachesSuper receiver o m vs f a ws s₂ := .intro hb later inside active got
    obtain ⟨rfl, -, order₂, -⟩ := order.of_reachesSuper hr hv hm comes
    exact order₂.tree.callParent (a := s.started receiver o m vs) rfl named f ws
  · intro visited r o m vs s₁ chain
    obtain ⟨rfl, later, hv, place⟩ := chain.place order hr
    refine ⟨rfl, place.imp_right ChainPlace.prefix_definers, fun f a ws s₂ comes kept none => ?_⟩
    obtain ⟨c, n, -, -, -, native⟩ | place := place
    · obtain ⟨user, -⟩ := comes
      exact absurd (native.symm.trans user) nofun
    · obtain ⟨-, hcls, hname, order₂, -, -, before, way, below⟩ :=
        place.rest order (order.later later) later hr hv comes
      have above := order₂.tree.parentMethod?_eq_none_iff.1 none
      rw [hcls, hname] at above
      have done : (s₂.ancestors o).tail.filter (s.defines name) = [] := by
        refine List.filter_eq_nil_iff.2 fun b hb => ?_
        have onWay : b ∈ s.ancestors (s.classOf r) := by
          rw [way]
          exact List.mem_append_right _ (List.mem_cons_of_mem _ hb)
        rw [← kept.defines_eq onWay, above b hb]
        exact Bool.false_ne_true
      refine ⟨?_, (order₂.tree.callParent hcls hname f ws).2 above⟩
      rw [definers, way, List.filter_append, below, List.filter_cons_of_pos place.defines, done]

/-- A chain of three classes of which the highest and the lowest define `m`, and an instance of the
lowest. -/
def skipping : Program :=
  [.defineClass "A" none [.defineMethod "m" [] []], .defineClass "B" (some "A") [],
    .defineClass "C" (some "B") [.defineMethod "m" [] [.super none]],
    .call (some (.getConstant "C")) "new" []]

/-- The `super` of the lowest class, 11, passes the one between and invokes the method of the
highest, 9, and a chain of calls so far has visited both. -/
theorem super_climbs_skipping : ∃ (s s₁ : State) (g : FrameId) (m m' : Method), s.Reachable ∧
    s.methodOf? (.object 3) "m" = some (11, m) ∧ s₁.defines "m" 10 = false ∧
    s₁.active? g = some ⟨"m", [], 11, .object 3, g⟩ ∧
    Eval.callParent g ⟨"m", [], 11, .object 3, g⟩ [] s₁ = Eval.invoke (.object 3) 9 m' [] g s₁ ∧
    [11] ++ [9] <+: s.definers (s.classOf (.object 3)) "m" := by
  have start : Core.root < (State.initial 5).frames.size := by
    rw [size_frames_initial]
    decide
  let lowest (s : State) (o : ClassId) (m : Method) : Bool :=
    let s₁ := (s.entered (.object 3) 11 m []).2
    o == 11 && !m.statements.isEmpty && s₁.ancestors 11 == [11, 10, 9, 0] && s₁.defines "m" 9
      && !s₁.defines "m" 10
  let test (s : State) : Bool := 3 < s.objects.size &&
    (s.methodOf? (.object 3) "m").any fun x => lowest s x.1 x.2
  obtain ⟨r, s, h, ht⟩ : ∃ r s, (Eval.programIn skipping Core.root).Ends (State.initial 5) r s ∧
      test s = true := Eval.exists_ends_of_run 100 (fun _ s => test s) (by decide +kernel)
  obtain ⟨there, ht⟩ := Bool.and_eq_true_iff.1 ht
  have hr : (Item.value (.object 3)).In s := (of_decide_eq_true there : 3 < s.objects.size)
  obtain ⟨⟨o, m⟩, hm, ht⟩ := (Option.any_eq_true _ _).1 ht
  simp only [lowest, Bool.and_eq_true, Bool.not_eq_true', beq_iff_eq] at ht
  obtain ⟨⟨⟨⟨rfl, user⟩, way⟩, highest⟩, between⟩ := ht
  obtain ⟨params, body, hb⟩ : ∃ params body, m.body = .user params body := by
    cases hb : m.body with
    | user params body => exact ⟨params, body, rfl⟩
    | native n => rw [Method.statements, hb] at user; cases user
  have reachable : s.Reachable := (Reachable.fresh 5).ends (.program skipping start) h
  obtain ⟨first, chains, -⟩ := reachable.super_climbs hr "m"
  let g := (s.entered (.object 3) 11 m []).1
  let s₁ := (s.entered (.object 3) 11 m []).2
  have self : g ∈ s₁.closureChain g := by
    rw [closureChain]
    exact List.mem_cons_self
  obtain ⟨-, active, supers⟩ := first 11 m params body [] (.inl hm) hb (List.forall_mem_nil _) s₁ g .refl self
  have got : (Eval.superArguments g ⟨"m", [], 11, .object 3, g⟩ (some [])).Ends s₁ (.ok []) s₁ :=
    ⟨0, rfl⟩
  have near : s₁.NearestAbove 11 "m" 9 :=
    ⟨highest, [10], [0], by rw [way]; rfl, fun b hb => List.mem_singleton.1 hb ▸ between⟩
  obtain ⟨m', hm', invoked⟩ := ((supers _ active (some [])).2 [] s₁ got).1 9 near
  have none : ∀ v ∈ ([] : List Value), (Item.value v).In s := List.forall_mem_nil _
  have owned := reachable.tablesFit.method_of_found hb (.inl hm)
  have later : s.Later s₁ := later_entered hr (lt_size_of_method owned) none
  have above := ((reachable.inOrder.later later).tree.parentMethod?_eq_some_iff
    (a := ⟨"m", [], 11, .object 3, g⟩)).2 ⟨hm', near⟩
  have kept : s.SameEntries s₁ (s.classOf (.object 3)) "m" := fun a _ => by
    rw [classAt, classes_entered]
    rfl
  have chain := SuperChain.super (.call hm none) (.intro hb .refl self active got) kept above
  refine ⟨s, s₁, g, m, m', reachable, hm, between, active, invoked, ?_⟩
  exact (chains _ _ _ _ _ _ chain).2.1.resolve_left (by rintro ⟨c, n, ⟨⟩, -⟩)

end State

end OpenScript
