import OpenScript.Proofs.Super

/-!
# Proofs/Forwarding — what a bare `super` passes on

    parameters the method has by then ──read in the run's frame──▸ arguments, and the surplus

A bare `super` looks up which parameters there are at the time: those of the method that the class
then has under the name.  As long as they are those of the running method, their current values are
passed on (`State.Reachable.super_forwards`).  A body that redefines its own method with other
parameters before it gets to its `super` passes on something else
(`State.super_forwards_redefined`).
-/

namespace OpenScript

/-! ## Parameters -/

/-- **Every parameter is bound in a call**, whatever arguments there are. -/
theorem mem_boundLocals {p : String} {ps : List String} {vs : List Value} {locals : Store Value}
    (h : p ∈ ps ∨ p ∈ locals) : p ∈ boundLocals locals ps vs := by
  induction ps generalizing vs locals with
  | nil => exact h.resolve_left List.not_mem_nil
  | cons q ps ih =>
    have bound (v : Value) : p ∈ ps ∨ p ∈ locals.insert q v := by
      rcases h with h | h
      · rcases List.mem_cons.1 h with rfl | h
        · exact .inr (Std.TreeMap.mem_insert.2 (.inl Std.ReflCmp.compare_self))
        · exact .inl h
      · exact .inr (Std.TreeMap.mem_insert.2 (.inr h))
    cases vs with
    | nil => exact ih (bound .nil)
    | cons v vs => exact ih (bound v)

namespace State

variable {s s₁ : State} {f g : FrameId} {a : Activation} {receiver : Value} {o : ClassId}
  {m : Method} {name : String} {vs : List Value}

/-- What the frame that a call enters is like. -/
theorem frameAt_entered (s : State) (receiver : Value) (o : ClassId) (m : Method)
    (vs : List Value) : ∃ x : Frame, (s.entered receiver o m vs).2.frameAt
      (s.entered receiver o m vs).1 = x.activation s.frames.size m.name m.params vs none := by
  rw [entered, enter_eq]
  exact ⟨_, frameAt_addFrame_size _ _⟩

/-- The frame that a call enters binds the parameters, and goes on to. -/
theorem Later.mem_locals (hl : (s.entered receiver o m vs).2.Later s₁) {p : String}
    (hp : p ∈ m.params) : p ∈ (s₁.frameAt (s.entered receiver o m vs).1).locals := by
  obtain ⟨x, hx⟩ := s.frameAt_entered receiver o m vs
  have grows := hl.persists.frameAt (s.entered_lt receiver o m vs)
  rw [hx] at grows
  exact grows.locals p (mem_boundLocals (.inl hp))

/-- The frame that a call enters has captured nothing, so the locals it sees are its own. -/
theorem Later.local?_eq (hl : (s.entered receiver o m vs).2.Later s₁) (p : String) :
    s₁.local? (s.entered receiver o m vs).1 p
      = (s₁.frameAt (s.entered receiver o m vs).1).locals[p]? := by
  obtain ⟨x, hx⟩ := s.frameAt_entered receiver o m vs
  have grows := hl.persists.frameAt (s.entered_lt receiver o m vs)
  rw [hx] at grows
  have free : (s₁.frameAt (s.entered receiver o m vs).1).role.captured? = none :=
    grows.role.captured?
  rw [local?, nearest?_eq, closureChain, free, List.findSome?_singleton]

/-- **A `super` reads the parameters of the method that the class has by then.** -/
theorem forwardedArguments_eq {m' : Method} (hm : (s₁.classAt a.cls).methods[a.name]? = some m') :
    Eval.forwardedArguments s₁ a
      = m'.params.map (fun p => (s₁.lookupOwn a.frame p).getD .nil)
        ++ a.arguments.drop m'.params.length := by
  have own : s₁.findMethod? a.cls a.name = some (a.cls, m') := by
    rw [findMethod?, ancestors, List.findSome?_cons, hm]
    rfl
  rw [Eval.forwardedArguments, own]
  rfl

/-- **As long as the class has the parameters of the running method under its name, a bare `super`
passes on their current values and the surplus arguments.**

A call of a method found in `o`, whose parameters are names of locals, runs in a frame of its own.
Whatever happens then, for code in that frame and in lambdas nested there, `super` without arguments
invokes the method of the nearest proper ancestor of `o` that defines the name, with what the
parameters are bound to in that frame, in their order, and the arguments that go beyond them. -/
theorem Reachable.super_forwards (h : s.Reachable) (hr : (Item.value receiver).In s)
    {params : List String} {body : Program}
    (found : s.methodOf? receiver name = some (o, m) ∨ ∃ c, s.findMethod? c name = some (o, m))
    (hb : m.body = .user params body) (hp : ∀ p ∈ params, Shape.of p = .localVar)
    (hv : ∀ v ∈ vs, (Item.value v).In s) (hl : (s.entered receiver o m vs).2.Later s₁)
    (inside : (s.entered receiver o m vs).1 ∈ s₁.closureChain f)
    (same : (s₁.classAt o).methods[name]?.map Method.params = some params) :
    ∃ current : List Value,
      params.map (fun p => (s₁.frameAt (s.entered receiver o m vs).1).locals[p]?)
        = current.map some ∧
      (∀ o', s₁.NearestAbove o name o' → ∃ m', (s₁.classAt o').methods[name]? = some m' ∧
        Eval.callSuper f none s₁
          = Eval.invoke receiver o' m' (current ++ vs.drop params.length) f s₁) ∧
      ((∀ b ∈ (s₁.ancestors o).tail, s₁.defines name b = false) → Eval.callSuper f none s₁ =
        Eval.fail (.noMethod (s₁.classAt ((s₁.classAt o).parent.getD o)).name name) s₁) := by
  have order := h.inOrder
  have hm := order.tables.method_of_found hb found
  have named : m.name = name := (order.tables o).named hm
  have params_eq : m.params = params := by rw [Method.params, hb]
  have later : s.Later s₁ := (later_entered hr (lt_size_of_method hm) hv).trans hl
  have active := order.active?_of_later hr (lt_size_of_method hm) hv hl inside
  let g := (s.entered receiver o m vs).1
  let current : List Value := params.map fun p => ((s₁.frameAt g).locals[p]?).getD .nil
  have forwarded : Eval.forwardedArguments s₁ (s.started receiver o m vs)
      = current ++ vs.drop params.length := by
    obtain ⟨m', hm', rfl⟩ := Option.map_eq_some_iff.1 same
    rw [forwardedArguments_eq (named ▸ hm' : (s₁.classAt o).methods[m.name]? = some m')]
    congr 1
    refine List.map_congr_left fun p hmem => ?_
    have read : s₁.lookupOwn g p = s₁.local? g p := by simp only [lookupOwn, hp p hmem]
    rw [started, read, hl.local?_eq p]
  have passes : Eval.callSuper f none s₁ = Eval.callParent f (s.started receiver o m vs)
      (current ++ vs.drop params.length) s₁ := by
    rw [Eval.callSuper_eq active, ← forwarded]
    rfl
  have calls := (order.later later).tree.callParent (a := s.started receiver o m vs) rfl named f
    (current ++ vs.drop params.length)
  refine ⟨current, ?_, passes ▸ calls⟩
  rw [List.map_map]
  refine List.map_congr_left fun p hmem => ?_
  obtain ⟨v, bound⟩ := Option.isSome_iff_exists.1
    (Std.TreeMap.isSome_getElem?_iff_mem.2 (hl.mem_locals (params_eq ▸ hmem)))
  rw [Function.comp_apply, bound, Option.getD_some]

/-- Two classes that define a method with a parameter, and an instance of the lower one. -/
def describing : Program :=
  [.defineClass "Animal" none [.defineMethod "describe" ["x"] [.text "animal %x"]],
    .defineClass "Dog" (some "Animal") [.defineMethod "describe" ["x"] [.super none]],
    .call (some (.getConstant "Dog")) "new" []]

/-- Called with one argument too many, the method of class 10 passes on both to that of class 9. -/
theorem super_forwards_surplus : ∃ (s s₁ : State) (g : FrameId) (m' : Method) (v : Value),
    s.Reachable ∧ (s₁.frameAt g).locals["x"]? = some v ∧
    Eval.callSuper g none s₁ = Eval.invoke (.object 3) 9 m' [v, .nil] g s₁ := by
  have start : Core.root < (State.initial 5).frames.size := by
    rw [size_frames_initial]
    decide
  let lower (s : State) (o : ClassId) (m : Method) : Bool :=
    let s₁ := (s.entered (.object 3) 10 m [.object 3, .nil]).2
    o == 10 && !m.statements.isEmpty && m.params == ["x"] && s₁.ancestors 10 == [10, 9, 0]
      && s₁.defines "describe" 9
  let test (s : State) : Bool := 3 < s.objects.size &&
    (s.methodOf? (.object 3) "describe").any fun x => lower s x.1 x.2
  obtain ⟨r, s, h, ht⟩ : ∃ r s, (Eval.programIn describing Core.root).Ends (State.initial 5) r s ∧
      test s = true := Eval.exists_ends_of_run 100 (fun _ s => test s) (by decide +kernel)
  obtain ⟨there, ht⟩ := Bool.and_eq_true_iff.1 ht
  have hr : (Item.value (.object 3)).In s := (of_decide_eq_true there : 3 < s.objects.size)
  obtain ⟨⟨o, m⟩, hm, ht⟩ := (Option.any_eq_true _ _).1 ht
  simp only [lower, Bool.and_eq_true, Bool.not_eq_true', beq_iff_eq] at ht
  obtain ⟨⟨⟨⟨rfl, user⟩, params⟩, way⟩, upper⟩ := ht
  obtain ⟨body, hb⟩ : ∃ body, m.body = .user ["x"] body := by
    cases hb : m.body with
    | user ps body => rw [Method.params, hb] at params; exact ⟨body, by rw [← params]⟩
    | native n => rw [Method.statements, hb] at user; cases user
  have reachable : s.Reachable := (Reachable.fresh 5).ends (.program describing start) h
  have hv : ∀ v ∈ [Value.object 3, .nil], (Item.value v).In s :=
    List.forall_mem_cons.2 ⟨hr, List.forall_mem_singleton.2 trivial⟩
  have shape : ∀ p ∈ ["x"], Shape.of p = .localVar := by decide
  let g := (s.entered (.object 3) 10 m [.object 3, .nil]).1
  let s₁ := (s.entered (.object 3) 10 m [.object 3, .nil]).2
  have self : g ∈ s₁.closureChain g := by
    rw [closureChain]
    exact List.mem_cons_self
  have same : (s₁.classAt 10).methods["describe"]?.map Method.params = some ["x"] := by
    have owned := reachable.tablesFit.method_of_found hb (.inl hm)
    rw [classAt, classes_entered, ← classAt, owned, Option.map_some, params]
  obtain ⟨current, bound, calls, -⟩ :=
    reachable.super_forwards hr (.inl hm) hb shape hv .refl self same
  have near : s₁.NearestAbove 10 "describe" 9 := ⟨upper, [], [0], by rw [way]; rfl, List.forall_mem_nil _⟩
  obtain ⟨m', -, invoked⟩ := calls 9 near
  obtain ⟨v, rfl, value⟩ := List.map_eq_singleton_iff.1 bound.symm
  exact ⟨s, s₁, g, m', v, reachable, value.symm, invoked⟩

/-- A method that assigns to its parameter, redefines itself without parameters and then goes on to
its parent's method. -/
def redefining : Program :=
  [.defineClass "Animal" none [.defineMethod "describe" ["x"] [.text "animal %x"]],
    .defineClass "Dog" (some "Animal") [.defineMethod "describe" ["x"]
      [.setLocal "x" (.text "max"), .defineMethod "describe" [] [], .super none]],
    .call (some (.call (some (.getConstant "Dog")) "new" [])) "describe" [.text "rex"]]

/-- The parent's method gets what its heir was called with, not what the parameter has become. -/
theorem super_forwards_redefined : ∃ v s', (Eval.programIn redefining Core.root).Ends
    (State.initial 5) (.ok v) s' ∧ s'.text? v = some "animal rex" := by
  let text (r : Outcome Value) (s : State) : Option String := r.toOption.bind s.text?
  obtain ⟨r, s', h, ht⟩ : ∃ r s', (Eval.programIn redefining Core.root).Ends (State.initial 5) r s'
      ∧ (text r s' == some "animal rex") = true :=
    Eval.exists_ends_of_run 100 (fun r s => text r s == some "animal rex") (by decide +kernel)
  cases r with
  | error e => exact absurd ht nofun
  | ok v => exact ⟨v, s', h, eq_of_beq ht⟩

end State

end OpenScript
