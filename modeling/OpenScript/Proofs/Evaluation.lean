import OpenScript.Proofs.Natives

/-!
# Proofs/Evaluation — tasks keep to every discipline

    node ──parts, sends──▸ tasks under it        send ──nested──▸ tasks a level deeper

Every node, every loop and every method keeps to every discipline (`Discipline.keeps_perform`), so
what holds of a state and of what is evaluated there holds of every state evaluation comes to and of
the one it ends in (`Discipline.Keeps.of_comes`, `Discipline.Keeps.of_ends`).
-/

namespace OpenScript.Discipline

variable {D : Discipline} {here : Task → Prop} {s s' : State} {α : Type} {f : FrameId}

/-! ## Methods -/

theorem yields_invoke {receiver : Value} {owner : ClassId} {m : Method} {vs : List Value}
    {caller : FrameId} (h : D.Fits s) (hr : D.has s (.value receiver))
    (ho : D.has s (.value (.cls owner))) (hm : ∀ n ∈ m.statements, D.has s (.code n))
    (hv : ∀ v ∈ vs, D.has s (.value v)) (hc : D.has s (.frame caller)) :
    D.Yields here s (Eval.invoke receiver owner m vs caller) := by
  refine yields_nested h ?_
  let s₁ : State := { s with depth := s.depth + 1 }
  have fits : D.Fits s₁ := h.depth _
  have has {i : Item} (hi : D.has s i) : D.has s₁ i := D.has_depth _ hi
  obtain ⟨name, body⟩ := m
  cases body with
  | native n =>
    have given (v : Value) (hm : v ∈ vs) : D.has s₁ (.value v) := has (hv v hm)
    exact yields_native (fun _ _ _ _ => trivial) fits (has hr) given (has hc) n
  | user params body =>
    have change : s₁.Change (D.has s₁) (s₁.enter receiver owner name params vs).2 :=
      .enter (has ho) (has hr) fun v hm => has (hv v hm)
    have enter : D.Keeps (fun _ => True) s₁ (Eval.update (·.enter receiver owner name params vs))
        fun f s' => D.has s' (.frame f) :=
      keeps_make .frame fits change (s₁.fresh_enter name receiver owner params vs)
    exact enter.bind fun f s' leads hf =>
      yields_body leads.fits (fun n hn => leads.has (has (hm n hn))) hf

theorem yields_dispatch {receiver : Value} {name : String} {vs : List Value} {caller : FrameId}
    (h : D.Fits s) (hr : D.has s (.value receiver)) (hv : ∀ v ∈ vs, D.has s (.value v))
    (hc : D.has s (.frame caller)) :
    D.Yields here s (Eval.dispatch receiver name vs caller) := by
  refine keeps_read_bind ?_
  split
  · next owner m hm =>
    obtain ⟨ho, hs⟩ := State.known_methodOf? hm
    have owns : D.has s (.value (.cls owner)) := ho.elim (fun e => e ▸ hr) h.has
    exact yields_invoke h hr owns (fun n hn => h.has (hs n hn)) hv hc
  · exact keeps_read_bind (keeps_fail h)

theorem yields_callParent {a : State.Activation} {vs : List Value} (h : D.Fits s)
    (hf : D.has s (.frame f)) (hr : D.has s (.value a.receiver))
    (hv : ∀ v ∈ vs, D.has s (.value v)) : D.Yields here s (Eval.callParent f a vs) := by
  refine keeps_state_bind ?_
  dsimp only
  split
  · next owner m hm =>
    obtain ⟨p, hp, hm⟩ := Option.bind_eq_some_iff.1 hm
    obtain ⟨rfl | ho, hs⟩ := State.known_findMethod? hm
    · have owner := h.has (State.known_class_parent hp)
      exact yields_invoke h hr owner (fun n hn => h.has (hs n hn)) hv hf
    · exact yields_invoke h hr (h.has ho) (fun n hn => h.has (hs n hn)) hv hf
  · exact keeps_fail h

theorem yields_callSuper {given : Option (List Node)} (h : D.Fits s) (hf : D.has s (.frame f))
    (hn : ∀ n ∈ given.getD [], D.has s (.code n)) (hh : ∀ n ∈ given.getD [], here (.node n f)) :
    D.Yields here s (Eval.callSuper f given) := by
  refine keeps_read_bind ?_
  split
  · exact keeps_read_bind (keeps_read_bind (keeps_fail h))
  · next a ha =>
    have receiver := (State.known_active? ha).1
    cases given with
    | none =>
      have forwarded (v) (hv : v ∈ Eval.forwardedArguments s a) : D.has s (.value v) :=
        h.has (State.known_forwardedArguments ha hv)
      exact keeps_read_bind (yields_callParent h hf (h.has receiver) forwarded)
    | some ns =>
      exact (keeps_arguments h hn hf hh).bind fun vs s' leads hv =>
        yields_callParent leads.fits (leads.has hf) (leads.has (h.has receiver)) hv

/-! ## Text -/

theorem runs_appendSegments {text : String} {segments : List Segment} (h : D.Fits s)
    (hh : ∀ v name vs c, here (.send v name vs c)) :
    D.Runs here s (Eval.appendSegments f text segments) := by
  induction segments generalizing s text with
  | nil => exact keeps_pure h trivial
  | cons segment rest ih =>
    cases segment with
    | literal t => exact ih h
    | reference name =>
      refine keeps_read_bind ?_
      exact (runs_stringify hh h (h.has (State.known_get s f name))).bind fun t s' leads _ =>
        ih leads.fits

theorem runs_interpolate {text : String} (h : D.Fits s)
    (hh : ∀ v name vs c, here (.send v name vs c)) :
    D.Runs here s (Eval.interpolate f text) := by
  unfold Eval.interpolate
  split
  · exact runs_appendSegments h hh
  · exact keeps_pure h trivial

/-! ## Classes and namespaces -/

theorem keeps_parentClass {parent : Option String} (h : D.Fits s) :
    D.Keeps here s (Eval.parentClass f parent) fun c s' => s' = s ∧ D.has s (.value (.cls c)) := by
  cases parent with
  | none => exact keeps_pure h ⟨rfl, h.has (.inl (.cls (Nat.zero_le _)))⟩
  | some name =>
    refine keeps_read_bind ?_
    split
    · next c hc => exact keeps_pure h ⟨rfl, h.has (hc ▸ State.known_get s f name)⟩
    · exact keeps_fail h

theorem keeps_defineClass {name : String} {parent : Option String} {body : Program}
    (h : D.Fits s) (hf : D.has s (.frame f))
    (hd : D.has s (.code (.defineClass name parent body))) :
    D.Keeps here s (Eval.defineClass f name parent) fun c s' => D.has s' (.value (.cls c)) := by
  refine keeps_read_bind ?_
  split
  · next c hc => exact keeps_pure h (h.has (hc ▸ State.known_get s f name))
  · next hn =>
    refine (keeps_parentClass h).bind fun c s' _ hc => ?_
    obtain ⟨rfl, hc⟩ := hc
    exact keeps_make (fun c => .value (.cls c)) h (.createClass hd hf hc hn)
      (State.fresh_createClass s' f name c)
  · exact keeps_failType h

theorem keeps_openSpace {name : String} {body : Program} (h : D.Fits s) (hf : D.has s (.frame f))
    (hd : D.has s (.code (.inNamespace name body))) :
    D.Keeps here s (Eval.openSpace f name) fun g s' => D.has s' (.frame g) := by
  refine keeps_read_bind ?_
  split
  · next g hg => exact keeps_pure h (h.has (State.known_registered? hg))
  · next hn =>
    exact keeps_make .frame h (.createSpace hd hf hn) (State.fresh_createSpace s f name)

/-! ## Nodes -/

theorem keeps_normal {x : Eval Value} (hx : D.Yields here s x) :
    D.Keeps here s (Eval.normal x) fun flow s' => D.has s' (.value flow.value) :=
  hx.bind fun _ _ leads hv => keeps_pure leads.fits hv

theorem yields_assign {name : String} {whole n : Node} (h : D.Fits s)
    (hw : D.has s (.code whole)) (hf : D.has s (.frame f)) (ha : whole.assigned? = some name)
    (hn : n ∈ whole.parts) (hh : here (.node n f)) : D.Yields here s (Eval.assign f name n) := by
  refine (yields_value h (D.part hw hn) hf hh).bind fun v s' leads hv => ?_
  have write : D.Runs here s' (Eval.modify (·.set f name v)) :=
    keeps_modify leads.fits (.set ha (leads.has hw) (leads.has hf) hv) fun _ => trivial
  exact write.then fun _ s'' leads' => keeps_pure leads'.fits (leads'.has hv)

theorem leads_addProperty {c : ClassId} {names todo : List String} (h : D.Fits s)
    (hd : D.has s (.code (.property names))) (hc : D.has s (.value (.cls c)))
    (hs : todo ⊆ names) : D.Leads s (todo.foldl (Eval.addProperty c) s) := by
  induction todo generalizing s with
  | nil => exact .refl h
  | cons name todo ih =>
    have first : D.Leads s (Eval.addProperty c s name) :=
      leads_of_change h (.addProperty hd (hs List.mem_cons_self) hc)
    exact first.trans (ih first.fits (first.has hd) (first.has hc) fun _ hm =>
      hs (List.mem_cons_of_mem name hm))

/-- **A node keeps to every discipline.** -/
theorem keeps_performNode (n : Node) (h : D.Fits s) (hn : D.has s (.code n))
    (hf : D.has s (.frame f)) :
    D.Keeps (·.Under (.node n f)) s (Eval.performNode f n)
      fun flow s' => D.has s' (.value flow.value) := by
  have sends (v name vs c) : Task.Under (.send v name vs c) (.node n f) := .send
  cases n with
  | int k => exact keeps_normal (yields_integer h)
  | float x =>
    exact keeps_normal (yields_box (p := .float x) h (fun _ hi => (hi : False).elim) nofun)
  | text t =>
    refine keeps_normal ?_
    exact (runs_interpolate h sends).then fun _ s₁ l₁ => yields_string l₁.fits
  | symbol name => exact keeps_normal (yields_symbol h)
  | true => exact keeps_pure h (h.has (.inl (.bool _)))
  | false => exact keeps_pure h (h.has (.inl (.bool _)))
  | nil => exact keeps_pure h (h.has State.known_nil)
  | self => exact keeps_read_bind (keeps_pure h (h.has (State.known_self s f)))
  | getLocal name =>
    refine keeps_normal (keeps_state_bind ?_)
    dsimp only
    split
    · exact keeps_send h (h.has (State.known_self s f)) (List.forall_mem_nil _) hf (sends ..)
    · exact keeps_pure h (h.has (State.known_get s f name))
  | getConstant name | getGlobal name | getClassVar name | getInstanceVar name =>
    exact keeps_normal (yields_read h (State.known_get s f name))
  | setLocal name m | setGlobal name m | setClassVar name m | setInstanceVar name m =>
    exact keeps_normal (yields_assign h hn hf rfl List.mem_cons_self (.part List.mem_cons_self))
  | setConstant name m =>
    refine keeps_normal (keeps_read_bind ?_)
    split
    · next v hv => exact keeps_pure h (h.has (State.known_ownConstant? hv))
    · have hm : D.has s (.code m) := D.part hn List.mem_cons_self
      refine (yields_value h hm hf (.part List.mem_cons_self)).bind fun v s₁ l₁ hv => ?_
      have write : D.Runs (·.Under (.node (.setConstant name m) f)) s₁
          (Eval.update (·.defineConstant f name v)) :=
        keeps_update l₁.fits (.defineConstant (l₁.has hn) (l₁.has hf) hv) fun _ => trivial
      exact write.then fun _ s₂ l₂ => keeps_pure l₂.fits (l₂.has hv)
  | call receiver method ns =>
    have hns (m) (hm : m ∈ ns) : m ∈ (Node.call receiver method ns).parts :=
      List.mem_append_right _ hm
    have rest {s₁ v} (l₁ : D.Leads s s₁) (hv : D.has s₁ (.value v)) :
        D.Yields (·.Under (.node (.call receiver method ns) f)) s₁
          (do let vs ← Eval.arguments f ns; Eval.send v method vs f) := by
      refine (keeps_arguments l₁.fits (fun m hm => l₁.has (D.part hn (hns m hm))) (l₁.has hf)
        fun m hm => .part (hns m hm)).bind fun vs s₂ l₂ hvs => ?_
      exact keeps_send l₂.fits (l₂.has hv) hvs (l₂.has (l₁.has hf)) .send
    refine keeps_normal ?_
    cases receiver with
    | some m =>
      have hm : m ∈ (Node.call (some m) method ns).parts := List.mem_cons_self
      exact (yields_value h (D.part hn hm) hf (.part hm)).bind fun v s₁ l₁ hv => rest l₁ hv
    | none => exact keeps_read_bind (rest (.refl h) (h.has (State.known_self s f)))
  | super given =>
    exact keeps_normal (yields_callSuper h hf (fun m hm => D.part hn hm) fun m hm => .part hm)
  | defineClass name parent body =>
    refine keeps_normal ?_
    refine (keeps_defineClass h hf hn).bind fun c s₁ l₁ hc => keeps_read_bind ?_
    refine (keeps_statements l₁.fits (fun m hm => l₁.has (D.part hn hm))
      (l₁.fits.has (State.known_class_frame s₁ c)) fun m hm => .part hm).bind fun _ s₂ l₂ _ => ?_
    exact keeps_pure l₂.fits (l₂.has hc)
  | property names =>
    refine keeps_normal (keeps_read_bind ?_)
    have cls := h.has (State.known_frame_cls s f)
    have leads := leads_addProperty h hn cls (List.Subset.refl names)
    have write : D.Runs (·.Under (.node (.property names) f)) s
        (Eval.modify (names.foldl (Eval.addProperty (s.frameAt f).cls) ·)) :=
      ⟨leads, fun _ _ => trivial⟩
    exact write.then fun _ s₁ l₁ => yields_nil l₁.fits
  | defineMethod name params body =>
    refine keeps_normal (keeps_read_bind ?_)
    have write : D.Runs (·.Under (.node (.defineMethod name params body) f)) s
        (Eval.modify (·.defineMethod (s.frameAt f).cls ⟨name, .user params body⟩)) :=
      keeps_modify h (.defineMethod hn (h.has (State.known_frame_cls s f))) fun _ => trivial
    exact write.then fun _ s₁ l₁ => yields_nil l₁.fits
  | lambda params body =>
    refine keeps_normal (yields_box (p := .lambda ⟨params, body, f⟩) h (fun i hi => ?_) nofun)
    cases i with
    | value v => exact hi.elim
    | frame g => obtain rfl : g = f := hi; exact hf
    | code m => exact D.part hn hi
  | ifElse condition body otherwise =>
    have hcond : condition ∈ (Node.ifElse condition body otherwise).parts := List.mem_cons_self
    have hbody (m) (hm : m ∈ body) : m ∈ (Node.ifElse condition body otherwise).parts :=
      List.mem_cons_of_mem _ (List.mem_append_left _ hm)
    refine (yields_value h (D.part hn hcond) hf (.part hcond)).bind fun v s₁ l₁ _ => ?_
    refine keeps_read_bind ?_
    split
    · exact keeps_statements l₁.fits (fun m hm => l₁.has (D.part hn (hbody m hm))) (l₁.has hf)
        fun m hm => .part (hbody m hm)
    · split
      · next m =>
        have hm : m ∈ (Node.ifElse condition body (some m)).parts :=
          List.mem_cons_of_mem _ (List.mem_append_right _ List.mem_cons_self)
        exact keeps_node l₁.fits (l₁.has (D.part hn hm)) (l₁.has hf) (.part hm)
      · exact keeps_pure l₁.fits (l₁.fits.has State.known_nil)
  | whileLoop condition body =>
    exact keeps_ask (t := .loop condition body f .nil) h ⟨hn, hf, h.has State.known_nil⟩ .loop
  | block body => exact keeps_statements h (fun m hm => D.part hn hm) hf fun m hm => .part hm
  | «return» value =>
    cases value with
    | none => exact keeps_pure h (h.has State.known_nil)
    | some m =>
      have hm : D.has s (.code m) := D.part hn List.mem_cons_self
      exact (yields_value h hm hf (.part List.mem_cons_self)).bind fun v s₁ l₁ hv =>
        keeps_pure l₁.fits hv
  | next => exact keeps_pure h (h.has State.known_nil)
  | and left right =>
    have hl : left ∈ (Node.and left right).parts := List.mem_cons_self
    have hr : right ∈ (Node.and left right).parts := List.mem_cons_of_mem _ List.mem_cons_self
    refine keeps_normal ?_
    refine (yields_value h (D.part hn hl) hf (.part hl)).bind fun v s₁ l₁ hv => keeps_read_bind ?_
    split
    · exact yields_value l₁.fits (l₁.has (D.part hn hr)) (l₁.has hf) (.part hr)
    · exact keeps_pure l₁.fits hv
  | or left right =>
    have hl : left ∈ (Node.or left right).parts := List.mem_cons_self
    have hr : right ∈ (Node.or left right).parts := List.mem_cons_of_mem _ List.mem_cons_self
    refine keeps_normal ?_
    refine (yields_value h (D.part hn hl) hf (.part hl)).bind fun v s₁ l₁ hv => keeps_read_bind ?_
    split
    · exact keeps_pure l₁.fits hv
    · exact yields_value l₁.fits (l₁.has (D.part hn hr)) (l₁.has hf) (.part hr)
  | not operand =>
    have ho : operand ∈ (Node.not operand).parts := List.mem_cons_self
    refine keeps_normal ?_
    refine (yields_value h (D.part hn ho) hf (.part ho)).bind fun v s₁ l₁ _ => ?_
    exact keeps_read_bind (yields_bool l₁.fits)
  | inNamespace name body =>
    refine keeps_normal ?_
    refine (keeps_openSpace h hf hn).bind fun g s₁ l₁ hg => ?_
    refine (keeps_statements l₁.fits (fun m hm => l₁.has (D.part hn hm)) hg
      fun m hm => .part hm).bind fun _ s₂ l₂ hv => ?_
    exact keeps_pure l₂.fits hv
  | getFromNamespace space name =>
    refine keeps_normal (keeps_read_bind ?_)
    split
    · next g _ => exact yields_read h (State.known_get s g name)
    · exact yields_nil h

/-- **A loop keeps to every discipline.** -/
theorem keeps_performLoop {condition : Node} {body : List Node} {last : Value} (h : D.Fits s)
    (hn : D.has s (.code (.whileLoop condition body))) (hf : D.has s (.frame f))
    (hl : D.has s (.value last)) :
    D.Keeps (·.Under (.loop condition body f last)) s (Eval.performLoop condition body f last)
      fun flow s' => D.has s' (.value flow.value) := by
  have hcond : D.has s (.code condition) := D.part hn List.mem_cons_self
  refine (yields_value h hcond hf .condition).bind fun v s₁ l₁ _ => keeps_read_bind ?_
  split
  · refine (keeps_statements l₁.fits (fun m hm => l₁.has (D.part hn (List.mem_cons_of_mem _ hm)))
      (l₁.has hf) fun m hm => .body hm).bind fun flow s₂ l₂ hv => ?_
    have again {v : Value} (hv : D.has s₂ (.value v)) :
        D.Keeps (·.Under (.loop condition body f last)) s₂ (Eval.ask (.loop condition body f v))
          fun flow s' => D.has s' (.value flow.value) :=
      keeps_ask (t := .loop condition body f v) l₂.fits ⟨l₂.has (l₁.has hn), l₂.has (l₁.has hf), hv⟩
        .again
    cases flow with
    | normal w => exact again hv
    | skip => exact again (l₂.has (l₁.has hl))
    | «return» w => exact keeps_pure l₂.fits hv
  · exact keeps_pure l₁.fits (l₁.has hl)

/-- **Performing a task keeps to every discipline**, and asks only for tasks under it at the same
level of calls. -/
theorem keeps_perform {t : Task} (h : D.Fits s) (ht : D.Admits s t) :
    D.Keeps (·.Under t) s t.perform fun flow s' => D.has s' (.value flow.value) := by
  cases t with
  | node n f => exact keeps_performNode n h ht.1 ht.2
  | loop condition body f last => exact keeps_performLoop h ht.1 ht.2.1 ht.2.2
  | send receiver name vs caller => exact keeps_normal (yields_dispatch h ht.1 ht.2.1 ht.2.2)

/-! ## Runs -/

variable {x : Eval α} {Q : α → State → Prop} {r : Outcome α}

/-- What keeps to a discipline asks only for what it admits. -/
theorem Keeps.meets (hx : D.Keeps here s x Q) :
    (x s).Meets (D.contract fun _ _ => True) fun r s' =>
      D.Leads s s' ∧ ∀ a, r = .ok a → Q a s' :=
  Comp.Meets.mono hx (fun _ _ hp => ⟨hp.1, hp.2.1, trivial⟩) fun _ _ => id

/-- Tasks keep to a discipline wherever they are asked for. -/
theorem meets_perform {allowed : Task → State → Prop} (t : Task) (s : State)
    (h : (D.contract allowed).pre t s) :
    (t.perform s).Meets (D.contract fun _ _ => True) ((D.contract allowed).post t s) :=
  (keeps_perform h.1 h.2.1).meets

/-- **What keeps to a discipline leads to a state in order**, whether or not it ends well. -/
theorem Keeps.of_ends (hx : D.Keeps here s x Q) (h : x.Ends s r s') :
    D.Leads s s' ∧ ∀ a, r = .ok a → Q a s' := Eval.post_of_ends meets_perform hx.meets h

/-- **What keeps to a discipline asks for tasks in states in order.** -/
theorem Keeps.of_asks (hx : D.Keeps here s x Q) {t : Task} (h : x.Asks s t s') :
    D.Fits s' ∧ D.Admits s' t :=
  have pre := Eval.pre_of_asks meets_perform hx.meets h
  ⟨pre.1, pre.2.1⟩

/-- **A state that evaluation passes through is in order**: any in which it comes to a task. -/
theorem Keeps.of_comes (hx : D.Keeps here s x Q) {t : Task} (h : x.Comes s t s') :
    D.Fits s' ∧ D.Admits s' t := by
  induction h with
  | asks h => exact hx.of_asks h
  | within _ ht ih => exact (keeps_perform ih.1 ih.2).of_asks ht

end OpenScript.Discipline
