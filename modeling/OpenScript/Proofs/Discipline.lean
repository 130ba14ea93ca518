import OpenScript.Proofs.Change
import OpenScript.Proofs.Ends

/-!
# Proofs/Discipline — invariants of evaluation, proved once

    inv s, known ⊆ has ──evaluate what is had──▸ inv s', known ⊆ has, had stays had

A discipline says what a state is like and what evaluation may handle there, and that no change
evaluation can make breaks either.  Evaluation then keeps to it all along, whatever is evaluated
and however it ends; and it asks for tasks only one level of calls deeper, or at the same level
for parts of what it performs (`Task.Under`).
-/

namespace OpenScript

/-- A task that performing another may ask for at the same level of calls. -/
inductive Task.Under : Task → Task → Prop where
  | part {m n : Node} {f g : FrameId} (h : m ∈ n.parts) : Under (.node m g) (.node n f)
  | loop {c : Node} {body : List Node} {f : FrameId} {v : Value} :
    Under (.loop c body f v) (.node (.whileLoop c body) f)
  | condition {c : Node} {body : List Node} {f : FrameId} {v : Value} :
    Under (.node c f) (.loop c body f v)
  | body {m c : Node} {body : List Node} {f : FrameId} {v : Value} (h : m ∈ body) :
    Under (.node m f) (.loop c body f v)
  | again {c : Node} {body : List Node} {f : FrameId} {v w : Value} :
    Under (.loop c body f w) (.loop c body f v)
  | send {n : Node} {f caller : FrameId} {v : Value} {name : String} {vs : List Value} :
    Under (.send v name vs caller) (.node n f)

/-- A task may be asked for at the level of calls if it is one of those, and deeper down always. -/
def Task.Allowed (here : Task → Prop) (level : Nat × Nat) (t : Task) (s : State) : Prop :=
  s.limit = level.2 ∧ (s.depth = level.1 ∧ here t ∨ level.1 < s.depth ∧ s.depth ≤ level.2)

/-- What states are like and what evaluation may handle in them, kept by all changes. -/
structure Discipline where
  inv : State → Prop
  has : State → Item → Prop
  part {s : State} {m n : Node} : has s (.code n) → m ∈ n.parts → has s (.code m)
  change {s s' : State} : inv s → (∀ i, s.Known i → has s i) → s.Change (has s) s' →
    inv s' ∧ (∀ i, has s i → has s' i) ∧ ∀ i, i.FreshIn s s' → has s' i
  inv_depth {s : State} (d : Nat) : inv s → inv { s with depth := d }
  has_depth {s : State} {i : Item} (d : Nat) : has s i → has { s with depth := d } i

namespace Discipline

/-- A state in order: all that can be read from it may be handled. -/
structure Fits (D : Discipline) (s : State) : Prop where
  inv : D.inv s
  has {i : Item} (h : s.Known i) : D.has s i

/-- What evaluation may be asked for. -/
def Admits (D : Discipline) (s : State) : Task → Prop
  | .node n f => D.has s (.code n) ∧ D.has s (.frame f)
  | .loop c body f last =>
    D.has s (.code (.whileLoop c body)) ∧ D.has s (.frame f) ∧ D.has s (.value last)
  | .send v _ vs caller =>
    D.has s (.value v) ∧ (∀ w ∈ vs, D.has s (.value w)) ∧ D.has s (.frame caller)

/-- From a state to a later one at the same level of calls. -/
structure Leads (D : Discipline) (s s' : State) : Prop where
  fits : D.Fits s'
  has {i : Item} (h : D.has s i) : D.has s' i
  level : s'.level = s.level

/-- What tasks keep to: they are asked for where allowed and lead to states in order. -/
def contract (D : Discipline) (allowed : Task → State → Prop) : Eval.Contract where
  pre t s := D.Fits s ∧ D.Admits s t ∧ allowed t s
  post _ s r s' := D.Leads s s' ∧ ∀ flow, r = .ok flow → D.has s' (.value flow.value)

/-- Evaluation from a state keeps to a discipline, asks at this level for `here` only, and gives
results in `Q`. -/
def Keeps (D : Discipline) (here : Task → Prop) (s : State) (x : Eval α) (Q : α → State → Prop) :
    Prop :=
  (x s).Meets (D.contract (Task.Allowed here s.level)) fun r s' =>
    D.Leads s s' ∧ ∀ a, r = .ok a → Q a s'

/-- Evaluation that keeps to a discipline and gives a value that may be handled. -/
abbrev Yields (D : Discipline) (here : Task → Prop) (s : State) (x : Eval Value) : Prop :=
  D.Keeps here s x fun v s' => D.has s' (.value v)

/-- Evaluation that keeps to a discipline, whatever it gives. -/
abbrev Runs (D : Discipline) (here : Task → Prop) (s : State) (x : Eval α) : Prop :=
  D.Keeps here s x fun _ _ => True

variable {D : Discipline} {here : Task → Prop} {s s' s'' : State} {α β : Type}

theorem Leads.refl (h : D.Fits s) : D.Leads s s := ⟨h, id, rfl⟩

theorem Leads.trans (h : D.Leads s s') (h' : D.Leads s' s'') : D.Leads s s'' :=
  ⟨h'.fits, fun hi => h'.has (h.has hi), h'.level.trans h.level⟩

/-- **A change leads to a state in order.** -/
theorem leads_of_change (h : D.Fits s) (hc : s.Change (D.has s) s') : D.Leads s s' := by
  have known : ∀ i, s.Known i → D.has s i := fun i hi => h.has hi
  obtain ⟨inv, stays, fresh⟩ := D.change h.inv known hc
  refine ⟨⟨inv, fun {i} hi => ?_⟩, fun {i} => stays i, hc.level⟩
  rcases hi with hi | hi
  · exact stays i (known i (.inl hi))
  · exact (hc.had_or_fresh known D.part hi).elim (stays i) (fresh i)

/-! ## Steps -/

variable {Q : α → State → Prop} {R : β → State → Prop}

theorem Keeps.mono {P : α → State → Prop} {x : Eval α} (h : D.Keeps here s x P)
    (hq : ∀ a s', D.Leads s s' → P a s' → Q a s') : D.Keeps here s x Q :=
  Comp.Meets.mono h (fun _ _ => id) fun _ s' h => ⟨h.1, fun a ha => hq a s' h.1 (h.2 a ha)⟩

theorem keeps_pure {a : α} (h : D.Fits s) (ha : Q a s) : D.Keeps here s (pure a) Q :=
  ⟨.refl h, fun _ e => Except.ok.inj e ▸ ha⟩

theorem keeps_fail {e : RuntimeError} (h : D.Fits s) : D.Keeps here s (Eval.fail e) Q :=
  ⟨.refl h, nofun⟩

theorem keeps_read {f : State → α} (h : D.Fits s) (ha : Q (f s) s) :
    D.Keeps here s (Eval.read f) Q :=
  ⟨.refl h, fun _ e => Except.ok.inj e ▸ ha⟩

/-- **One evaluation after another keeps to a discipline if both do.** -/
theorem Keeps.bind {x : Eval α} {f : α → Eval β} (hx : D.Keeps here s x Q)
    (hf : ∀ a s', D.Leads s s' → Q a s' → D.Keeps here s' (f a) R) :
    D.Keeps here s (x >>= f) R := by
  refine Comp.Meets.bind hx fun r s' h => ?_
  cases r with
  | error e => exact ⟨h.1, nofun⟩
  | ok a =>
    have := hf a s' h.1 (h.2 a rfl)
    rw [Keeps, h.1.level] at this
    exact this.mono (fun _ _ => id) fun r s'' h' => ⟨h.1.trans h'.1, h'.2⟩

/-- What is read is at hand in the state it is read from. -/
theorem keeps_read_bind {f : State → α} {g : α → Eval β} (h : D.Keeps here s (g (f s)) R) :
    D.Keeps here s (Eval.read f >>= g) R := h

theorem keeps_state_bind {g : State → Eval β} (h : D.Keeps here s (g s) R) :
    D.Keeps here s (Eval.state >>= g) R := h

theorem keeps_update {f : State → α × State} (h : D.Fits s) (hc : s.Change (D.has s) (f s).2)
    (hq : D.Leads s (f s).2 → Q (f s).1 (f s).2) : D.Keeps here s (Eval.update f) Q :=
  have leads := leads_of_change h hc
  ⟨leads, fun _ e => Except.ok.inj e ▸ hq leads⟩

/-- **What a change makes may be handled.** -/
theorem keeps_make (item : α → Item) {f : State → α × State} (h : D.Fits s)
    (hc : s.Change (D.has s) (f s).2) (hi : (item (f s).1).FreshIn s (f s).2) :
    D.Keeps here s (Eval.update f) fun a s' => D.has s' (item a) := by
  obtain ⟨-, -, fresh⟩ := D.change h.inv (fun i hi => h.has hi) hc
  exact keeps_update h hc fun _ => fresh _ hi

theorem keeps_modify {f : State → State} {Q : Unit → State → Prop} (h : D.Fits s)
    (hc : s.Change (D.has s) (f s)) (hq : D.Leads s (f s) → Q () (f s)) :
    D.Keeps here s (Eval.modify f) Q :=
  have leads := leads_of_change h hc
  ⟨leads, fun _ _ => hq leads⟩

theorem keeps_ask {t : Task} (h : D.Fits s) (ht : D.Admits s t) (hh : here t) :
    D.Keeps here s (Eval.ask t) fun flow s' => D.has s' (.value flow.value) :=
  ⟨⟨h, ht, rfl, .inl ⟨rfl, hh⟩⟩, fun _ _ h => h⟩

theorem keeps_send {v : Value} {name : String} {vs : List Value} {caller : FrameId}
    (h : D.Fits s) (hv : D.has s (.value v)) (hs : ∀ w ∈ vs, D.has s (.value w))
    (hc : D.has s (.frame caller)) (hh : here (.send v name vs caller)) :
    D.Yields here s (Eval.send v name vs caller) :=
  (keeps_ask (t := .send v name vs caller) h ⟨hv, hs, hc⟩ hh).bind fun _ _ hl ha =>
    keeps_pure hl.fits ha

/-! ## Evaluations -/

theorem keeps_node {n : Node} {f : FrameId} (h : D.Fits s) (hn : D.has s (.code n))
    (hf : D.has s (.frame f)) (hh : here (.node n f)) :
    D.Keeps here s (Eval.node n f) fun flow s' => D.has s' (.value flow.value) :=
  keeps_ask (t := .node n f) h ⟨hn, hf⟩ hh

theorem yields_value {n : Node} {f : FrameId} (h : D.Fits s) (hn : D.has s (.code n))
    (hf : D.has s (.frame f)) (hh : here (.node n f)) : D.Yields here s (Eval.value n f) :=
  (keeps_node h hn hf hh).bind fun _ _ hl hv => keeps_pure hl.fits hv

theorem keeps_statementsFrom {f : FrameId} {ns : List Node} {last : Value} (h : D.Fits s)
    (hn : ∀ n ∈ ns, D.has s (.code n)) (hf : D.has s (.frame f)) (hl : D.has s (.value last))
    (hh : ∀ n ∈ ns, here (.node n f)) :
    D.Keeps here s (Eval.statementsFrom f last ns) fun flow s' => D.has s' (.value flow.value) := by
  induction ns generalizing s last with
  | nil => exact keeps_pure h hl
  | cons n ns ih =>
    have first := keeps_node h (hn n List.mem_cons_self) hf (hh n List.mem_cons_self)
    refine first.bind fun flow s' leads hv => ?_
    cases flow with
    | normal v =>
      refine ih leads.fits (fun m hm => ?_) (leads.has hf) hv fun m hm => ?_
      · exact leads.has (hn m (List.mem_cons_of_mem n hm))
      · exact hh m (List.mem_cons_of_mem n hm)
    | «return» v => exact keeps_pure leads.fits hv
    | skip => exact keeps_pure leads.fits hv

theorem keeps_statements {f : FrameId} {ns : List Node} (h : D.Fits s)
    (hn : ∀ n ∈ ns, D.has s (.code n)) (hf : D.has s (.frame f)) (hh : ∀ n ∈ ns, here (.node n f)) :
    D.Keeps here s (Eval.statements ns f) fun flow s' => D.has s' (.value flow.value) :=
  keeps_statementsFrom h hn hf (h.has State.known_nil) hh

theorem keeps_arguments {f : FrameId} {ns : List Node} (h : D.Fits s)
    (hn : ∀ n ∈ ns, D.has s (.code n)) (hf : D.has s (.frame f)) (hh : ∀ n ∈ ns, here (.node n f)) :
    D.Keeps here s (Eval.arguments f ns) fun vs s' => ∀ v ∈ vs, D.has s' (.value v) := by
  induction ns generalizing s with
  | nil => exact keeps_pure h nofun
  | cons n ns ih =>
    have first := yields_value h (hn n List.mem_cons_self) hf (hh n List.mem_cons_self)
    refine first.bind fun v s' leads hv => ?_
    have rest := ih leads.fits (fun m hm => leads.has (hn m (List.mem_cons_of_mem n hm)))
      (leads.has hf) fun m hm => hh m (List.mem_cons_of_mem n hm)
    exact rest.bind fun vs s'' leads' hvs =>
      keeps_pure leads'.fits (List.forall_mem_cons.2 ⟨leads'.has hv, hvs⟩)

/-- A fresh object may be handled. -/
theorem yields_box {p : Payload} (h : D.Fits s) (hp : ∀ i, p.Holds i → D.has s i)
    (hs : ∀ i, p = .symbol i → i < s.symbols.size) : D.Yields here s (Eval.box p.home p) := by
  refine keeps_make .value h (.box p hp hs) ⟨Nat.le_refl _, ?_⟩
  simp [State.box, State.addObject]

theorem yields_instantiate {c : ClassId} (h : D.Fits s) (hc : D.has s (.value (.cls c))) :
    D.Yields here s (Eval.update (·.instantiate c)) := by
  refine keeps_make .value h (.instantiate hc) ⟨Nat.le_refl _, ?_⟩
  simp [State.instantiate, State.box, State.addObject]

theorem yields_string {text : String} (h : D.Fits s) : D.Yields here s (Eval.string text) :=
  yields_box (p := .text text) h (fun _ hi => (hi : False).elim) nofun

theorem yields_integer {n : Int64} (h : D.Fits s) : D.Yields here s (Eval.integer n) :=
  yields_box (p := .int n) h (fun _ hi => (hi : False).elim) nofun

theorem yields_symbol {name : String} (h : D.Fits s) : D.Yields here s (Eval.symbol name) := by
  have intern : D.Keeps here s (Eval.update (·.intern name)) fun i s' => i < s'.symbols.size :=
    keeps_update h (.intern name) fun _ => SymbolTable.intern_lt_size _ _
  refine intern.bind fun i s' leads hi => ?_
  refine yields_box (p := .symbol i) leads.fits (fun _ hi => (hi : False).elim) ?_
  rintro _ ⟨⟩
  exact hi

theorem keeps_failType {expected : String} {v : Value} (h : D.Fits s) :
    D.Keeps here s (Eval.failType expected v) Q := keeps_read_bind (keeps_fail h)

/-! ## Calls

Inside a call everything is allowed: it is a level deeper. -/

theorem Fits.depth (h : D.Fits s) (d : Nat) : D.Fits { s with depth := d } :=
  ⟨D.inv_depth d h.inv, fun hi => D.has_depth d (h.has (hi.imp_right (·.of_eq rfl rfl rfl rfl)))⟩

/-- **A call keeps to a discipline if what it runs does, one level deeper.** -/
theorem keeps_nested {x : Eval α} (h : D.Fits s)
    (hx : D.Keeps (fun _ => True) { s with depth := s.depth + 1 } x
      fun a s' => Q a { s' with depth := s'.depth - 1 }) :
    D.Keeps here s (Eval.nested x) Q := by
  unfold Keeps Eval.nested
  split
  case isTrue => exact keeps_fail h
  case isFalse hlt =>
    refine Comp.Meets.bind (Comp.Meets.mono hx (fun t s' => ?_) fun _ _ => id) fun r s' hr => ?_
    · rintro ⟨fits, admits, hl, hd⟩
      have deeper : s.depth < s'.depth ∧ s'.depth ≤ s.limit := by
        rcases hd with ⟨hd, -⟩ | ⟨hd, hle⟩
        · have : s'.depth = s.depth + 1 := hd
          omega
        · exact ⟨Nat.lt_of_succ_lt hd, hle⟩
      exact ⟨fits, admits, hl, .inr deeper⟩
    · obtain ⟨leads, hq⟩ := hr
      have level : s'.level = (s.depth + 1, s.limit) := leads.level
      obtain ⟨hd, hl⟩ := Prod.mk.inj level
      refine ⟨⟨leads.fits.depth _, fun hi => ?_, ?_⟩, hq⟩
      · exact D.has_depth _ (leads.has (D.has_depth _ hi))
      · exact Prod.ext (by rw [State.level, State.level, hd]; rfl) hl

/-- What a call returns may be handled after it too. -/
theorem yields_nested {x : Eval Value} (h : D.Fits s)
    (hx : D.Yields (fun _ => True) { s with depth := s.depth + 1 } x) :
    D.Yields here s (Eval.nested x) :=
  keeps_nested h (hx.mono fun _ _ _ hv => D.has_depth _ hv)

theorem yields_body {f : FrameId} {ns : List Node} (h : D.Fits s)
    (hn : ∀ n ∈ ns, D.has s (.code n)) (hf : D.has s (.frame f)) :
    D.Yields (fun _ => True) s (do return (← Eval.statements ns f).value) :=
  (keeps_statements h hn hf fun _ _ => trivial).bind fun _ _ hl hv => keeps_pure hl.fits hv

theorem yields_applyClosure {c : Closure} {vs : List Value} (h : D.Fits s)
    (hc : D.has s (.frame c.captured)) (hb : ∀ n ∈ c.body, D.has s (.code n))
    (hv : ∀ v ∈ vs, D.has s (.value v)) : D.Yields here s (Eval.applyClosure c vs) := by
  refine yields_nested h ?_
  let s₁ : State := { s with depth := s.depth + 1 }
  have change : s₁.Change (D.has s₁) (s₁.enterClosure c vs).2 :=
    .enterClosure (D.has_depth _ hc) fun v hm => D.has_depth _ (hv v hm)
  have enter : D.Keeps (fun _ => True) s₁ (Eval.update (·.enterClosure c vs))
      fun f s' => D.has s' (.frame f) :=
    keeps_make .frame (h.depth _) change (s₁.fresh_enterClosure c vs)
  exact enter.bind fun f s' leads hf =>
    yields_body leads.fits (fun n hn => leads.has (D.has_depth _ (hb n hn))) hf

/-! ## Text -/

variable (hh : ∀ v name vs c, here (.send v name vs c))
include hh

theorem runs_stringify {v : Value} (h : D.Fits s) (hv : D.has s (.value v)) :
    D.Runs here s (Eval.stringify v) := by
  have send := keeps_send h hv (List.forall_mem_nil _) (h.has (.inl .root)) (hh v "to_string" [] _)
  refine send.bind fun shown s' leads _ => ?_
  refine keeps_read_bind ?_
  cases s'.text? shown with
  | some text => exact keeps_pure leads.fits trivial
  | none => exact keeps_failType leads.fits

end Discipline

end OpenScript
