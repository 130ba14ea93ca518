import OpenScript.Proofs.Tables

/-!
# Proofs/Activations — which method code runs in

    lambda's frame ──captured, parent──▸ ⋯ ──captured, parent──▸ the method's own frame

The frames that a frame refers to are older, and a lambda's frame lies in the frame it captured
(`State.LinksFit`).  So from a lambda, nested to whatever depth in the body of a method, the nearest
activation outwards is that of the method (`State.LinksFit.active?_of_mem_closureChain`).
-/

namespace OpenScript

/-- The frames that a frame refers to are older, and it lies in the frame it captured. -/
structure Frame.LinksFit (x : Frame) (f : FrameId) : Prop where
  parent {p : FrameId} (h : x.parent = some p) : p < f
  captured {c : FrameId} (h : x.role.captured? = some c) : x.parent = some c

theorem Frame.LinksFit.grows {x y : Frame} {f : FrameId} (h : x.LinksFit f) (hg : x.Grows y) :
    y.LinksFit f where
  parent hp := h.parent (hg.parent ▸ hp)
  captured hc := hg.parent.trans (h.captured (hg.role.captured? ▸ hc))

/-- A frame that captures nothing fits if it lies in an older one. -/
theorem Frame.LinksFit.of_parent {x : Frame} {f p : FrameId} (hx : x.parent = some p) (hp : p < f)
    (hc : x.role.captured? = none) : x.LinksFit f where
  parent h := Option.some.inj (hx.symm.trans h) ▸ hp
  captured h := absurd (hc.symm.trans h) nofun

/-- So does one that lies in none. -/
theorem Frame.LinksFit.of_outermost {x : Frame} {f : FrameId} (hx : x.parent = none)
    (hc : x.role.captured? = none) : x.LinksFit f where
  parent h := absurd (hx.symm.trans h) nofun
  captured h := absurd (hc.symm.trans h) nofun

namespace State

variable {s s' : State} {f g : FrameId} {a : Activation}

/-- All frames refer to older ones and lie in what they captured. -/
def LinksFit (s : State) : Prop := ∀ f, (s.frameAt f).LinksFit f

/-! ## Steps -/

namespace LinksFit

variable (h : s.LinksFit)
include h

/-- Frames that only grow go on to fit. -/
theorem persists (hs : s.Persists s') (size : s'.frames.size = s.frames.size) : s'.LinksFit := by
  intro f
  rcases Nat.lt_or_ge f s.frames.size with hf | hf
  · exact (h f).grows (hs.frameAt hf)
  · have none₁ : s.frames[f]? = none := Array.getElem?_eq_none hf
    have none₂ : s'.frames[f]? = none := Array.getElem?_eq_none (size ▸ hf)
    have old := h f
    rw [frameAt, none₁] at old
    rw [frameAt, none₂]
    exact old

theorem addFrame {x : Frame} (hx : x.LinksFit s.frames.size) : (s.addFrame x).2.LinksFit := by
  intro f
  have old := h f
  simp only [frameAt, State.addFrame, Array.getElem?_push] at old ⊢
  split
  · next e => exact e ▸ hx
  · exact old

theorem createClass {name : String} {p : ClassId} (hf : f < s.frames.size) :
    (Eval.createClass s f name p).2.LinksFit := by
  let x : Class := { name, parent := some p, frame := s.frames.size }
  have made : ((s.newClassBody f s.classes.size).2.addClass x).2.LinksFit :=
    h.addFrame (.of_parent rfl hf rfl)
  exact made.persists (grows_set _ f name _).persists (size_frames_set _ f name _)

theorem createSpace {name : String} (hf : f < s.frames.size) (hn : s.registered? f name = none) :
    (Eval.createSpace s f name).2.LinksFit := by
  have owned : (s.instantiate Core.object).2.LinksFit := h
  have made : ((s.instantiate Core.object).2.newSpace f (.object s.objects.size)
      Core.object).2.LinksFit := owned.addFrame (.of_parent rfl hf rfl)
  refine made.persists (s.grows_created hn).persists ?_
  rw [size_frames_createSpace]
  exact (Array.size_push _).symm

theorem enter {receiver : Value} {owner : ClassId} {name : String} {params : List String}
    {vs : List Value} (hf : (s.classAt owner).frame < s.frames.size) :
    (s.enter receiver owner name params vs).2.LinksFit := by
  rw [enter_eq]
  have outer := h.addFrame (x := s.receiverFrame receiver owner) (.of_parent rfl hf rfl)
  have size : (s.addFrame (s.receiverFrame receiver owner)).2.frames.size = s.frames.size + 1 :=
    Array.size_push _
  exact outer.addFrame (.of_parent rfl (size ▸ Nat.lt_succ_self _) rfl)

theorem enterClosure {c : Closure} {vs : List Value} (hc : c.captured < s.frames.size) :
    (s.enterClosure c vs).2.LinksFit := by
  rw [enterClosure_eq]
  exact h.addFrame ⟨fun hp => Option.some.inj hp ▸ hc, id⟩

/-- **No step breaks the links between frames.** -/
theorem next (hs : s.WellFormed) (hn : s.Next s') : s'.LinksFit := by
  cases hn with
  | depth | drain => exact h
  | probe c ofClass name p =>
    exact h.persists (s.persists_defineProbe c ofClass name p) (by cases ofClass <;> rfl)
  | change hc =>
    have same (size : s'.frames.size = s.frames.size) : s'.LinksFit :=
      h.persists hc.grows.persists size
    cases hc with
    | createClass hd hf hp hn => exact h.createClass hf
    | createSpace hd hf hn => exact h.createSpace hf hn
    | enter ho hr hv => exact h.enter (hs.has (known_class_frame s _))
    | enterClosure hk hv => exact h.enterClosure hk
    | setIvar key hv hw => exact same (size_frames_setIvar s _ _ key)
    | set hn hcode hf hv => exact same (size_frames_set s _ _ _)
    | defineConstant hcode hf hv => exact same (size_frames_defineConstant s _ _ _)
    | box | instantiate | intern | print | addProperty | defineMethod => exact same rfl

end LinksFit

theorem linksFit_initial (limit : Nat) : (State.initial limit).LinksFit := by
  intro f
  rcases Nat.lt_or_ge f 10 with hf | hf
  · obtain rfl | ⟨c, hc, rfl⟩ := eq_root_or_body hf
    · obtain ⟨top, role⟩ := frameAt_initial_root limit
      exact .of_outermost top (role ▸ rfl)
    · rw [frameAt_initial limit hc]
      exact .of_parent rfl (Nat.succ_pos c) rfl
  · rw [frameAt, Array.getElem?_eq_none (size_frames_initial limit ▸ hf)]
    exact .of_outermost rfl rfl

/-- **Interpreters get to states with links in order only.** -/
theorem Reachable.linksFit (h : s.Reachable) : s.LinksFit :=
  h.keeps linksFit_initial fun hs hl hn => hl.next hs hn

/-! ## Running methods -/

/-- What captures a frame is the run of a lambda, not of a method. -/
theorem activation?_of_captured {c : FrameId} (h : (s.frameAt f).role.captured? = some c) :
    s.activation? f = none := by
  rw [activation?]
  split
  · next hr => rw [hr] at h; cases h
  · rfl

/-- **Code in lambdas of a method runs in that method**, however deep the lambdas are nested. -/
theorem LinksFit.active?_of_mem_closureChain (h : s.LinksFit) (hg : s.activation? g = some a)
    (hf : g ∈ s.closureChain f) : s.active? f = some a := by
  induction f using Nat.strongRecOn with
  | _ f ih =>
    rw [active?, enclosing, List.findSome?_cons]
    rw [closureChain] at hf
    rcases List.mem_cons.1 hf with rfl | hf
    · rw [hg]
    · cases hc : (s.frameAt f).role.captured? with
      | none => rw [hc] at hf; exact absurd hf List.not_mem_nil
      | some c =>
        have parent := (h f).captured hc
        have older : c < f := (h f).parent parent
        simp only [hc, if_pos older] at hf
        simp only [activation?_of_captured hc, parent, if_pos older]
        exact ih c older hf

/-- A run of a method stays that run. -/
theorem Persists.activation? (hs : s.Persists s') (hg : g < s.frames.size)
    (h : s.activation? g = some a) : s'.activation? g = some a := by
  have grows := hs.frameAt hg
  rw [State.activation?] at h ⊢
  split at h
  · next name vs hr =>
    have role := grows.role
    rw [hr] at role
    generalize (s'.frameAt g).role = r at role ⊢
    cases role
    rw [grows.self, grows.cls]
    exact h
  · cases h

/-- **The frame that a call enters is a run of the method**, on behalf of the class whose body the
method was found behind. -/
theorem Tree.activation?_enter (h : s.Tree) {owner : ClassId} (ho : owner < s.classes.size)
    (receiver : Value) (name : String) (params : List String) (vs : List Value) :
    (s.enter receiver owner name params vs).2.activation?
        (s.enter receiver owner name params vs).1
      = some ⟨name, vs, owner, receiver, (s.enter receiver owner name params vs).1⟩ := by
  have cls : (s.receiverFrame receiver owner).cls = owner := (h.body ho).cls
  have self : (s.receiverFrame receiver owner).self = receiver := rfl
  rw [enter_eq]
  generalize s.receiverFrame receiver owner = x at cls self ⊢
  rw [activation?, show (State.addFrame _ _).1 = (s.addFrame x).2.frames.size from rfl,
    frameAt_addFrame_size]
  simp only [Frame.activation, cls, self]

/-! ## Calls -/

/-- Where a call runs the body of a method, and the state that the body starts in. -/
def entered (s : State) (receiver : Value) (owner : ClassId) (m : Method) (vs : List Value) :
    FrameId × State :=
  { s with depth := s.depth + 1 }.enter receiver owner m.name m.params vs

/-- The run of a method that a call starts. -/
def started (s : State) (receiver : Value) (owner : ClassId) (m : Method) (vs : List Value) :
    Activation :=
  ⟨m.name, vs, owner, receiver, (s.entered receiver owner m vs).1⟩

/-- Entering a method touches no class. -/
theorem classes_entered (receiver : Value) (owner : ClassId) (m : Method) (vs : List Value) :
    (s.entered receiver owner m vs).2.classes = s.classes := by
  rw [entered, enter_eq]
  rfl

theorem entered_lt (s : State) (receiver : Value) (owner : ClassId) (m : Method) (vs : List Value) :
    (s.entered receiver owner m vs).1 < (s.entered receiver owner m vs).2.frames.size :=
  (fresh_enter _ m.name receiver owner m.params vs).2

/-- **A call of a method written in the language runs its body where it enters it**, unless too many
are running. -/
theorem invoke_entered {m : Method} {params : List String} {body : Program}
    (hb : m.body = .user params body) (hd : s.depth < s.limit) (receiver : Value) (owner : ClassId)
    (vs : List Value) (caller : FrameId) :
    Eval.invoke receiver owner m vs caller s
      = (Eval.programIn body (s.entered receiver owner m vs).1
          (s.entered receiver owner m vs).2).bind
          fun r s => .done r { s with depth := s.depth - 1 } := by
  obtain ⟨name, _⟩ := m
  obtain rfl := hb
  rw [Eval.invoke_user, Eval.nested]
  split
  · next full => exact absurd hd (Nat.not_lt_of_le full)
  · rfl

variable {receiver : Value} {owner : ClassId} {m : Method} {vs : List Value}

/-- Entering a method is a step that an interpreter takes. -/
theorem later_entered (hr : (Item.value receiver).In s) (ho : owner < s.classes.size)
    (hv : ∀ v ∈ vs, (Item.value v).In s) : s.Later (s.entered receiver owner m vs).2 := by
  have has {i : Item} (hi : i.In s) : i.In { s with depth := s.depth + 1 } :=
    hi.of_size_le (Nat.le_refl _) (Nat.le_refl _) (Nat.le_refl _)
  have deeper : s.Later { s with depth := s.depth + 1 } := .single (.depth s _)
  refine deeper.tail (.change (.enter ?_ (has hr) fun v hm => has (hv v hm)))
  exact has (i := .value (.cls owner)) ho

/-- What lookups in states that interpreters get to rely on. -/
structure InOrder (s : State) : Prop where
  wellFormed : s.WellFormed
  tree : s.Tree
  tables : s.TablesFit
  links : s.LinksFit

theorem Reachable.inOrder (h : s.Reachable) : s.InOrder :=
  ⟨h.wellFormed, h.tree, h.tablesFit, h.linksFit⟩

namespace InOrder

variable (h : s.InOrder)
include h

theorem next (hn : s.Next s') : s'.InOrder :=
  ⟨h.wellFormed.next hn, h.tree.next h.wellFormed hn, h.tables.next hn,
    h.links.next h.wellFormed hn⟩

theorem later (hl : s.Later s') : s'.InOrder := by
  induction hl with
  | refl => exact h
  | tail _ hn ih => exact ih.next hn

/-- **From the frame that a call enters, and from lambdas nested in it, the run that the call
started is the active one**, as long as the interpreter goes on. -/
theorem active?_of_later (hr : (Item.value receiver).In s) (ho : owner < s.classes.size)
    (hv : ∀ v ∈ vs, (Item.value v).In s) (hl : (s.entered receiver owner m vs).2.Later s')
    (hf : (s.entered receiver owner m vs).1 ∈ s'.closureChain f) :
    s'.active? f = some (s.started receiver owner m vs) := by
  have start : s.Later (s.entered receiver owner m vs).2 := later_entered hr ho hv
  have deeper := (h.next (.depth s (s.depth + 1))).tree
  have runs := deeper.activation?_enter ho receiver m.name m.params vs
  have there := s.entered_lt receiver owner m vs
  exact ((h.later start).later hl).links.active?_of_mem_closureChain
    (hl.persists.activation? there runs) hf

end InOrder

end State

end OpenScript
