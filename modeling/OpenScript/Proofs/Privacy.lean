import OpenScript.Proofs.Reachable

/-!
# Proofs/Privacy — who does not capture an activation leaves its locals alone

    f ──captured──▸ c ──captured──▸ ⋯        g is not among them: no write in f is one to g

A local is written in a frame of the closure chain of the frame it is written from
(`State.localOwner_mem`).  Code comes to run in frames whose chains avoid `g` only, as long as no
lambda has a chain with `g` on it: the frames it makes refer to those it has.  This is a discipline
(`Discipline.apart`), so the locals of `g` stay as they are, whatever else is run.
-/

namespace OpenScript

/-- A run of a method or a lambda. -/
def Role.IsActivation : Role → Prop
  | .activation .. => True
  | _ => False

instance : DecidablePred Role.IsActivation
  | .activation .. => .isTrue trivial
  | .space _ | .classBody | .receiver _ => .isFalse id

theorem Role.IsSpace.not_isActivation {r : Role} (h : r.IsSpace) : ¬ r.IsActivation := by
  cases r with
  | space => exact id
  | _ => exact h.elim

/-- Only lambdas hold frames, the ones they captured. -/
theorem Payload.holds_frame {p : Payload} {f : FrameId} (h : p.Holds (.frame f)) :
    ∃ c, p = .lambda c ∧ f = c.captured := by
  cases p with
  | lambda c => exact ⟨c, rfl, h⟩
  | _ => exact h.elim

namespace State

variable {s s' : State} {f g : FrameId}

/-- No lambda in a state gets at a frame by what it captured. -/
def Uncaptured (s : State) (g : FrameId) : Prop :=
  ∀ (v : Value) (c : Closure), s.closure? v = some c → g ∉ s.closureChain c.captured

/-- Lambdas are objects, so they can all be looked at. -/
theorem uncaptured_iff : s.Uncaptured g ↔
    ∀ o < s.objects.size, ∀ c ∈ s.closure? (.object o), g ∉ s.closureChain c.captured := by
  refine ⟨fun h o _ c hc => h (.object o) c hc, fun h v c hc => ?_⟩
  cases v with
  | nil | cls _ => exact absurd hc.symm (Option.some_ne_none c)
  | object o =>
    refine h o (Nat.lt_of_not_le fun hle => ?_) c hc
    rw [closure?, payload, objectAt, Array.getElem?_eq_none hle] at hc
    exact absurd hc.symm (Option.some_ne_none c)

instance : Decidable (s.Uncaptured g) := decidable_of_iff _ uncaptured_iff.symm

/-- An item that does not get code to run in a frame with another on its closure chain. -/
def Avoids (s : State) (g : FrameId) : Item → Prop
  | .frame f => g ∉ s.closureChain f
  | _ => True

/-! ## Where locals are written -/

theorem mem_closureChain_self (s : State) (f : FrameId) : f ∈ s.closureChain f := by
  rw [closureChain]
  exact List.mem_cons_self

/-- **A local is written in a frame of the closure chain.** -/
theorem localOwner_mem (s : State) (f : FrameId) (name : String) :
    s.localOwner f name ∈ s.closureChain f := by
  rw [localOwner]
  cases hk : (s.closureChain f).find? (s.bindsLocal name) with
  | none => exact s.mem_closureChain_self f
  | some k => exact List.mem_of_find?_eq_some hk

theorem locals_modifyFrame {update : Frame → Frame} (hu : ∀ x, (update x).locals = x.locals) :
    ((s.modifyFrame f update).frameAt g).locals = (s.frameAt g).locals :=
  s.frameAt_modifyFrame_of_keeps (g := Frame.locals) fun _ => hu

theorem locals_bindLocal_of_ne (h : f ≠ g) {name : String} {v : Value} :
    ((s.bindLocal f name v).frameAt g).locals = (s.frameAt g).locals :=
  s.frameAt_modifyFrame_of_keeps (g := Frame.locals) fun same => absurd same h

theorem locals_addFrame (hg : g < s.frames.size) (x : Frame) :
    ((s.addFrame x).2.frameAt g).locals = (s.frameAt g).locals := by
  rw [s.frameAt_addFrame_of_lt hg]

theorem locals_setIvar {v w : Value} {key : String} :
    ((s.setIvar v key w).frameAt g).locals = (s.frameAt g).locals := by
  cases v <;> rfl

/-- **A write leaves the locals of frames off the closure chain alone.** -/
theorem locals_set (h : g ∉ s.closureChain f) {name : String} {v : Value} :
    ((s.set f name v).frameAt g).locals = (s.frameAt g).locals := by
  have apart : s.localOwner f name ≠ g := fun e => h (e ▸ s.localOwner_mem f name)
  unfold set
  dsimp only
  split
  · exact locals_modifyFrame fun _ => rfl
  · exact locals_bindLocal_of_ne apart
  · rfl
  · rfl
  · exact locals_setIvar
  · rfl

theorem locals_defineConstant {name : String} {v : Value} :
    ((s.defineConstant f name v).2.frameAt g).locals = (s.frameAt g).locals := by
  unfold defineConstant
  split
  · rfl
  · exact locals_modifyFrame fun _ => rfl

theorem locals_createClass {name : String} {c : ClassId} (hf : f < s.frames.size)
    (hg : g < s.frames.size) (h : g ∉ s.closureChain f) :
    ((Eval.createClass s f name c).2.frameAt g).locals = (s.frameAt g).locals := by
  let x : Frame :=
    { self := .cls s.classes.size, cls := s.classes.size, parent := some f, role := .classBody }
  let y : Class := { name, parent := some c, frame := s.frames.size }
  have chain : ((s.addFrame x).2.addClass y).2.closureChain f = s.closureChain f :=
    closureChain_of_grow (framesGrow_addFrame hf x)
  have write : ((Eval.createClass s f name c).2.frameAt g).locals
      = (((s.addFrame x).2.addClass y).2.frameAt g).locals :=
    locals_set (fun hm => h (chain ▸ hm))
  exact write.trans (locals_addFrame hg x)

theorem locals_createSpace {name : String} (hg : g < s.frames.size) :
    ((Eval.createSpace s f name).2.frameAt g).locals = (s.frameAt g).locals := by
  have register : ((Eval.createSpace s f name).2.frameAt g).locals
      = (((s.instantiate Core.object).2.newSpace f (.object s.objects.size)
          Core.object).2.frameAt g).locals := by
    refine locals_modifyFrame fun x => ?_
    split <;> rfl
  exact register.trans (locals_addFrame hg _)

/-- **A change leaves the locals of a frame alone** that is on no closure chain at hand. -/
theorem Change.locals {has : Item → Prop} (h : s.Change has s') (hg : g < s.frames.size)
    (hf : ∀ f, has (.frame f) → f < s.frames.size ∧ g ∉ s.closureChain f) :
    (s'.frameAt g).locals = (s.frameAt g).locals := by
  cases h with
  | box | instantiate | intern | print | addProperty | defineMethod => rfl
  | setIvar key hv hw => exact locals_setIvar
  | set hn hc hframe hv => exact locals_set (hf _ hframe).2
  | defineConstant hc hframe hv => exact locals_defineConstant
  | createClass hd hframe hc hn => exact locals_createClass (hf _ hframe).1 hg (hf _ hframe).2
  | createSpace hd hframe hn => exact locals_createSpace hg
  | enter ho hr hv =>
    rw [enter_eq]
    refine (locals_addFrame ?_ _).trans (locals_addFrame hg _)
    rw [addFrame, Array.size_push]
    exact Nat.lt_succ_of_lt hg
  | enterClosure hc hv =>
    rw [enterClosure_eq]
    exact locals_addFrame hg _

/-! ## The frames that code comes to run in -/

theorem Avoids.grows {i : Item} (h : s.Avoids g i) (hi : i.In s) (hs : s.Grows s') :
    s'.Avoids g i := by
  cases i with
  | frame f =>
    have chain : s'.closureChain f = s.closureChain f := closureChain_of_grow (hs.framesGrow hi)
    exact fun hm => h (chain ▸ hm)
  | value | code => trivial

/-- **What is new avoids what all that is at hand avoids**, since new frames refer to frames at
hand. -/
theorem Change.avoids {i : Item} (h : s.Change (fun i => i.In s ∧ s.Avoids g i) s')
    (fit : s'.RolesFit) (hg : g < s.frames.size) (hi : i.FreshIn s s') : s'.Avoids g i := by
  cases i with
  | value | code => trivial
  | frame f =>
    have later : s.frames.size ≤ f := hi.1
    change g ∉ s'.closureChain f
    rw [fit.closureChain_eq, List.mem_cons, not_or]
    refine ⟨Nat.ne_of_lt (Nat.lt_of_lt_of_le hg later), ?_⟩
    cases hc : (s'.frameAt f).role.captured? with
    | none => exact List.not_mem_nil
    | some c =>
      obtain ⟨isIn, avoids⟩ := h.captured_had later hc
      exact Avoids.grows avoids isIn h.grows

/-- Only activations capture. -/
theorem not_mem_closureChain (hg : (s.frameAt g).role.IsActivation)
    (hf : ¬ (s.frameAt f).role.IsActivation) : g ∉ s.closureChain f := by
  have alone : s.closureChain f = [f] := by
    rw [closureChain]
    generalize (s.frameAt f).role = role at hf
    cases role with
    | activation => exact absurd trivial hf
    | space | classBody | receiver => rfl
  rw [alone, List.mem_singleton]
  exact fun e => hf (e ▸ hg)

/-- Class bodies and namespaces capture nothing, so what is known avoids an activation that no
lambda gets at. -/
theorem WellFormed.avoids {i : Item} (h : s.WellFormed) (hg : (s.frameAt g).role.IsActivation)
    (free : s.Uncaptured g) (hi : s.Known i) : s.Avoids g i := by
  have space {f : FrameId} (hf : (s.frameAt f).role.IsSpace) : g ∉ s.closureChain f :=
    not_mem_closureChain hg hf.not_isActivation
  cases i with
  | value | code => trivial
  | frame f =>
    rcases hi with hi | hi
    · cases hi with
      | root => exact space h.inv.root
    · cases hi with
      | cls hx hf =>
        have body : (s.frameAt f).role = .classBody := h.inv.body ⟨_, _, hx, hf.symm⟩
        exact not_mem_closureChain hg (body ▸ id)
      | frame hx hf => exact space (h.inv.space ⟨_, _, hx, hf⟩)
      | @object o x _ hx hf =>
        obtain ⟨c, hc, rfl⟩ := Payload.holds_frame hf
        refine free (.object o) c ?_
        have boxed : s.payload (.object o) = .lambda c := by
          rw [payload, objectAt, hx]
          exact hc
        rw [closure?, boxed]

end State

namespace Discipline

/-- Evaluation gets at no frame with `g` on its closure chain, and `g` keeps its locals. -/
def apart (g : FrameId) (locals : Store Value) : Discipline where
  inv s := s.RolesFit ∧ g < s.frames.size ∧ (s.frameAt g).locals = locals
  has s i := i.In s ∧ s.Avoids g i
  part _ _ := ⟨trivial, trivial⟩
  change := by
    rintro s s' ⟨fit, hg, hl⟩ known change
    have plain : s.Change (·.In s) s' := change.mono fun _ => And.left
    have fit' : s'.RolesFit := plain.rolesFit fit fun i hi => (known i hi).1
    refine ⟨⟨fit', ?_, ?_⟩, fun i hi => ?_, fun i hi => ?_⟩
    · exact Nat.lt_of_lt_of_le hg change.grows.frames.size_le
    · exact (change.locals hg fun _ => id).trans hl
    · exact ⟨hi.1.grows change.grows, hi.2.grows hi.1 change.grows⟩
    · exact ⟨hi.isIn, change.avoids fit' hg hi⟩
  inv_depth d h := ⟨wellFormed.inv_depth d h.1, h.2⟩
  has_depth {s i} d h := by
    refine ⟨wellFormed.has_depth d h.1, ?_⟩
    cases i with
    | frame f =>
      have chain : ({ s with depth := d } : State).closureChain f = s.closureChain f :=
        State.closureChain_of_grow (State.framesGrow_of_eq rfl f)
      exact fun hm => h.2 (chain ▸ hm)
    | value | code => trivial

theorem fits_apart {s : State} {g : FrameId} (h : s.WellFormed)
    (hg : (s.frameAt g).role.IsActivation) (free : s.Uncaptured g) :
    (apart g (s.frameAt g).locals).Fits s := by
  have there : g < s.frames.size := by
    refine Nat.lt_of_not_le fun hle => ?_
    rw [State.frameAt, Array.getElem?_eq_none hle] at hg
    exact hg
  exact ⟨⟨h.inv, there, rfl⟩, fun {i} hi => ⟨h.has hi, h.avoids hg free hi⟩⟩

end Discipline

/-- **The locals of an activation are private unless captured**: evaluation in a frame that has it
not on its closure chain leaves them as they are, as long as no lambda there is has captured a frame
with it on the closure chain. -/
theorem State.Reachable.locals_of_ends {s s' : State} (h : s.Reachable) {f g : FrameId}
    (hg : (s.frameAt g).role.IsActivation) (hf : f < s.frames.size) (apart : g ∉ s.closureChain f)
    (free : s.Uncaptured g) {p : Program} {r : Outcome Flow}
    (he : (Eval.statements p f).Ends s r s') : (s'.frameAt g).locals = (s.frameAt g).locals := by
  have fits := Discipline.fits_apart h.wellFormed hg free
  have keeps : (Discipline.apart g (s.frameAt g).locals).Keeps (fun _ => True) s
      (Eval.statements p f) _ :=
    Discipline.keeps_statements fits (fun _ _ => ⟨trivial, trivial⟩) ⟨hf, apart⟩ fun _ _ => trivial
  have leads := (keeps.of_ends he).1
  exact leads.fits.inv.2.2

namespace State

/-- A lambda, and a call that leaves its activation behind. -/
def earlier : Program :=
  [.setLocal "keep" (.lambda ["x"] [.setLocal "y" (.getLocal "x")]),
    .defineMethod "m" ["x"] [.setLocal "y" (.getLocal "x")], .call none "m" [.int 3]]

/-- Writes to the same names, at the top, in the lambda and in another call. -/
def later : Program :=
  [.setLocal "y" (.int 4), .call (some (.getLocal "keep")) "call" [.int 5], .call none "m" [.int 6]]

/-- The activation that is left behind, frame 11, keeps its locals. -/
theorem locals_of_ends_later : ∃ s r s', s.Reachable ∧ (s.frameAt 11).role.IsActivation ∧
    Core.root < s.frames.size ∧ 11 ∉ s.closureChain Core.root ∧ s.Uncaptured 11 ∧
    (Eval.statements later Core.root).Ends s r s' ∧
    (s'.frameAt 11).locals = (s.frameAt 11).locals := by
  have start : Core.root < (State.initial 5).frames.size := by
    rw [size_frames_initial]
    decide
  let test (s : State) : Bool := decide ((s.frameAt 11).role.IsActivation ∧
    Core.root < s.frames.size ∧ 11 ∉ s.closureChain Core.root ∧ s.Uncaptured 11)
  let ends (s : State) : Bool := ((Eval.statements later Core.root).run 100 s).any fun _ => true
  obtain ⟨r₁, s, h₁, ht⟩ : ∃ r s, (Eval.programIn earlier Core.root).Ends (State.initial 5) r s ∧
      (test s && ends s) = true :=
    Eval.exists_ends_of_run 100 (fun _ s => test s && ends s) (by decide +kernel)
  obtain ⟨fit, ht⟩ := Bool.and_eq_true_iff.1 ht
  obtain ⟨hg, hf, apart, free⟩ := of_decide_eq_true fit
  obtain ⟨r, s', he, -⟩ := Eval.exists_ends_of_run 100 (fun _ _ => true) ht
  have reachable : s.Reachable := (Reachable.fresh 5).ends (.program earlier start) h₁
  exact ⟨s, r, s', reachable, hg, hf, apart, free, he,
    reachable.locals_of_ends hg hf apart free he⟩

end State

end OpenScript
