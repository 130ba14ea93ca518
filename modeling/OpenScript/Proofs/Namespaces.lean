import OpenScript.Proofs.Activations

/-!
# Proofs/Namespaces — every frame has a namespace, and what it registers stays

    frame ──parent──▸ ⋯ ──parent──▸ receiver ──space──▸ namespace     registered there: N ↦ g

A namespace governs itself, a receiver's frame names the one that governs it, and all other frames
lie in a frame (`State.SpacesFit`).  So the way out of every frame ends, and it ends at a namespace
(`State.SpacesFit.governed`).  A namespace that is opened is registered there, and stays so: from
every frame with the same governing namespace its name stands for it later on
(`State.Persists.registered?`).
-/

namespace OpenScript

open Discipline

theorem Role.IsSpace.space? {r : Role} (h : r.IsSpace) : r.space? = none := by
  cases r with
  | space => rfl
  | _ => exact h.elim

namespace State

variable {s s' s₁ : State} {f g p : FrameId} {name : String}

/-! ## Governing namespaces -/

/-- The way out of a frame to the namespace that governs it, wherever it leads: a namespace is its
own, a receiver names one, and any other frame has that of its parent if it has one. -/
inductive GovernedBy (s : State) : FrameId → FrameId → Prop where
  | space {f : FrameId} (h : (s.frameAt f).role.IsSpace) : GovernedBy s f f
  | receiver {f g : FrameId} (h : (s.frameAt f).role.space? = some g) : GovernedBy s f g
  | inner {f g p : FrameId} (hs : ¬ (s.frameAt f).role.IsSpace)
    (hr : (s.frameAt f).role.space? = none) (h : (s.frameAt f).parent = some p)
    (hp : GovernedBy s p g) : GovernedBy s f g
  | top {f : FrameId} (hs : ¬ (s.frameAt f).role.IsSpace)
    (hr : (s.frameAt f).role.space? = none) (h : (s.frameAt f).parent = none) : GovernedBy s f f

/-- There is but one way out. -/
theorem GovernedBy.unique {g' : FrameId} (h : s.GovernedBy f g) (h' : s.GovernedBy f g') :
    g' = g := by
  induction h with
  | space hs =>
    cases h' with
    | space => rfl
    | receiver hr => cases hs.space?.symm.trans hr
    | inner ns => exact absurd hs ns
    | top ns => exact absurd hs ns
  | receiver hr =>
    cases h' with
    | space hs => cases hs.space?.symm.trans hr
    | receiver hr' => exact Option.some.inj (hr'.symm.trans hr)
    | inner _ nr => cases nr.symm.trans hr
    | top _ nr => cases nr.symm.trans hr
  | inner ns nr hp _ ih =>
    cases h' with
    | space hs => exact absurd hs ns
    | receiver hr => cases nr.symm.trans hr
    | inner _ _ hp' h' => exact ih (Option.some.inj (hp.symm.trans hp') ▸ h')
    | top _ _ hp' => cases hp.symm.trans hp'
  | top ns nr hp =>
    cases h' with
    | space hs => exact absurd hs ns
    | receiver hr => cases nr.symm.trans hr
    | inner _ _ hp' => cases hp.symm.trans hp'
    | top => rfl

theorem governing_of_isSpace (h : (s.frameAt f).role.IsSpace) : s.governing f = f := by
  rw [governing]
  cases hr : (s.frameAt f).role with
  | space => rfl
  | _ => rw [hr] at h; exact h.elim

theorem governing_of_space? (h : (s.frameAt f).role.space? = some g) : s.governing f = g := by
  rw [governing]
  cases hr : (s.frameAt f).role with
  | receiver => rw [hr] at h; exact Option.some.inj h
  | _ => rw [hr] at h; cases h

/-- **Nothing cuts the way out short**: parents are older. -/
theorem LinksFit.governing_of_parent (h : s.LinksFit) (hs : ¬ (s.frameAt f).role.IsSpace)
    (hr : (s.frameAt f).role.space? = none) (hp : (s.frameAt f).parent = some p) :
    s.governing f = s.governing p := by
  have older : p < f := (h f).parent hp
  rw [governing]
  cases role : (s.frameAt f).role with
  | space => rw [role] at hs; exact absurd trivial hs
  | receiver => rw [role] at hr; cases hr
  | classBody | activation => simp only [hp, if_pos older]

/-! ## Frames that are governed -/

/-- A frame from which a namespace is found: it is one, it names an older one, or it lies in some
frame. -/
structure FrameGoverned (s : State) (f : FrameId) (x : Frame) : Prop where
  receiver {g : FrameId} (h : x.role.space? = some g) : g < f ∧ (s.frameAt g).role.IsSpace
  outermost (h : x.parent = none) : x.role.IsSpace

/-- A frame that is not there reads as a namespace. -/
theorem frameGoverned_of_le (h : s.frames.size ≤ f) : s.FrameGoverned f (s.frameAt f) := by
  rw [frameAt, Array.getElem?_eq_none h]
  refine ⟨fun hr => ?_, fun _ => trivial⟩
  cases hr

/-- A namespace is found from every frame. -/
structure SpacesFit (s : State) : Prop where
  links : s.LinksFit
  frame (f : FrameId) : s.FrameGoverned f (s.frameAt f)

namespace SpacesFit

variable (h : s.SpacesFit)
include h

/-- **The way out of a frame ends at a namespace**, an older one or the frame itself. -/
theorem governed (f : FrameId) : s.GovernedBy f (s.governing f) ∧ s.governing f ≤ f ∧
    (s.frameAt (s.governing f)).role.IsSpace := by
  induction f using Nat.strongRecOn with
  | _ f ih =>
    by_cases hs : (s.frameAt f).role.IsSpace
    · rw [governing_of_isSpace hs]
      exact ⟨.space hs, Nat.le_refl f, hs⟩
    cases hr : (s.frameAt f).role.space? with
    | some g =>
      obtain ⟨older, space⟩ := (h.frame f).receiver hr
      rw [governing_of_space? hr]
      exact ⟨.receiver hr, Nat.le_of_lt older, space⟩
    | none =>
      cases hp : (s.frameAt f).parent with
      | none => exact absurd ((h.frame f).outermost hp) hs
      | some p =>
        have older : p < f := (h.links f).parent hp
        obtain ⟨way, below, space⟩ := ih p older
        rw [h.links.governing_of_parent hs hr hp]
        exact ⟨.inner hs hr hp way, Nat.le_trans below (Nat.le_of_lt older), space⟩

end SpacesFit

/-! ## Steps -/

/-- The namespace that `createSpace` adds lies in the frame that it is opened in. -/
theorem parent_frameAt_createSpace (free : s.registered? g name = none) :
    ((Eval.createSpace s g name).2.frameAt s.frames.size).parent = some g := by
  let made : State :=
    ((s.instantiate Core.object).2.newSpace g (.object s.objects.size) Core.object).2
  have place : (made.frameAt s.frames.size).parent = some g := by
    rw [show made.frameAt s.frames.size = _ from frameAt_addFrame_size _ _]
  have there : s.frames.size < made.frames.size := by
    simp [made, newSpace, addFrame, instantiate, box, addObject]
  exact ((s.grows_created free).frameAt there).parent.trans place

/-- **A frame that is new lies in another**, and if it is that of a receiver it searches what
governs the body of a class. -/
theorem Change.frame_made {has : Item → Prop} (h : s.Change has s') (hf : s.frames.size ≤ f)
    (hf' : f < s'.frames.size) :
    (s'.frameAt f).parent ≠ none ∧ ∀ g, (s'.frameAt f).role.space? = some g →
      ∃ c, g = s.governing (s.classAt c).frame := by
  have none_new (e : s'.frames.size = s.frames.size) : False :=
    Nat.lt_irrefl f (Nat.lt_of_lt_of_le hf' (e ▸ hf))
  have only_new (e : s'.frames.size = s.frames.size + 1) : f = s.frames.size :=
    Nat.le_antisymm (Nat.le_of_lt_succ (Nat.lt_of_lt_of_eq hf' e)) hf
  cases h with
  | createClass hd hg hp hn =>
    obtain rfl := only_new (size_frames_createClass s _ _ _)
    rw [parent_frameAt_createClass, role_createClass]
    exact ⟨Option.some_ne_none _, fun _ hg => by cases hg⟩
  | createSpace hd hg hn =>
    obtain rfl := only_new (size_frames_createSpace s _ _)
    rw [parent_frameAt_createSpace hn, (role_createSpace hn).space?]
    exact ⟨Option.some_ne_none _, fun _ hg => by cases hg⟩
  | enter ho hr hv =>
    rcases frameAt_enter hf hf' with e | e
    · rw [e]
      exact ⟨Option.some_ne_none _, fun g hg => ⟨_, (Option.some.inj hg).symm⟩⟩
    · rw [e]
      exact ⟨Option.some_ne_none _, fun _ hg => by cases hg⟩
  | enterClosure hc hv =>
    rw [enterClosure_eq] at hf' only_new ⊢
    obtain rfl := only_new (Array.size_push _)
    rw [frameAt_addFrame_size]
    exact ⟨Option.some_ne_none _, fun _ hg => by cases hg⟩
  | setIvar key hv hw => exact (none_new (size_frames_setIvar s _ _ key)).elim
  | set hn hcode hg hv => exact (none_new (size_frames_set s _ _ _)).elim
  | defineConstant hcode hg hv => exact (none_new (size_frames_defineConstant s _ _ _)).elim
  | box | instantiate | intern | print | addProperty | defineMethod => exact (none_new rfl).elim

/-- Frames that grow go on to fit if those that are new do. -/
theorem SpacesFit.persists (h : s.SpacesFit) (hs : s.Persists s') (links : s'.LinksFit)
    (new : ∀ f, s.frames.size ≤ f → f < s'.frames.size → s'.FrameGoverned f (s'.frameAt f)) :
    s'.SpacesFit := by
  refine ⟨links, fun f => ?_⟩
  rcases Nat.lt_or_ge f s.frames.size with old | fresh
  · have grows := hs.frameAt old
    refine ⟨fun hr => ?_, fun hp => ?_⟩
    · rw [grows.role.space?] at hr
      obtain ⟨older, space⟩ := (h.frame f).receiver hr
      exact ⟨older, (hs.frameAt (Nat.lt_trans older old)).role.isSpace space⟩
    · exact grows.role.isSpace ((h.frame f).outermost (grows.parent ▸ hp))
  · rcases Nat.lt_or_ge f s'.frames.size with there | past
    · exact new f fresh there
    · exact frameGoverned_of_le past

/-- **No step leaves a frame without a namespace.** -/
theorem SpacesFit.next (h : s.SpacesFit) (hs : s.WellFormed) (hn : s.Next s') : s'.SpacesFit := by
  have unless_new (e : s'.frames.size = s.frames.size) : s'.SpacesFit :=
    h.persists hn.persists (h.links.next hs hn) fun _ hf hf' =>
      absurd (e ▸ hf') (Nat.not_lt_of_le hf)
  cases hn with
  | change hc =>
    have grows := hc.grows.persists
    refine h.persists grows (h.links.next hs (.change hc)) fun f hf hf' => ?_
    obtain ⟨inner, receiver⟩ := hc.frame_made hf hf'
    refine ⟨fun hr => ?_, fun hp => absurd hp inner⟩
    obtain ⟨c, rfl⟩ := receiver _ hr
    obtain ⟨-, below, space⟩ := h.governed (s.classAt c).frame
    have bodyIn : (s.classAt c).frame < s.frames.size := hs.has (known_class_frame s c)
    have there := Nat.lt_of_le_of_lt below bodyIn
    exact ⟨Nat.lt_of_lt_of_le there hf, (grows.frameAt there).role.isSpace space⟩
  | depth | drain => exact unless_new rfl
  | probe c ofClass name p => exact unless_new (by cases ofClass <;> rfl)

theorem spacesFit_initial (limit : Nat) : (State.initial limit).SpacesFit := by
  refine ⟨linksFit_initial limit, fun f => ?_⟩
  rcases Nat.lt_or_ge f 10 with hf | hf
  · obtain rfl | ⟨c, hc, rfl⟩ := eq_root_or_body hf
    · have role := (frameAt_initial_root limit).2
      refine ⟨fun hr => ?_, fun _ => ?_⟩
      · rw [role] at hr
        cases hr
      · rw [role]
        trivial
    · rw [frameAt_initial limit hc]
      exact ⟨nofun, nofun⟩
  · exact frameGoverned_of_le (size_frames_initial limit ▸ hf)

/-- **Interpreters get to states only where every frame has a namespace.** -/
theorem Reachable.spacesFit (h : s.Reachable) : s.SpacesFit :=
  h.keeps spacesFit_initial fun hs hf hn => hf.next hs hn

theorem SpacesFit.later (h : s.SpacesFit) (hs : s.WellFormed) (hl : s.Later s') : s'.SpacesFit :=
  hl.keeps hs h fun hs hf hn => hf.next hs hn

/-! ## Registrations -/

/-- Frames that the same namespace governs see the same registrations. -/
theorem registered?_congr (h : s.governing f = s.governing g) :
    s.registered? f name = s.registered? g name := by
  rw [registered?, registered?, h]

/-- What is registered is found. -/
theorem findNamespace?_of_registered? (h : s.registered? f name = some g) :
    s.findNamespace? f name = some g := by
  rw [findNamespace?, h]

/-- **A registration is never lost.** -/
theorem Persists.registered? (hs : s.Persists s') (fit : s.SpacesFit) (hf : f < s.frames.size)
    (h : s.registered? f name = some g) : s'.registered? f name = some g := by
  have there : s.governing f < s.frames.size := Nat.lt_of_le_of_lt (fit.governed f).2.1 hf
  have role := (hs.frameAt there).role
  rw [State.registered?, registeredIn] at h ⊢
  rw [governing_of_grow (hs.framesGrow hf)]
  generalize (s.frameAt (s.governing f)).role = r, (s'.frameAt (s.governing f)).role = r' at *
  cases role with
  | refl => exact h
  | space kept => exact kept name g h

/-- **Registering is not in vain** where a namespace governs. -/
theorem registered?_register (free : s.registered? f name = none) (hf : f < s.frames.size)
    (there : s.governing f < s.frames.size) (space : (s.frameAt (s.governing f)).role.IsSpace) :
    (s.register f name g).registered? f name = some g := by
  have grows : s.Grows (s.register f name g) := s.grows_register free
  rw [registered?, governing_of_grow (grows.framesGrow hf), registeredIn, register,
    s.frameAt_modifyFrame there, if_pos rfl]
  cases hr : (s.frameAt (s.governing f)).role with
  | space registered =>
    exact Std.TreeMap.getElem?_insert_self
  | _ => rw [hr] at space; exact space.elim

/-- **A namespace that is made is registered.** -/
theorem SpacesFit.registered?_createSpace (h : s.SpacesFit) (hf : f < s.frames.size)
    (free : s.registered? f name = none) :
    (Eval.createSpace s f name).2.registered? f name = some s.frames.size := by
  let owned : State := (s.instantiate Core.object).2
  let made : State := (owned.newSpace f (.object s.objects.size) Core.object).2
  have added : s.frames.size < made.frames.size := by
    simp [made, owned, newSpace, addFrame, instantiate, box, addObject]
  obtain ⟨-, below, space⟩ := h.governed f
  have old := Nat.lt_of_le_of_lt below hf
  have grows : s.Grows made := (s.grows_addObject _).trans (grows_addFrame _ _)
  have same : made.governing f = s.governing f := governing_of_grow (grows.framesGrow hf)
  have unbound : made.registered? f name = none := s.registered?_newSpace free
  have there : made.governing f < made.frames.size := same ▸ Nat.lt_trans old added
  have governs : (made.frameAt (made.governing f)).role.IsSpace := by
    rw [same]
    exact (grows.frameAt old).role.isSpace space
  exact registered?_register unbound (Nat.lt_trans hf added) there governs

end State

/-! ## Opening namespaces -/

namespace Eval

variable {s s' s₁ : State} {f g : FrameId} {name : String}

theorem openSpace_of_registered? (h : s.registered? f name = some g) :
    openSpace f name s = .done (.ok g) s := by
  unfold openSpace
  exact (bind_of_done (read_of_eq h)).trans rfl

theorem openSpace_of_free (h : s.registered? f name = none) :
    openSpace f name s = .done (.ok s.frames.size) (createSpace s f name).2 := by
  unfold openSpace
  exact (bind_of_done (read_of_eq h)).trans rfl

/-- In a frame and a state, namespace nodes of a name run their bodies in another frame, from
another state on, and end with the value of the body. -/
def EntersSpace (f : FrameId) (name : String) (s : State) (g : FrameId) (s₁ : State) : Prop :=
  ∀ (body : Program) (r : Outcome Flow) (s' : State),
    (node (.inNamespace name body) f).Ends s r s' ↔
      ∃ r₀, (statements body g).Ends s₁ r₀ s' ∧ r = r₀.map fun flow => .normal flow.value

/-- **A namespace node runs its body in the namespace it opens.** -/
theorem entersSpace_of_openSpace (h : openSpace f name s = .done (.ok g) s₁) :
    EntersSpace f name s g s₁ := by
  intro body r s'
  let opened : Eval Value := do return (← statements body g).value
  have goes : (Task.node (.inNamespace name body) f).perform s = normal opened s₁ := by
    change ((openSpace f name s).bind _).bind _ = _
    rw [h]
    rfl
  rw [node, ends_ask_iff_perform, ends_congr goes]
  exact ends_normal_map_iff

/-- Reading from a namespace that is found reads there. -/
theorem ends_getFromNamespace_iff {x : String} {r : Outcome Flow}
    (h : s.findNamespace? f name = some g) :
    (node (.getFromNamespace name x) f).Ends s r s' ↔ r = .ok (.normal (s.get g x)) ∧ s' = s := by
  rw [node, ends_ask_iff_perform]
  simp only [Task.perform, performNode, normal]
  refine ends_of_done ((bind_of_done (a := s.get g x) ?_).trans rfl)
  exact (bind_of_done (read_of_eq h)).trans rfl

end Eval

namespace State

variable {s s' s₁ : State} {f g : FrameId} {name : String}

/-- **Opening a namespace never fails**, and what is opened is registered. -/
theorem SpacesFit.exists_openSpace (h : s.SpacesFit) (hs : s.WellFormed) (hf : f < s.frames.size)
    (name : String) : ∃ g s₁, Eval.openSpace f name s = .done (.ok g) s₁ ∧ s.Later s₁ ∧
      g < s₁.frames.size ∧ s₁.registered? f name = some g := by
  cases hr : s.registered? f name with
  | some g =>
    have there : g < s.frames.size := hs.has (known_registered? hr)
    exact ⟨g, s, Eval.openSpace_of_registered? hr, .refl, there, hr⟩
  | none =>
    have code : (Item.code (.inNamespace name [])).In s := trivial
    have step : s.Next (Eval.createSpace s f name).2 := .change (.createSpace code hf hr)
    have there : s.frames.size < (Eval.createSpace s f name).2.frames.size := by simp
    exact ⟨_, _, Eval.openSpace_of_free hr, .single step, there, h.registered?_createSpace hf hr⟩

/-- What statements pass through and end in is later, well or not. -/
theorem WellFormed.later_of_statements (h : s.WellFormed) {body : Program}
    (hg : g < s.frames.size) : (∀ t s', (Eval.statements body g).Comes s t s' → s.Later s') ∧
      ∀ r s', (Eval.statements body g).Ends s r s' → s.Later s' := by
  have keeps : (Discipline.later s).Keeps (fun _ => True) s (Eval.statements body g) _ :=
    keeps_statements (fits_later h) (fun _ _ => trivial) hg fun _ _ => trivial
  exact ⟨fun _ _ => later_of_keeps_comes keeps, fun _ _ => later_of_keeps_ends keeps⟩

/-- **Every frame has a namespace, and what is registered there is never lost.**  The way out of a
frame ends, there is but one, and it ends at a namespace.  A namespace that is opened in `c` is a
frame `g`, in which the body runs.  In every state later on, also while the body runs and after it
has failed, every frame with the governing namespace of `c` finds `g` under the name, whether or not
it looks further out; namespace nodes of the name run their bodies in `g` there, and names of the
namespace are read in `g`. -/
theorem Reachable.namespaces_stay (h : s.Reachable) :
    (∀ f < s.frames.size, s.GovernedBy f (s.governing f) ∧
      (∀ g, s.GovernedBy f g → g = s.governing f) ∧ s.governing f < s.frames.size ∧
      (s.frameAt (s.governing f)).role.IsSpace) ∧
    ∀ c < s.frames.size, ∀ name, ∃ g s₁, (Eval.openSpace c name).Ends s (.ok g) s₁ ∧
      Eval.EntersSpace c name s g s₁ ∧
      (∀ body, (∀ t s', (Eval.statements body g).Comes s₁ t s' → s₁.Later s') ∧
        ∀ r s', (Eval.statements body g).Ends s₁ r s' → s₁.Later s') ∧
      ∀ s₂, s₁.Later s₂ → ∀ f, s₂.governing f = s₂.governing c →
        s₂.registered? f name = some g ∧ s₂.findNamespace? f name = some g ∧
        Eval.EntersSpace f name s₂ g s₂ ∧
        ∀ x r s', (Eval.node (.getFromNamespace name x) f).Ends s₂ r s' ↔
          r = .ok (.normal (s₂.get g x)) ∧ s' = s₂ := by
  have fit := h.spacesFit
  refine ⟨fun f hf => ?_, fun c hc name => ?_⟩
  · obtain ⟨way, below, space⟩ := fit.governed f
    exact ⟨way, fun g => way.unique, Nat.lt_of_le_of_lt below hf, space⟩
  · obtain ⟨g, s₁, opens, later₁, there, bound⟩ := fit.exists_openSpace h.wellFormed hc name
    have wellFormed₁ := h.wellFormed.later later₁
    have fit₁ := fit.later h.wellFormed later₁
    have hc₁ : c < s₁.frames.size := Nat.lt_of_lt_of_le hc later₁.persists.frames.size_le
    refine ⟨g, s₁, (Eval.ends_of_done opens).2 ⟨rfl, rfl⟩, Eval.entersSpace_of_openSpace opens,
      fun body => wellFormed₁.later_of_statements there, fun s₂ later₂ f same => ?_⟩
    have bound₂ : s₂.registered? f name = some g :=
      (registered?_congr same).trans (later₂.persists.registered? fit₁ hc₁ bound)
    have found := findNamespace?_of_registered? bound₂
    exact ⟨bound₂, found, Eval.entersSpace_of_openSpace (Eval.openSpace_of_registered? bound₂),
      fun x r s' => Eval.ends_getFromNamespace_iff found⟩

/-- Binds a constant and fails. -/
def unfinished : Program := [.setConstant "X" (.int 1), .call none "missing" []]

/-- A namespace whose body fails halfway is registered, and the body of a core class sees what was
bound in it. -/
theorem namespaces_stay_unfinished : ∃ e s g v,
    (Eval.node (.inNamespace "N" unfinished) Core.root).Ends (State.initial 5) (.error e) s ∧
    s.governing 1 = s.governing Core.root ∧ s.registered? 1 "N" = some g ∧
    (Eval.node (.getFromNamespace "N" "X") 1).Ends s (.ok (.normal v)) s ∧ v = .object 4 := by
  let sees (s : State) : Bool := s.governing 1 == s.governing Core.root
    && (s.registered? 1 "N").any fun g => s.get g "X" == .object 4
  obtain ⟨r, s, ends, hr⟩ : ∃ r s, (Eval.node (.inNamespace "N" unfinished) Core.root).Ends
      (State.initial 5) r s ∧ (!r.toBool && sees s) = true :=
    Eval.exists_ends_of_run 100 (fun r s => !r.toBool && sees s) (by decide +kernel)
  obtain ⟨fails, seen⟩ := Bool.and_eq_true_iff.1 hr
  obtain ⟨same, value⟩ := Bool.and_eq_true_iff.1 seen
  cases r with
  | ok flow => cases fails
  | error e =>
  obtain ⟨-, spaces⟩ := (Reachable.fresh 5).namespaces_stay
  obtain ⟨g, s₁, -, enters, runs, stays⟩ := spaces Core.root (root_lt_size_initial 5) "N"
  obtain ⟨r₀, body, -⟩ := (enters _ _ _).1 ends
  obtain ⟨bound, -, -, reads⟩ := stays s ((runs unfinished).2 _ _ body) 1 (eq_of_beq same)
  rw [bound] at value
  exact ⟨e, s, g, _, ends, eq_of_beq same, bound, (reads "X" _ _).2 ⟨rfl, rfl⟩, eq_of_beq value⟩

end State

end OpenScript
