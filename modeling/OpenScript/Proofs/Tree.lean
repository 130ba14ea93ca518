import OpenScript.Proofs.Later

/-!
# Proofs/Tree — classes form a tree

    Object ◂─parent─ A ◂─parent─ B        parent < class        class ──frame──▸ its own body

Only `Object` has no parent, and every other class has one that was made before it
(`State.Tree`).  The only change that makes a class keeps to that, and none lets go of a parent
once given, so it holds wherever interpreters get.  Then climbing from a class, parent by parent,
ends at `Object` (`State.Tree.climbs_ancestors`), and later climbs go the same way.
-/

namespace OpenScript

/-- A frame for the body of a class: code in it defines methods of that class and has it as self. -/
structure Frame.IsBodyOf (x : Frame) (c : ClassId) : Prop where
  role : x.role = .classBody
  cls : x.cls = c
  self : x.self = .cls c

theorem Frame.IsBodyOf.grows {x y : Frame} {c : ClassId} (h : x.IsBodyOf c) (hg : x.Grows y) :
    y.IsBodyOf c where
  role := (h.role ▸ hg.role : Role.classBody.Grows y.role).classBody
  cls := hg.cls.trans h.cls
  self := hg.self.trans h.self

namespace State

variable {s s' : State} {c : ClassId}

/-- A class, its parent, the parent of that one and so on up to a class without a parent, whatever
the ids are. -/
inductive Climbs (s : State) : ClassId → List ClassId → Prop where
  | top {c : ClassId} (h : (s.classAt c).parent = none) : Climbs s c [c]
  | up {c p : ClassId} {cs : List ClassId} (h : (s.classAt c).parent = some p)
    (hp : Climbs s p cs) : Climbs s c (c :: cs)

/-- Parents are made before the classes that inherit from them. -/
def ParentsOlder (s : State) : Prop :=
  ∀ ⦃c p : ClassId⦄, (s.classAt c).parent = some p → p < c

/-- Parents are as in a tree and bodies are those of their classes. -/
structure Tree (s : State) : Prop where
  root {c : ClassId} (h : c < s.classes.size) : (s.classAt c).parent = none ↔ c = Core.object
  parent {c p : ClassId} (h : (s.classAt c).parent = some p) : p < c
  bodyIn {c : ClassId} (h : c < s.classes.size) : (s.classAt c).frame < s.frames.size
  body {c : ClassId} (h : c < s.classes.size) : (s.frameAt (s.classAt c).frame).IsBodyOf c

/-! ## Climbing -/

/-- A class that is not there has no parent. -/
theorem parent_of_le (h : s.classes.size ≤ c) : (s.classAt c).parent = none := by
  rw [classAt, Array.getElem?_eq_none h]
  rfl

/-- There is but one way up. -/
theorem Climbs.unique {cs ds : List ClassId} (h : s.Climbs c cs) (h' : s.Climbs c ds) :
    cs = ds := by
  induction h generalizing ds with
  | top h =>
    cases h' with
    | top => rfl
    | up hp => exact absurd (h.symm.trans hp) nofun
  | up h _ ih =>
    cases h' with
    | top hp => exact absurd (h.symm.trans hp) nofun
    | up hp hds =>
      obtain rfl := Option.some.inj (h.symm.trans hp)
      rw [ih hds]

/-- Where parents stay the same, so does the way up. -/
theorem Climbs.congr {cs : List ClassId} (h : s.Climbs c cs)
    (hp : ∀ a ∈ cs, (s'.classAt a).parent = (s.classAt a).parent) : s'.Climbs c cs := by
  induction h with
  | top h => exact .top ((hp _ List.mem_cons_self).trans h)
  | up h _ ih =>
    exact .up ((hp _ List.mem_cons_self).trans h) (ih fun a ha => hp a (List.mem_cons_of_mem _ ha))

/-- Nothing cuts the ancestors of a class short: parents are older. -/
theorem ParentsOlder.ancestors_eq (older : s.ParentsOlder) (c : ClassId) :
    s.ancestors c = c :: ((s.classAt c).parent.map s.ancestors).getD [] := by
  rw [ancestors]
  cases hp : (s.classAt c).parent with
  | none => rfl
  | some p =>
    simp only [if_pos (older hp)]
    rfl

namespace Tree

variable (h : s.Tree)
include h

theorem parentsOlder : s.ParentsOlder := fun _ _ => h.parent

theorem ancestors_eq (c : ClassId) :
    s.ancestors c = c :: ((s.classAt c).parent.map s.ancestors).getD [] :=
  h.parentsOlder.ancestors_eq c

theorem ancestors_of_none (hp : (s.classAt c).parent = none) : s.ancestors c = [c] := by
  rw [h.ancestors_eq, hp]
  rfl

theorem ancestors_of_some {p : ClassId} (hp : (s.classAt c).parent = some p) :
    s.ancestors c = c :: s.ancestors p := by
  rw [h.ancestors_eq, hp]
  rfl

/-- **The ancestors of a class are all there is on the way up from it.** -/
theorem climbs_ancestors (c : ClassId) : s.Climbs c (s.ancestors c) := by
  induction c using Nat.strongRecOn with
  | _ c ih =>
    cases hp : (s.classAt c).parent with
    | none =>
      rw [h.ancestors_of_none hp]
      exact .top hp
    | some p =>
      rw [h.ancestors_of_some hp]
      exact .up hp (ih p (h.parent hp))

/-- Ancestors go down in ids. -/
theorem le_of_mem_ancestors {a : ClassId} (ha : a ∈ s.ancestors c) : a ≤ c := by
  induction c using Nat.strongRecOn with
  | _ c ih =>
    cases hp : (s.classAt c).parent with
    | none =>
      rw [h.ancestors_of_none hp] at ha
      exact Nat.le_of_eq (List.mem_singleton.1 ha)
    | some p =>
      rw [h.ancestors_of_some hp] at ha
      have older : p < c := h.parent hp
      rcases List.mem_cons.1 ha with rfl | ha
      · exact Nat.le_refl a
      · exact Nat.le_trans (ih p older ha) (Nat.le_of_lt older)

/-- No class is met twice on the way up. -/
theorem nodup_ancestors (c : ClassId) : (s.ancestors c).Nodup := by
  induction c using Nat.strongRecOn with
  | _ c ih =>
    cases hp : (s.classAt c).parent with
    | none =>
      rw [h.ancestors_of_none hp]
      exact List.nodup_cons.2 ⟨List.not_mem_nil, List.nodup_nil⟩
    | some p =>
      rw [h.ancestors_of_some hp]
      have older : p < c := h.parent hp
      refine List.nodup_cons.2 ⟨fun hc => ?_, ih p older⟩
      exact Nat.not_le_of_lt older (h.le_of_mem_ancestors hc)

theorem length_ancestors_le (c : ClassId) : (s.ancestors c).length ≤ c + 1 := by
  induction c using Nat.strongRecOn with
  | _ c ih =>
    cases hp : (s.classAt c).parent with
    | none =>
      rw [h.ancestors_of_none hp]
      exact Nat.le_add_left 1 c
    | some p =>
      rw [h.ancestors_of_some hp]
      have older : p < c := h.parent hp
      exact Nat.succ_le_succ (Nat.le_trans (ih p older) older)

/-- **The way up ends at `Object`.** -/
theorem getLast?_ancestors (hc : c < s.classes.size) :
    (s.ancestors c).getLast? = some Core.object := by
  induction c using Nat.strongRecOn with
  | _ c ih =>
    cases hp : (s.classAt c).parent with
    | none =>
      rw [h.ancestors_of_none hp, List.getLast?_singleton, (h.root hc).1 hp]
    | some p =>
      have older : p < c := h.parent hp
      rw [h.ancestors_of_some hp, List.getLast?_cons, ih p older (Nat.lt_trans older hc)]
      rfl

/-- From a class on the way up, the way goes on as from the class itself. -/
theorem ancestors_of_append {o : ClassId} {before after : List ClassId}
    (ha : s.ancestors c = before ++ o :: after) : s.ancestors o = o :: after := by
  induction before generalizing c with
  | nil =>
    rw [h.ancestors_eq] at ha
    obtain ⟨rfl, -⟩ := List.cons.inj ha
    rw [h.ancestors_eq, ha, List.nil_append]
  | cons b before ih =>
    cases hp : (s.classAt c).parent with
    | none =>
      rw [h.ancestors_of_none hp] at ha
      exact absurd (List.cons.inj ha).2 (by simp)
    | some p =>
      rw [h.ancestors_of_some hp] at ha
      exact ih (List.cons.inj ha).2

/-! ## Steps -/

/-- A tree that grows stays one if the classes that are new have older parents and bodies of their
own. -/
theorem persists (hs : s.Persists s') (h₀ : Core.object < s.classes.size)
    (new : ∀ d, s.classes.size ≤ d → d < s'.classes.size →
      (∃ p, (s'.classAt d).parent = some p ∧ p < d) ∧ (s'.classAt d).frame < s'.frames.size
        ∧ (s'.frameAt (s'.classAt d).frame).IsBodyOf d) : s'.Tree := by
  have stays {d : ClassId} (hd : d < s.classes.size) := hs.classAt hd
  have newOr (d : ClassId) : d < s.classes.size ∨ s.classes.size ≤ d := Nat.lt_or_ge _ _
  refine ⟨fun {d} hd => ?_, fun {d p} hp => ?_, fun {d} hd => ?_, fun {d} hd => ?_⟩
  · rcases newOr d with old | fresh
    · rw [(stays old).parent]
      exact h.root old
    · obtain ⟨⟨p, hp, -⟩, -⟩ := new d fresh hd
      rw [hp]
      exact iff_of_false nofun fun e => Nat.not_lt_of_le fresh (e ▸ h₀)
  · rcases newOr d with old | fresh
    · exact h.parent ((stays old).parent ▸ hp)
    · have hd : d < s'.classes.size := Nat.lt_of_not_le fun past => by
        rw [parent_of_le past] at hp
        exact absurd hp nofun
      obtain ⟨⟨q, hq, older⟩, -⟩ := new d fresh hd
      exact Option.some.inj (hq.symm.trans hp) ▸ older
  · rcases newOr d with old | fresh
    · rw [(stays old).frame]
      exact Nat.lt_of_lt_of_le (h.bodyIn old) hs.frames.size_le
    · exact (new d fresh hd).2.1
  · rcases newOr d with old | fresh
    · rw [(stays old).frame]
      exact (h.body old).grows (hs.frameAt (h.bodyIn old))
    · exact (new d fresh hd).2.2

end Tree

/-! ## New classes -/

/-- What a class is made with. -/
theorem classAt_createClass (s : State) (f : FrameId) (name : String) (p : ClassId) :
    ({ name, parent := some p, frame := s.frames.size } : Class).Grows
      ((Eval.createClass s f name p).2.classAt s.classes.size) := by
  let x : Class := { name, parent := some p, frame := s.frames.size }
  let made : State := ((s.newClassBody f s.classes.size).2.addClass x).2
  have grows : made.Persists (Eval.createClass s f name p).2 := (grows_set made f name _).persists
  have place : made.classAt s.classes.size = x := classAt_addClass_size _ x
  have there : s.classes.size < made.classes.size := by
    simp [made, addClass, newClassBody, addFrame]
  have kept := grows.classAt there
  rw [place] at kept
  exact kept

/-- The frame that a class is made with is its body. -/
theorem frameAt_createClass (s : State) (f : FrameId) (name : String) (p : ClassId) :
    ((Eval.createClass s f name p).2.frameAt s.frames.size).IsBodyOf s.classes.size := by
  let made : State := (s.newClassBody f s.classes.size).2
  have grows : made.Persists (Eval.createClass s f name p).2 :=
    ((grows_addClass made _).trans (grows_set _ f name _)).persists
  have body : (made.frameAt s.frames.size).IsBodyOf s.classes.size := by
    rw [show made.frameAt s.frames.size = _ from frameAt_addFrame_size s _]
    exact ⟨rfl, rfl, rfl⟩
  exact body.grows (grows.frameAt (by simp [made, newClassBody, addFrame]))

/-- The frame that a class is made with lies in the frame that the class is opened in. -/
theorem parent_frameAt_createClass (s : State) (f : FrameId) (name : String) (p : ClassId) :
    ((Eval.createClass s f name p).2.frameAt s.frames.size).parent = some f := by
  let made : State := (s.newClassBody f s.classes.size).2
  have grows : made.Persists (Eval.createClass s f name p).2 :=
    ((grows_addClass made _).trans (grows_set _ f name _)).persists
  have place : (made.frameAt s.frames.size).parent = some f := by
    rw [show made.frameAt s.frames.size = _ from frameAt_addFrame_size s _]
  exact (grows.frameAt (by simp [made, newClassBody, addFrame])).parent.trans place

/-- **Only opening a class makes one.** -/
theorem Change.eq_createClass {has : Item → Prop} (h : s.Change has s')
    (more : s.classes.size < s'.classes.size) :
    ∃ f name parent body p, has (.code (.defineClass name parent body)) ∧ has (.frame f) ∧
      has (.value (.cls p)) ∧ s.get f name = .nil ∧ s' = (Eval.createClass s f name p).2 := by
  have none_new (e : s'.classes.size = s.classes.size) : False := Nat.lt_irrefl _ (e ▸ more)
  cases h with
  | createClass hd hf hp hn => exact ⟨_, _, _, _, _, hd, hf, hp, hn, rfl⟩
  | setIvar key hv hw => exact (none_new (size_classes_setIvar s _ _ key)).elim
  | set hn hcode hf hv => exact (none_new (size_classes_set s _ _ _)).elim
  | defineConstant hcode hf hv => exact (none_new (size_classes_defineConstant s _ _ _)).elim
  | addProperty => exact (none_new (by simp [Eval.addProperty])).elim
  | defineMethod => exact (none_new (s.size_classes_defineMethod _ _)).elim
  | enter ho hr hv => exact (none_new (by rw [enter_eq]; rfl)).elim
  | enterClosure hk hv => exact (none_new (by rw [enterClosure_eq]; rfl)).elim
  | box | instantiate | intern | print | createSpace => exact (none_new rfl).elim

/-- **A class that is new was just made**, with a parent that evaluation had and a body of its
own. -/
theorem Change.class_made {has : Item → Prop} (h : s.Change has s') (hc : s.classes.size ≤ c)
    (hc' : c < s'.classes.size) :
    c = s.classes.size ∧ (∃ p, has (.value (.cls p)) ∧ (s'.classAt c).parent = some p)
      ∧ (s'.classAt c).frame = s.frames.size ∧ s.frames.size < s'.frames.size
      ∧ (s'.frameAt s.frames.size).IsBodyOf c := by
  obtain ⟨f, name, -, -, p, -, -, hp, -, rfl⟩ := h.eq_createClass (Nat.lt_of_le_of_lt hc hc')
  rw [size_classes_createClass] at hc'
  obtain rfl : c = s.classes.size := Nat.le_antisymm (Nat.le_of_lt_succ hc') hc
  have made := classAt_createClass s f name p
  exact ⟨rfl, ⟨p, hp, made.parent⟩, made.frame, by simp, frameAt_createClass s f name p⟩

theorem size_classes_defineProbe (s : State) (c : ClassId) (ofClass : Bool) (name : String)
    (p : Probe) : (s.defineProbe c ofClass name p).classes.size = s.classes.size := by
  cases ofClass with
  | true => exact Array.size_modify
  | false => exact s.size_classes_defineMethod c _

/-! ## Interpreters -/

/-- **No step breaks the tree.** -/
theorem Tree.next (h : s.Tree) (hs : s.WellFormed) (hn : s.Next s') : s'.Tree := by
  have there : Core.object < s.classes.size := Nat.lt_of_le_of_lt (Nat.zero_le _) hs.inv.classes
  have unless_new (e : s'.classes.size = s.classes.size) : s'.Tree :=
    h.persists hn.persists there fun d hd hd' => absurd (e ▸ hd') (Nat.not_lt_of_le hd)
  cases hn with
  | change hc =>
    refine h.persists hc.grows.persists there fun d hd hd' => ?_
    obtain ⟨rfl, ⟨p, hp, parent⟩, frame, place, body⟩ := hc.class_made hd hd'
    have older : p < s.classes.size := hp
    rw [frame]
    exact ⟨⟨p, parent, older⟩, place, body⟩
  | depth | drain => exact unless_new rfl
  | probe c ofClass name p => exact unless_new (size_classes_defineProbe s c ofClass name p)

/-- Whether a class has `Object` for its parent, unless it is `Object`, and a body of its own. -/
def isCoreLike (s : State) (c : ClassId) : Bool :=
  let x := s.classAt c
  x.parent == (if c = Core.object then none else some Core.object) && x.frame < s.frames.size
    && (s.frameAt x.frame).cls == c && (s.frameAt x.frame).self == .cls c

/-- Classes right below `Object` are a tree. -/
theorem tree_of_isCoreLike (fit : s.RolesFit)
    (h : ∀ c < s.classes.size, s.isCoreLike c = true) : s.Tree := by
  have parts {c : ClassId} (hc : c < s.classes.size) :
      (s.classAt c).parent = (if c = Core.object then none else some Core.object)
        ∧ (s.classAt c).frame < s.frames.size ∧ (s.frameAt (s.classAt c).frame).cls = c
        ∧ (s.frameAt (s.classAt c).frame).self = .cls c := by
    have := h c hc
    simp only [isCoreLike, Bool.and_eq_true, beq_iff_eq, decide_eq_true_eq] at this
    obtain ⟨⟨⟨parent, frame⟩, cls⟩, self⟩ := this
    exact ⟨parent, frame, cls, self⟩
  refine ⟨fun {c} hc => ?_, fun {c p} hp => ?_, fun {c} hc => ?_, fun {c} hc => ?_⟩
  · rw [(parts hc).1]
    split <;> simp [*]
  · rcases Nat.lt_or_ge c s.classes.size with hc | hc
    · rw [(parts hc).1] at hp
      split at hp
      · exact absurd hp nofun
      · next other => exact Option.some.inj hp ▸ Nat.pos_of_ne_zero other
    · rw [parent_of_le hc] at hp
      exact absurd hp nofun
  · exact (parts hc).2.1
  · have role := fit.body ⟨c, _, Array.getElem?_eq_getElem hc, rfl⟩
    rw [show (s.classes[c]).frame = (s.classAt c).frame by
      rw [classAt, Array.getElem?_eq_getElem hc]; rfl] at role
    exact ⟨role, (parts hc).2.2.1, (parts hc).2.2.2⟩

/-- The core classes are a tree. -/
theorem tree_initial (limit : Nat) : (State.initial limit).Tree := by
  refine tree_of_isCoreLike (rolesFit_initial limit) ?_
  rw [size_classes_initial]
  intro c hc
  obtain ⟨entry, h⟩ := exists_entry hc
  have inside : c + 1 < 10 := Nat.succ_lt_succ hc
  rw [isCoreLike, classAt_initial limit h, coreClass, frameAt_initial limit hc, coreBody,
    size_frames_initial]
  simp only [beq_self_eq_true, Bool.and_true, decide_eq_true inside]

/-- **Interpreters get to trees of classes only.** -/
theorem Reachable.tree (h : s.Reachable) : s.Tree :=
  h.keeps tree_initial fun hs ht hn => ht.next hs hn

/-- **The ancestors of a class stay its ancestors.** -/
theorem Tree.ancestors_of_persists (h : s.Tree) (h' : s'.Tree) (hs : s.Persists s')
    (hc : c < s.classes.size) : s'.ancestors c = s.ancestors c := by
  refine (h'.climbs_ancestors c).unique ((h.climbs_ancestors c).congr fun a ha => ?_)
  exact (hs.classAt (Nat.lt_of_le_of_lt (h.le_of_mem_ancestors ha) hc)).parent

/-- **Classes form a tree that `Object` is the root of.**  `Object` alone has no parent, all other
parents are older, and the body of a class is its own.  The way up from a class is the only one; it
has no more steps than the id allows, meets no class twice, ends at `Object`, and methods are looked
for along it.  Whatever an interpreter does later, reopening the class with another parent included,
the class keeps its name, its parent and its body. -/
theorem Reachable.classes_form_tree (h : s.Reachable) {c : ClassId} (hc : c < s.classes.size) :
    ((s.classAt c).parent = none ↔ c = Core.object) ∧
    (∀ p, (s.classAt c).parent = some p → p < c) ∧
    (s.classAt c).frame < s.frames.size ∧
    (s.frameAt (s.classAt c).frame).IsBodyOf c ∧
    (∃ cs, s.Climbs c cs) ∧
    (∀ cs, s.Climbs c cs → cs.length ≤ c + 1 ∧ cs.Nodup ∧ cs.getLast? = some Core.object ∧
      ∀ name,
        s.findMethod? c name = cs.findSome? (fun a => (s.classAt a).methods[name]?.map (a, ·)) ∧
        s.findClassMethod? c name
          = cs.findSome? (fun a => (s.classAt a).classMethods[name]?.map (a, ·))) ∧
    ∀ s', s.Later s' → c < s'.classes.size ∧ (s'.classAt c).name = (s.classAt c).name ∧
      (s'.classAt c).parent = (s.classAt c).parent ∧
      (s'.classAt c).frame = (s.classAt c).frame := by
  have tree := h.tree
  have climbs := tree.climbs_ancestors c
  refine ⟨tree.root hc, fun p hp => tree.parent hp, tree.bodyIn hc, tree.body hc, ⟨_, climbs⟩,
    fun cs hcs => ?_, fun s' hl => ?_⟩
  · obtain rfl := hcs.unique climbs
    exact ⟨tree.length_ancestors_le c, tree.nodup_ancestors c, tree.getLast?_ancestors hc,
      fun name => ⟨rfl, rfl⟩⟩
  · have persists := hl.persists
    have grows := persists.classAt hc
    exact ⟨Nat.lt_of_lt_of_le hc persists.classes.size_le, grows.name, grows.parent, grows.frame⟩

/-- A chain of three classes below `Object`. -/
def threeClasses : Program :=
  [.defineClass "A" none [], .defineClass "B" (some "A") [], .defineClass "C" (some "B") []]

/-- Reopens the lowest class of the chain as if it were right below the highest. -/
def reopening : Program := [.defineClass "C" (some "A") []]

/-- The lowest class of a chain, class 11, before and after it is reopened with another parent. -/
theorem classes_form_tree_reopened : ∃ s s' r, s.Reachable ∧ 11 < s.classes.size ∧
    (Eval.programIn reopening Core.root).Ends s r s' ∧ r.toBool = true ∧
    s.Climbs 11 [11, 10, 9, 0] ∧ [11, 10, 9, 0].getLast? = some Core.object ∧
    (s'.classAt 11).parent = (s.classAt 11).parent := by
  have start : Core.root < (State.initial 5).frames.size := by
    rw [size_frames_initial]
    decide
  let test (s : State) : Bool := 11 < s.classes.size && s.ancestors 11 == [11, 10, 9, 0]
    && Core.root < s.frames.size
  let ends (s : State) : Bool :=
    ((Eval.programIn reopening Core.root).run 100 s).any fun p => p.1.toBool
  obtain ⟨r₁, s, h₁, ht⟩ : ∃ r s, (Eval.programIn threeClasses Core.root).Ends (State.initial 5) r s
      ∧ (test s && ends s) = true :=
    Eval.exists_ends_of_run 100 (fun _ s => test s && ends s) (by decide +kernel)
  simp only [test, Bool.and_eq_true, decide_eq_true_eq, beq_iff_eq] at ht
  obtain ⟨⟨⟨size, way⟩, root⟩, ends⟩ := ht
  obtain ⟨r, s', he, ok⟩ := Eval.exists_ends_of_run 100 (fun r _ => r.toBool) ends
  have reachable : s.Reachable := (Reachable.fresh 5).ends (.program threeClasses start) h₁
  have later : s.Later s' := later_of_ends reachable.wellFormed (.program reopening root) he
  obtain ⟨-, -, -, -, -, climbs, stays⟩ := reachable.classes_form_tree size
  have climbs₁₁ : s.Climbs 11 [11, 10, 9, 0] := way ▸ reachable.tree.climbs_ancestors 11
  exact ⟨s, s', r, reachable, size, he, ok, climbs₁₁, (climbs _ climbs₁₁).2.2.1,
    (stays s' later).2.2.1⟩

end State

end OpenScript
