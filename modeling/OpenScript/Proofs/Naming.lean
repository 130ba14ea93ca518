import OpenScript.Proofs.Constants
import OpenScript.Proofs.Extension
import OpenScript.Proofs.Sessions

/-!
# Proofs/Naming — a class stays the class of its name

    f: K ↦ c ──reopen, assign, fail, go on──▸ f: K ↦ c      c is the only class opened as K in f

A class is bound to its name in the frame it is opened in, as a constant that is not `nil`.  Where
names have the right shape no step changes such a constant, so every class is what its name stands
for in that frame (`State.Named`), wherever programs get.  Opening the name once more then finds
the class, whatever the parent, and leaves the state as it is (`State.Named.defineClass_eq`).
-/

namespace OpenScript

open Discipline

/-! ## Opening classes -/

/-- What a name and the name of a parent stand for allows no class to be opened: the name stands for
something else, or for nothing and the parent for no class. -/
inductive State.RefusesClass (s : State) (f : FrameId) (name : String) :
    (parent : Option String) → RuntimeError → Prop where
  | notClass {parent : Option String} (there : s.get f name ≠ .nil)
    (other : ∀ c, s.get f name ≠ .cls c) :
    RefusesClass s f name parent (.type "class" (s.classNameOf (s.get f name)))
  | noParent {p : String} (free : s.get f name = .nil) (other : ∀ c, s.get f p ≠ .cls c) :
    RefusesClass s f name (some p) (.undefinedClass p)

namespace Eval

variable {s s' s₁ : State} {f : FrameId} {name : String} {parent : Option String} {c : ClassId}

/-- The parent of a new class is there already, or its name stands for no class. -/
theorem parentClass_eq (s : State) (f : FrameId) (parent : Option String) :
    (∃ p, s.Known (.value (.cls p)) ∧ parentClass f parent s = .done (.ok p) s) ∨
    ∃ name, parent = some name ∧ ∀ c, s.get f name ≠ .cls c := by
  cases parent with
  | none => exact .inl ⟨Core.object, .inl (.cls (Nat.zero_le _)), rfl⟩
  | some name =>
    have known := State.known_get s f name
    unfold parentClass
    cases hv : s.get f name with
    | cls p => exact .inl ⟨p, hv ▸ known, (bind_of_done (read_of_eq hv)).trans rfl⟩
    | nil | object => exact .inr ⟨name, rfl, fun c => by rw [hv]; nofun⟩

theorem parentClass_of_not_cls (h : ∀ c, s.get f name ≠ .cls c) :
    parentClass f (some name) s = .done (.error (.undefinedClass name)) s := by
  unfold parentClass
  cases hv : s.get f name with
  | cls c => exact absurd hv (h c)
  | nil | object => exact (bind_of_done (read_of_eq hv)).trans rfl

/-- Opening a name that stands for a class gives that class. -/
theorem defineClass_of_cls (h : s.get f name = .cls c) (parent : Option String) :
    defineClass f name parent s = .done (.ok c) s := by
  unfold defineClass
  exact (bind_of_done (read_of_eq h)).trans rfl

/-- Opening a class that is refused fails and changes nothing. -/
theorem defineClass_of_refuses {e : RuntimeError} (h : s.RefusesClass f name parent e) :
    defineClass f name parent s = .done (.error e) s := by
  unfold defineClass
  cases h with
  | notClass there other =>
    cases hv : s.get f name with
    | nil => exact absurd hv there
    | cls c => exact absurd hv (other c)
    | object o => exact (bind_of_done (read_of_eq hv)).trans rfl
  | noParent free other =>
    exact (bind_of_done (read_of_eq free)).trans (bind_of_error (parentClass_of_not_cls other))

/-- **Opening a name gives the class it stands for, makes one if that is `nil`, or is refused.** -/
theorem defineClass_eq (s : State) (f : FrameId) (name : String) (parent : Option String) :
    (∃ c, s.get f name = .cls c ∧ defineClass f name parent s = .done (.ok c) s) ∨
    (∃ p, s.Known (.value (.cls p)) ∧ s.get f name = .nil ∧
      defineClass f name parent s = .done (.ok s.classes.size) (createClass s f name p).2) ∨
    ∃ e, s.RefusesClass f name parent e ∧ defineClass f name parent s = .done (.error e) s := by
  have refused {e : RuntimeError} (h : s.RefusesClass f name parent e) :
      ∃ e, s.RefusesClass f name parent e ∧ defineClass f name parent s = .done (.error e) s :=
    ⟨e, h, defineClass_of_refuses h⟩
  cases hv : s.get f name with
  | cls c => exact .inl ⟨c, rfl, defineClass_of_cls hv parent⟩
  | nil =>
    rcases parentClass_eq s f parent with ⟨p, known, found⟩ | ⟨q, rfl, other⟩
    · refine .inr (.inl ⟨p, known, rfl, ?_⟩)
      unfold defineClass
      exact (bind_of_done (read_of_eq hv)).trans (bind_of_done found)
    · exact .inr (.inr (refused (.noParent hv other)))
  | object o =>
    exact .inr (.inr (refused (.notClass (by rw [hv]; nofun) fun c => by rw [hv]; nofun)))

/-- Opening a name asks for nothing. -/
theorem done_of_ends_defineClass {r : Outcome ClassId}
    (h : (defineClass f name parent).Ends s r s₁) :
    defineClass f name parent s = .done r s₁ := by
  rcases defineClass_eq s f name parent with ⟨_, _, e⟩ | ⟨_, _, _, e⟩ | ⟨_, _, e⟩
  all_goals
    obtain ⟨rfl, rfl⟩ := (ends_of_done e).1 h
    exact e

theorem perform_class_of_opened (h : defineClass f name parent s = .done (.ok c) s₁)
    (body : Program) :
    (Task.node (.defineClass name parent body) f).perform s
      = normal (do let _ ← statements body (s₁.classAt c).frame; return .cls c) s₁ := by
  change ((defineClass f name parent s).bind _).bind _ = _
  rw [h]
  rfl

theorem perform_class_of_refuses {e : RuntimeError} (h : s.RefusesClass f name parent e)
    (body : Program) :
    (Task.node (.defineClass name parent body) f).perform s = .done (.error e) s := by
  change ((defineClass f name parent s).bind _).bind _ = _
  rw [defineClass_of_refuses h]
  rfl

/-- **A class node runs its body in the body of the class it opens**, and ends with that class. -/
theorem ends_class_iff {body : Program} {r : Outcome Flow}
    (h : defineClass f name parent s = .done (.ok c) s₁) :
    (node (.defineClass name parent body) f).Ends s r s' ↔
      ∃ r₀, (statements body (s₁.classAt c).frame).Ends s₁ r₀ s' ∧
        r = r₀.map fun _ => .normal (.cls c) := by
  rw [node, ends_ask_iff_perform, ends_congr (perform_class_of_opened h body)]
  exact ends_normal_map_iff

end Eval

namespace State

variable {s s' s₁ : State} {f g : FrameId} {c d p : ClassId} {K L : String}

/-! ## Where classes are opened -/

/-- A class that was opened under a name in a frame. -/
structure OpenedIn (s : State) (c : ClassId) (f : FrameId) (K : String) : Prop where
  there : c < s.classes.size
  name : (s.classAt c).name = K
  frame : (s.frameAt (s.classAt c).frame).parent = some f

/-- Where a class was opened is settled once it is there. -/
theorem Persists.openedIn (hs : s.Persists s') (tree : s.Tree) (hc : c < s.classes.size) :
    s'.OpenedIn c f K ↔ s.OpenedIn c f K := by
  have grows := hs.classAt hc
  have place : (s'.frameAt (s'.classAt c).frame).parent
      = (s.frameAt (s.classAt c).frame).parent := by
    rw [grows.frame]
    exact (hs.frameAt (tree.bodyIn hc)).parent
  constructor
  · exact fun h => ⟨hc, grows.name.symm.trans h.name, place.symm.trans h.frame⟩
  · intro h
    exact ⟨Nat.lt_of_lt_of_le hc hs.classes.size_le, grows.name.trans h.name, place.trans h.frame⟩

/-- A class that is made is opened where it was to be. -/
theorem openedIn_createClass :
    (Eval.createClass s f K p).2.OpenedIn s.classes.size g L ↔ f = g ∧ K = L := by
  have made := classAt_createClass s f K p
  have place : ((Eval.createClass s f K p).2.frameAt
      ((Eval.createClass s f K p).2.classAt s.classes.size).frame).parent = some f := by
    rw [made.frame]
    exact parent_frameAt_createClass s f K p
  constructor
  · exact fun h => ⟨Option.some.inj (place.symm.trans h.frame), made.name.symm.trans h.name⟩
  · rintro ⟨rfl, rfl⟩
    exact ⟨by simp, made.name, place⟩

/-- A class that is made is bound to its name. -/
theorem ownConstant?_createClass_self (hf : f < s.frames.size) (hK : Shape.of K = .constant) :
    (Eval.createClass s f K p).2.ownConstant? f K = some (.cls s.classes.size) := by
  let body : State := (s.newClassBody f s.classes.size).2
  let made : State := (body.addClass { name := K, parent := some p, frame := s.frames.size }).2
  have there : f < made.frames.size := by
    simp [made, body, newClassBody, addFrame, addClass, Nat.lt_succ_of_lt hf]
  change (made.set f K _).ownConstant? f K = _
  unfold set
  simp only [hK]
  exact ownConstant?_bindConstant_self there

/-! ## What names stand for -/

/-- Classes form a tree, and each is what its name stands for in the frame it was opened in. -/
structure Named (s : State) : Prop where
  tree : s.Tree
  shape {c : ClassId} {f : FrameId} {K : String} (h : s.OpenedIn c f K) : Shape.of K = .constant
  bound {c : ClassId} {f : FrameId} {K : String} (h : s.OpenedIn c f K) :
    s.ownConstant? f K = some (.cls c)

namespace Named

variable (h : s.Named) (opened : s.OpenedIn c f K)
include h opened

theorem get_eq : s.get f K = .cls c := get_of_ownConstant? (h.shape opened) (h.bound opened)

/-- No two classes are opened under one name in one frame. -/
theorem unique (again : s.OpenedIn d f K) : d = c :=
  Value.cls.inj (Option.some.inj ((h.bound again).symm.trans (h.bound opened)))

/-- **Opening the name of a class finds it and changes nothing.** -/
theorem defineClass_eq (parent : Option String) :
    Eval.defineClass f K parent s = .done (.ok c) s :=
  Eval.defineClass_of_cls (h.get_eq opened) parent

end Named

/-! ## Steps -/

/-- Code that is well-shaped does not rebind a class. -/
theorem NextBy.ownConstant? (hn : s.NextBy Node.NamesFit s')
    (bound : s.ownConstant? f K = some (.cls c)) : s'.ownConstant? f K = some (.cls c) := by
  cases hn with
  | change hc =>
    exact (hc.ownConstant? (fun _ code => code.2) bound).resolve_right nofun
  | depth | drain => exact bound
  | probe _ ofClass => cases ofClass <;> exact bound

/-- **No step by well-shaped code takes a class its name.** -/
theorem Named.next (h : s.Named) (hs : s.WellFormed) (hn : s.NextBy Node.NamesFit s') :
    s'.Named := by
  have fit {c : ClassId} {f : FrameId} {K : String} (opened : s'.OpenedIn c f K) :
      Shape.of K = .constant ∧ s'.ownConstant? f K = some (.cls c) := by
    rcases Nat.lt_or_ge c s.classes.size with old | new
    · have before := (hn.next.persists.openedIn h.tree old).1 opened
      exact ⟨h.shape before, hn.ownConstant? (h.bound before)⟩
    · have more : s.classes.size < s'.classes.size := Nat.lt_of_le_of_lt new opened.there
      cases hn with
      | change hc =>
        obtain ⟨g, L, _, _, p, ⟨-, code⟩, ⟨hg, -⟩, -, -, rfl⟩ := hc.eq_createClass more
        obtain rfl : c = s.classes.size := by
          have there := opened.there
          rw [size_classes_createClass] at there
          exact Nat.le_antisymm (Nat.le_of_lt_succ there) new
        obtain ⟨rfl, rfl⟩ := openedIn_createClass.1 opened
        have shape : Shape.of L = .constant := code.self
        exact ⟨shape, ownConstant?_createClass_self hg shape⟩
      | depth | drain => exact absurd more (Nat.lt_irrefl _)
      | probe d ofClass name probe =>
        rw [size_classes_defineProbe] at more
        exact absurd more (Nat.lt_irrefl _)
  exact ⟨h.tree.next hs hn.next, fun opened => (fit opened).1, fun opened => (fit opened).2⟩

theorem Named.later (h : s.Named) (hs : s.WellFormed) (hl : s.LaterBy Node.NamesFit s') :
    s'.Named := hl.keeps hs h fun hs hN hn => hN.next hs hn

/-- Whether a class is bound to its name in the root namespace and was opened there. -/
def isNamedInRoot (s : State) (c : ClassId) : Bool :=
  let x := s.classAt c
  Shape.of x.name == .constant && (s.frameAt x.frame).parent == some Core.root
    && s.ownConstant? Core.root x.name == some (.cls c)

/-- The core classes are what their names stand for. -/
theorem named_initial (limit : Nat) : (State.initial limit).Named := by
  have core : (List.range 9).all (State.initial 0).isNamedInRoot = true := by decide +kernel
  have unlimited : (State.initial limit).isNamedInRoot = (State.initial 0).isNamedInRoot := by
    rw [initial_eq]
    rfl
  have fit {c : ClassId} {f : FrameId} {K : String}
      (opened : (State.initial limit).OpenedIn c f K) :
      Shape.of K = .constant ∧ (State.initial limit).ownConstant? f K = some (.cls c) := by
    have there : c < 9 := size_classes_initial limit ▸ opened.there
    have named : (State.initial limit).isNamedInRoot c = true := by
      rw [unlimited]
      exact List.all_eq_true.1 core c (List.mem_range.2 there)
    simp only [isNamedInRoot, Bool.and_eq_true, beq_iff_eq] at named
    obtain ⟨⟨shape, place⟩, bound⟩ := named
    obtain rfl := opened.name
    obtain rfl := Option.some.inj (place.symm.trans opened.frame)
    exact ⟨shape, bound⟩
  exact ⟨tree_initial limit, fun opened => (fit opened).1, fun opened => (fit opened).2⟩

/-- **Well-shaped programs get to states only where every class is what its name stands for.** -/
theorem ReachedBy.named (h : s.ReachedBy Node.NamesFit) : s.Named :=
  h.keeps named_initial fun hs hN hn => hN.next hs hn

/-! ## Sessions -/

/-- Opening a new class is a step by well-shaped code, after which the class is opened. -/
theorem FitsBy.opened (h : s.FitsBy Node.NamesFit) (hf : f < s.frames.size)
    (hK : Shape.of K = .constant) {parent : Option String}
    (made : (Eval.defineClass f K parent).Ends s (.ok c) s₁) (new : s.classes.size ≤ c) :
    s.NextBy Node.NamesFit s₁ ∧ s₁.OpenedIn c f K := by
  rcases Eval.defineClass_eq s f K parent with ⟨d, hd, e⟩ | ⟨p, known, isNil, e⟩ | ⟨_, _, e⟩
  · obtain ⟨same, -⟩ := (Eval.ends_of_done e).1 made
    obtain rfl := Except.ok.inj same
    have known : s.Known (.value (.cls c)) := hd ▸ known_get s f K
    have old : c < s.classes.size := h.wellFormed.has known
    exact absurd old (Nat.not_lt_of_le new)
  · obtain ⟨same, rfl⟩ := (Eval.ends_of_done e).1 made
    obtain rfl := Except.ok.inj same
    have code : (Node.defineClass K parent []).WellShaped := .defineClass hK (List.forall_mem_nil _)
    refine ⟨.change ?_, openedIn_createClass.2 ⟨rfl, rfl⟩⟩
    exact .createClass ⟨trivial, code⟩ ⟨hf, trivial⟩ ⟨h.wellFormed.has known, trivial⟩ isNil
  · exact nomatch ((Eval.ends_of_done e).1 made).1

/-- **Evaluating a class node anew ends with the class that is there**, which keeps its parent and
its methods, whatever the node says. -/
theorem Named.reopened (h : s.Named) (fits : s.FitsBy Node.NamesFit)
    (opened : s.OpenedIn c f K) {parent : Option String} {body : Program} {r : Outcome Flow}
    (he : (Eval.node (.defineClass K parent body) f).Ends s r s') :
    (s'.classAt c).parent = (s.classAt c).parent ∧
    (∀ flow, r = .ok flow → flow = .normal (.cls c)) ∧
    Store.Keeps (s.classAt c).methods (s'.classAt c).methods ∧
    ((∀ n ∈ body, n.WellShaped) → s.LaterBy Node.NamesFit s') := by
  obtain ⟨r₀, hr, rfl⟩ := (Eval.ends_class_iff (h.defineClass_eq opened parent)).1 he
  have grows := (extends_of_ends hr).1.persists.classAt opened.there
  refine ⟨grows.parent, fun flow hflow => ?_, grows.methods, fun shaped => ?_⟩
  · cases r₀ with
    | ok => exact (Except.ok.inj hflow).symm
    | error => exact nomatch hflow
  · exact fits.laterBy_of_ends_statements shaped (h.tree.bodyIn opened.there) hr

/-- **A class that is made under a name stays the class of that name.**  Opening `K` in the frame
`f` has made the class `c`.  Then the body runs, and all states it gets to are later ones, also if
it fails.  In every state that well-shaped programs get to later, `K` stands for `c` in `f`, and `c`
alone was opened there under that name; opening it once more, with whatever parent, gives `c` and
changes nothing, and evaluating a class node with whatever body leaves `c` with its parent and all
its methods and, if it ends well, ends with `c`. -/
theorem ReachedBy.class_stays (h : s.ReachedBy Node.NamesFit) (hf : f < s.frames.size)
    (hK : Shape.of K = .constant) {parent : Option String}
    (made : (Eval.defineClass f K parent).Ends s (.ok c) s₁) (new : s.classes.size ≤ c) :
    (∀ body : Program, (∀ n ∈ body, n.WellShaped) →
      (∀ t s', (Eval.statements body (s₁.classAt c).frame).Comes s₁ t s' →
        s₁.LaterBy Node.NamesFit s') ∧
      ∀ r s', (Eval.node (.defineClass K parent body) f).Ends s r s' →
        s₁.LaterBy Node.NamesFit s') ∧
    ∀ s₂, s₁.LaterBy Node.NamesFit s₂ →
      s₂.get f K = .cls c ∧
      (∀ d, s₂.OpenedIn d f K ↔ d = c) ∧
      ∀ parent',
        (∀ r s', (Eval.defineClass f K parent').Ends s₂ r s' ↔ r = .ok c ∧ s' = s₂) ∧
        ∀ body r s₃, (Eval.node (.defineClass K parent' body) f).Ends s₂ r s₃ →
          (s₃.classAt c).parent = (s₁.classAt c).parent ∧
          (∀ flow, r = .ok flow → flow = .normal (.cls c)) ∧
          Store.Keeps (s₂.classAt c).methods (s₃.classAt c).methods ∧
          ((∀ n ∈ body, n.WellShaped) →
            s₁.LaterBy Node.NamesFit s₃ ∧ ∀ d, s₃.OpenedIn d f K ↔ d = c) := by
  obtain ⟨step, opened⟩ := h.fitsBy.opened hf hK made new
  have fits₁ := h.fitsBy.next step
  have named₁ := h.named.next h.fitsBy.wellFormed step
  have stays {s₂ : State} (later : s₁.LaterBy Node.NamesFit s₂) :
      s₂.Named ∧ s₂.OpenedIn c f K :=
    ⟨named₁.later fits₁.wellFormed later,
      (later.persists.openedIn named₁.tree opened.there).2 opened⟩
  have only {s₂ : State} (later : s₁.LaterBy Node.NamesFit s₂) (d : ClassId) :
      s₂.OpenedIn d f K ↔ d = c :=
    ⟨(stays later).1.unique (stays later).2, fun e => e ▸ (stays later).2⟩
  refine ⟨fun body shaped => ?_, fun s₂ later => ?_⟩
  · have bodyIn := named₁.tree.bodyIn opened.there
    refine ⟨fun t s' ht => ?_, fun r s' he => ?_⟩
    · exact ((fits₁.keeps_statements shaped bodyIn).of_comes ht).1.inv.2
    · obtain ⟨r₀, hr, -⟩ := (Eval.ends_class_iff (Eval.done_of_ends_defineClass made)).1 he
      exact fits₁.laterBy_of_ends_statements shaped bodyIn hr
  · obtain ⟨named₂, opened₂⟩ := stays later
    refine ⟨named₂.get_eq opened₂, only later, fun parent' => ⟨fun r s' => ?_,
      fun body r s₃ he => ?_⟩⟩
    · exact Eval.ends_of_done (named₂.defineClass_eq opened₂ parent')
    · obtain ⟨kept, ends, methods, goes⟩ := named₂.reopened (fits₁.later later) opened₂ he
      have parent := kept.trans (later.persists.classAt opened.there).parent
      refine ⟨parent, ends, methods, fun shaped => ?_⟩
      exact ⟨later.trans (goes shaped), only (later.trans (goes shaped))⟩

/-- Defines a method and fails. -/
def halfway : Program := [.defineMethod "m" [] [], .call none "missing" []]

/-- Opens the class once more, as if it were below `String`. -/
def resumed : Node := .defineClass "K" (some "String") [.defineMethod "n" [] []]

/-- A class whose first body fails halfway is found and completed by the second. -/
theorem class_stays_resumed : ∃ s₁ e s₂ flow s₃,
    (Eval.defineClass Core.root "K" none).Ends (State.initial 5) (.ok 9) s₁ ∧
    (Eval.node (.defineClass "K" none halfway) Core.root).Ends (State.initial 5) (.error e) s₂ ∧
    "m" ∈ (s₂.classAt 9).methods ∧ s₂.get Core.root "K" = .cls 9 ∧
    (Eval.node resumed Core.root).Ends s₂ (.ok flow) s₃ ∧ flow = .normal (.cls 9) ∧
    (s₃.classAt 9).parent = (s₁.classAt 9).parent ∧ "m" ∈ (s₃.classAt 9).methods := by
  have shaped : ∀ n ∈ halfway, n.WellShaped :=
    List.forall_mem_cons.2 ⟨.leaf trivial rfl, List.forall_mem_singleton.2 (.leaf trivial rfl)⟩
  obtain ⟨r₁, s₁, made, hr₁⟩ : ∃ r s₁, (Eval.defineClass Core.root "K" none).Ends
      (State.initial 5) r s₁ ∧ (r.toOption == some 9) = true :=
    Eval.exists_ends_of_run 1 (fun r _ => r.toOption == some 9) (by decide +kernel)
  let hasMethod (s : State) : Bool := (s.classAt 9).methods.contains "m"
  let succeeds (s : State) : Bool := ((Eval.node resumed Core.root).run 100 s).any (·.1.toBool)
  obtain ⟨r₂, s₂, first, hr₂⟩ : ∃ r s₂, (Eval.node (.defineClass "K" none halfway) Core.root).Ends
      (State.initial 5) r s₂ ∧ (!r.toBool && (hasMethod s₂ && succeeds s₂)) = true :=
    Eval.exists_ends_of_run 100 (fun r s => !r.toBool && (hasMethod s && succeeds s))
      (by decide +kernel)
  simp only [Bool.and_eq_true] at hr₂
  obtain ⟨fails, defines, hs₂⟩ := hr₂
  obtain ⟨r₃, s₃, second, hr₃⟩ := Eval.exists_ends_of_run 100 (fun r _ => r.toBool) hs₂
  cases r₁ with
  | error e => exact nomatch hr₁
  | ok c =>
  obtain rfl : c = 9 := Option.some.inj (eq_of_beq hr₁)
  cases r₂ with
  | ok flow => exact nomatch fails
  | error e =>
  cases r₃ with
  | error e => exact nomatch hr₃
  | ok flow =>
  have size : (State.initial 5).classes.size ≤ 9 := Nat.le_of_eq (size_classes_initial 5)
  obtain ⟨leads, stays⟩ := (ReachedBy.fresh 5).class_stays (root_lt_size_initial 5)
    (by decide : Shape.of "K" = .constant) made size
  obtain ⟨bound, -, reopening⟩ := stays s₂ ((leads halfway shaped).2 _ _ first)
  obtain ⟨parent, ends, keeps, -⟩ := (reopening (some "String")).2 _ _ _ second
  have there : "m" ∈ (s₂.classAt 9).methods := Std.TreeMap.contains_iff_mem.1 defines
  exact ⟨s₁, e, s₂, flow, s₃, made, first, there, bound, second, ends flow rfl, parent,
    keeps _ there⟩

end State

end OpenScript
