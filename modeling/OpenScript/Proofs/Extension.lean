import OpenScript.Proofs.Evaluation
import OpenScript.Proofs.Growth
import OpenScript.Proofs.Initial

/-!
# Proofs/Extension — what was there before a run is there after it

    s ──statements, well or not──▸ s'     places, names, namespaces, handles, output of s: all in s'

A change only adds to a state (`State.Change.extends`), and evaluation makes nothing but changes, so
it only adds as well, from whatever state it starts in and however it ends
(`State.extends_of_ends`).  Handles that are kept from before a run stay good, and a name that could
be read in a frame can still be read there.
-/

namespace OpenScript

variable {s s' s'' : State} {f : FrameId} {name : String}

theorem Store.Keeps.isSome {t t' : Store α} (h : Store.Keeps t t') {k : String}
    (hk : t[k]?.isSome) : t'[k]?.isSome :=
  Std.TreeMap.isSome_getElem?_iff_mem.2 (h k (Std.TreeMap.isSome_getElem?_iff_mem.1 hk))

namespace State

/-- A state with all that another has, grown, its globals included. -/
structure Extends (s s' : State) : Prop extends s.Grows s' where
  globals : Store.Keeps s.globals s'.globals

namespace Extends

theorem refl (s : State) : s.Extends s := ⟨.refl s, fun _ => id⟩

theorem trans (h : s.Extends s') (h' : s'.Extends s'') : s.Extends s'' :=
  ⟨h.toGrows.trans h'.toGrows, fun k hk => h'.globals k (h.globals k hk)⟩

end Extends

/-! ## Globals -/

theorem keeps_globals_of_eq (h : s'.globals = s.globals) : Store.Keeps s.globals s'.globals := by
  rw [h]
  exact fun _ => id

theorem globals_setIvar (s : State) (v : Value) (key : String) (w : Value) :
    (s.setIvar v key w).globals = s.globals := by cases v <;> rfl

theorem keeps_globals_set (s : State) (f : FrameId) (name : String) (v : Value) :
    Store.Keeps s.globals (s.set f name v).globals := by
  unfold set
  dsimp only
  split
  · exact keeps_globals_of_eq rfl
  · exact keeps_globals_of_eq rfl
  · exact s.globals.keeps_insert _ v
  · exact keeps_globals_of_eq rfl
  · exact keeps_globals_of_eq (s.globals_setIvar _ _ v)
  · exact keeps_globals_of_eq rfl

theorem globals_defineConstant (s : State) (f : FrameId) (name : String) (v : Value) :
    (s.defineConstant f name v).2.globals = s.globals := by
  unfold defineConstant
  split <;> rfl

theorem keeps_globals_createClass (s : State) (f : FrameId) (name : String) (c : ClassId) :
    Store.Keeps s.globals (Eval.createClass s f name c).2.globals :=
  let body := (s.newClassBody f s.classes.size).2
  let made := (body.addClass { name, parent := some c, frame := s.frames.size }).2
  keeps_globals_set made f name (.cls s.classes.size)

/-- A change leaves every global bound. -/
theorem Change.globals {has : Item → Prop} (h : s.Change has s') :
    Store.Keeps s.globals s'.globals := by
  cases h with
  | setIvar key hv hw => exact keeps_globals_of_eq (s.globals_setIvar _ key _)
  | set hn hc hf hv => exact s.keeps_globals_set _ _ _
  | defineConstant hc hf hv => exact keeps_globals_of_eq (s.globals_defineConstant _ _ _)
  | createClass hd hf hc hn => exact s.keeps_globals_createClass _ _ _
  | enter ho hr hv => exact keeps_globals_of_eq (by rw [enter_eq]; rfl)
  | enterClosure hc hv => exact keeps_globals_of_eq (by rw [enterClosure_eq]; rfl)
  | box | instantiate | intern | print | addProperty | defineMethod | createSpace =>
    exact keeps_globals_of_eq rfl

/-- **A change only adds**, to the globals too. -/
theorem Change.extends {has : Item → Prop} (h : s.Change has s') : s.Extends s' :=
  ⟨h.grows, h.globals⟩

/-! ## Names -/

/-- Tables in an arena that grows lose no key.  A place that is not there reads as a default, whose
tables are empty. -/
theorem keeps_of_arenaGrows {α β : Type} [Inhabited α] {r : α → α → Prop} {xs ys : Array α}
    (h : ArenaGrows r xs ys) (table : α → Store β) (hd : table default = {})
    (hr : ∀ {x y}, r x y → Store.Keeps (table x) (table y)) (i : Nat) :
    Store.Keeps (table (xs[i]?.getD default)) (table (ys[i]?.getD default)) := by
  intro k hk
  cases hx : xs[i]? with
  | none =>
    rw [hx, Option.getD_none, hd] at hk
    exact absurd hk Std.TreeMap.not_mem_emptyc
  | some x =>
    obtain ⟨y, hy, grows⟩ := h i x hx
    rw [hx] at hk
    rw [hy]
    exact hr grows k hk

namespace Extends

variable (h : s.Extends s')
include h

theorem isSome_ivar? {v : Value} {key : String} (hk : (s.ivar? v key).isSome) :
    (s'.ivar? v key).isSome := by
  cases v with
  | nil => exact nomatch hk
  | object o => exact (keeps_of_arenaGrows h.objects (·.ivars) rfl (·.ivars) o).isSome hk
  | cls c => exact (keeps_of_arenaGrows h.classes (·.ivars) rfl (·.ivars) c).isSome hk

theorem isSome_local? (hf : f < s.frames.size) (hk : (s.local? f name).isSome) :
    (s'.local? f name).isSome := by
  rw [local?, nearest?_eq, List.findSome?_isSome_iff] at hk ⊢
  obtain ⟨g, hg, hk⟩ := hk
  refine ⟨g, closureChain_of_grow (h.framesGrow hf) ▸ hg, ?_⟩
  exact (keeps_of_arenaGrows h.frames (·.locals) rfl (·.locals) g).isSome hk

/-- **A name that a frame's own stores bind stays bound there.** -/
theorem isSome_lookupOwn (hf : f < s.frames.size) (hk : (s.lookupOwn f name).isSome) :
    (s'.lookupOwn f name).isSome := by
  unfold lookupOwn at hk ⊢
  dsimp only at hk ⊢
  split at hk
  · exact (h.frameAt hf).constants.isSome hk
  · exact h.isSome_local? hf hk
  · exact h.globals.isSome hk
  · rw [(h.frameAt hf).cls]
    exact (keeps_of_arenaGrows h.classes (·.classVars) rfl (·.classVars) _).isSome hk
  · rw [ivarOwner_of_grow (h.framesGrow hf)]
    exact h.isSome_ivar? hk
  · exact hk

/-- **A name that can be read in a frame can still be read there.** -/
theorem isSome_lookup (hf : f < s.frames.size) (hk : (s.lookup f name).isSome) :
    (s'.lookup f name).isSome := by
  by_cases hd : (Shape.of name).delegates = true
  · rw [lookup_of_delegates hd, List.findSome?_isSome_iff] at hk ⊢
    obtain ⟨g, hg, hk⟩ := hk
    refine ⟨g, searchPath_of_grow (h.framesGrow hf) ▸ hg, ?_⟩
    exact h.isSome_lookupOwn (Nat.lt_of_le_of_lt (le_of_mem_searchPath hg) hf) hk
  · rw [lookup, if_neg hd] at hk ⊢
    exact h.isSome_lookupOwn hf hk

end Extends

end State

/-! ## Runs -/

namespace Discipline

/-- Evaluation only adds. -/
def extending (s₀ : State) : Discipline where
  inv s := s₀.Extends s
  has _ _ := True
  part _ _ := trivial
  change h _ hc := ⟨h.trans hc.extends, fun _ _ => trivial, fun _ _ => trivial⟩
  inv_depth _ h := h.trans { State.Extends.refl _ with }
  has_depth _ _ := trivial

theorem fits_extending (s : State) : (extending s).Fits s := ⟨.refl s, fun _ => trivial⟩

end Discipline

namespace State

/-- **Evaluation only adds**: from every state, in every frame and however it ends, statements leave
all classes, objects, frames, symbols, namespaces and globals where they were, with what they refer
to and every name they bind; the output is continued, and every name that could be read in a frame
can still be read there. -/
theorem extends_of_ends {p : Program} {r : Outcome Flow} (h : (Eval.statements p f).Ends s r s') :
    s.Extends s' ∧ ∀ g < s.frames.size, ∀ name,
      ((s.lookupOwn g name).isSome → (s'.lookupOwn g name).isSome) ∧
      ((s.lookup g name).isSome → (s'.lookup g name).isSome) := by
  have keeps : (Discipline.extending s).Keeps (fun _ => True) s (Eval.statements p f) _ :=
    Discipline.keeps_statements (Discipline.fits_extending s) (fun _ _ => trivial) trivial
      fun _ _ => trivial
  have grown : s.Extends s' := (keeps.of_ends h).1.fits.inv
  exact ⟨grown, fun g hg name => ⟨grown.isSome_lookupOwn hg, grown.isSome_lookup hg⟩⟩

/-- Prints and adds a class. -/
def founding : Program :=
  [.defineClass "K" none [.setClassVar "@@n" (.int 1)], .call (some (.text "a")) "print" []]

/-- Rebinds a name, adds to the class and fails. -/
def failing : Program :=
  [.defineClass "K" none [.setClassVar "@@n" (.int 2), .setInstanceVar "@x" (.int 3)],
    .call none "missing" []]

/-- A run that fails keeps the class, its variable and what was printed. -/
theorem extends_of_ends_failing : ∃ s e s', s.output = "a" ∧
    (Eval.statements failing Core.root).Ends s (.error e) s' ∧ s.Extends s' ∧
    ∀ g < s.frames.size, ∀ name, ((s.lookupOwn g name).isSome → (s'.lookupOwn g name).isSome) ∧
      ((s.lookup g name).isSome → (s'.lookup g name).isSome) := by
  let fails (s : State) : Bool :=
    ((Eval.statements failing Core.root).run 100 s).any fun p => !p.1.toBool
  obtain ⟨-, s, -, ht⟩ : ∃ r s, (Eval.statements founding Core.root).Ends (State.initial 5) r s ∧
      (s.output == "a" && fails s) = true :=
    Eval.exists_ends_of_run 100 (fun _ s => s.output == "a" && fails s) (by decide +kernel)
  obtain ⟨printed, ht⟩ := Bool.and_eq_true_iff.1 ht
  obtain ⟨r, s', he, hr⟩ := Eval.exists_ends_of_run 100 (fun r _ => !r.toBool) ht
  cases r with
  | ok flow => exact nomatch hr
  | error e => exact ⟨s, e, s', beq_iff_eq.1 printed, he, extends_of_ends he⟩

end State

end OpenScript
