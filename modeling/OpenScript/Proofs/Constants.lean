import OpenScript.Proofs.Programs
import OpenScript.Proofs.Tree

/-!
# Proofs/Constants — a constant that is not `nil` keeps its value

    K ↦ v ──statements with names of the right shape──▸ K ↦ v,  or  K ↦ the class K  if v is nil

Assigning a constant leaves it as it is once it is bound.  Opening a class reads the name instead
and takes `nil` for unbound, so it makes a class and writes over a constant that is bound to `nil`.
That is the only way in which a constant changes (`State.Change.ownConstant?`), and it can happen
to a constant only once (`State.ReachedBy.constant_of_ends`).
-/

namespace OpenScript

/-- The names that a node writes have the shape it is there for. -/
def Node.NamesFit : Node → Prop
  | .setLocal name _ => Shape.of name = .localVar
  | .setGlobal name _ => Shape.of name = .globalVar
  | .setClassVar name _ => Shape.of name = .classVar
  | .setInstanceVar name _ => Shape.of name = .instanceVar
  | .setConstant name _ | .defineClass name _ _ => Shape.of name = .constant
  | _ => True

/-- All names that code writes have the right shape, down to the bodies of methods and lambdas. -/
abbrev Node.WellShaped : Node → Prop := Node.Everywhere Node.NamesFit

theorem Node.NamesFit.assigned {n : Node} {name : String} (h : n.NamesFit)
    (hn : n.assigned? = some name) : Shape.of name ≠ .constant := by
  cases n with
  | setLocal | setGlobal | setClassVar | setInstanceVar =>
    obtain rfl := Option.some.inj hn
    rw [show Shape.of _ = _ from h]
    nofun
  | _ => exact nomatch hn

namespace Node.WellShaped

/-- Code without parts is well-shaped if its own name is. -/
theorem leaf {n : Node} (h : n.NamesFit) (hn : n.parts = []) : n.WellShaped :=
  .intro h (hn ▸ List.forall_mem_nil _)

theorem setConstant {name : String} {n : Node} (h : Shape.of name = .constant)
    (hn : n.WellShaped) : (Node.setConstant name n).WellShaped :=
  .intro h (List.forall_mem_singleton.2 hn)

theorem defineClass {name : String} {parent : Option String} {body : Program}
    (h : Shape.of name = .constant) (hb : ∀ n ∈ body, n.WellShaped) :
    (Node.defineClass name parent body).WellShaped :=
  .intro h hb

end Node.WellShaped

namespace State

variable {s s' : State} {f g : FrameId} {K name : String} {v w : Value}

/-! ## Writes -/

theorem lt_size_of_ownConstant? (h : s.ownConstant? f K = some v) : f < s.frames.size := by
  refine Nat.lt_of_not_le fun past => ?_
  rw [ownConstant?, frameAt, Array.getElem?_eq_none past] at h
  exact absurd (h.symm.trans Std.TreeMap.getElem?_emptyc) (Option.some_ne_none v)

theorem ownConstant?_modifyFrame {update : Frame → Frame}
    (hu : ∀ x, (update x).constants = x.constants) :
    (s.modifyFrame g update).ownConstant? f K = s.ownConstant? f K :=
  s.frameAt_modifyFrame_of_keeps (g := (·.constants[K]?)) fun _ x => congrArg (·[K]?) (hu x)

theorem ownConstant?_addFrame (hf : f < s.frames.size) (x : Frame) :
    (s.addFrame x).2.ownConstant? f K = s.ownConstant? f K := by
  rw [ownConstant?, s.frameAt_addFrame_of_lt hf, ownConstant?]

theorem ownConstant?_setIvar {key : String} :
    (s.setIvar v key w).ownConstant? f K = s.ownConstant? f K := by
  cases v <;> rfl

/-- Binding a constant leaves all others as they are. -/
theorem ownConstant?_bindConstant_of_ne (h : ¬ (g = f ∧ name = K)) :
    (s.bindConstant g name w).ownConstant? f K = s.ownConstant? f K := by
  refine s.frameAt_modifyFrame_of_keeps (g := (·.constants[K]?)) fun same x => ?_
  exact Store.getElem?_insert_of_ne fun hK => h ⟨same, hK.symm⟩

theorem ownConstant?_bindConstant_self (hf : f < s.frames.size) :
    (s.bindConstant f K w).ownConstant? f K = some w := by
  rw [ownConstant?, bindConstant, s.frameAt_modifyFrame hf, if_pos rfl]
  exact Std.TreeMap.getElem?_insert_self

/-- Only names of constants are written as constants. -/
theorem ownConstant?_set (h : Shape.of name = .constant → ¬ (g = f ∧ name = K)) :
    (s.set g name w).ownConstant? f K = s.ownConstant? f K := by
  unfold set
  dsimp only
  split
  · next hs => exact ownConstant?_bindConstant_of_ne (h hs)
  · exact ownConstant?_modifyFrame fun _ => rfl
  · rfl
  · rfl
  · exact ownConstant?_setIvar
  · rfl

/-- **Defining a constant that is bound changes nothing.** -/
theorem ownConstant?_defineConstant (h : s.ownConstant? f K = some v) :
    (s.defineConstant g name w).2.ownConstant? f K = some v := by
  unfold defineConstant
  split
  · exact h
  · next free =>
    refine (ownConstant?_bindConstant_of_ne ?_).trans h
    rintro ⟨rfl, rfl⟩
    have bound : name ∈ (s.frameAt g).constants :=
      Std.TreeMap.isSome_getElem?_iff_mem.1 (Option.isSome_of_mem h)
    exact free (Std.TreeMap.contains_iff_mem.2 bound)

/-- What a frame itself binds a constant to is what the name stands for there. -/
theorem get_of_ownConstant? (hs : Shape.of K = .constant) (h : s.ownConstant? f K = some v) :
    s.get f K = v := by
  have own : s.lookupOwn f K = some v := by
    rw [lookupOwn]
    simp only [hs]
    exact h
  rw [get, lookup_of_lookupOwn own, Option.getD_some]

/-- **A new class is written over a constant only if that is `nil`.** -/
theorem ownConstant?_createClass {c : ClassId} (hn : s.get g name = .nil)
    (h : s.ownConstant? f K = some v) :
    (Eval.createClass s g name c).2.ownConstant? f K = some v ∨
    v = .nil ∧ name = K ∧
      (Eval.createClass s g name c).2.ownConstant? f K = some (.cls s.classes.size) := by
  let body : State := (s.newClassBody g s.classes.size).2
  let made : State := (body.addClass { name, parent := some c, frame := s.frames.size }).2
  have kept : made.ownConstant? f K = some v :=
    (ownConstant?_addFrame (lt_size_of_ownConstant? h) _).trans h
  change (made.set g name _).ownConstant? f K = _ ∨
    v = .nil ∧ name = K ∧ (made.set g name _).ownConstant? f K = _
  by_cases hit : Shape.of name = .constant ∧ g = f ∧ name = K
  · obtain ⟨hs, rfl, rfl⟩ := hit
    refine .inr ⟨(get_of_ownConstant? hs h).symm.trans hn, rfl, ?_⟩
    unfold set
    simp only [hs]
    exact ownConstant?_bindConstant_self (lt_size_of_ownConstant? kept)
  · exact .inl ((ownConstant?_set fun hs e => hit ⟨hs, e⟩).trans kept)

theorem ownConstant?_createSpace (hf : f < s.frames.size) :
    (Eval.createSpace s g name).2.ownConstant? f K = s.ownConstant? f K := by
  have registered : (Eval.createSpace s g name).2.ownConstant? f K
      = ((s.instantiate Core.object).2.newSpace g (.object s.objects.size)
          Core.object).2.ownConstant? f K := by
    refine ownConstant?_modifyFrame fun x => ?_
    split <;> rfl
  exact registered.trans (ownConstant?_addFrame hf _)

/-! ## Changes -/

/-- **A change by well-shaped code leaves a constant as it is, or makes a class of it if it is
`nil`.** -/
theorem Change.ownConstant? {has : Item → Prop} (h : s.Change has s')
    (code : ∀ n, has (.code n) → n.WellShaped) (hv : s.ownConstant? f K = some v) :
    s'.ownConstant? f K = some v ∨
    v = .nil ∧ s'.ownConstant? f K = some (.cls s.classes.size) ∧
      s.classes.size < s'.classes.size ∧ (s'.classAt s.classes.size).name = K := by
  have there : f < s.frames.size := lt_size_of_ownConstant? hv
  cases h with
  | box | instantiate | intern | print | addProperty | defineMethod => exact .inl hv
  | setIvar key hv' hw => exact .inl (ownConstant?_setIvar.trans hv)
  | set hn hc hf hw =>
    have shape := (code _ hc).self.assigned hn
    exact .inl ((ownConstant?_set fun hs => absurd hs shape).trans hv)
  | defineConstant hc hf hw => exact .inl (ownConstant?_defineConstant hv)
  | createClass hd hf hc hn =>
    refine (ownConstant?_createClass hn hv).imp_right fun ⟨isNil, e, bound⟩ => ?_
    exact ⟨isNil, bound, by simp, (classAt_createClass s _ _ _).name.trans e⟩
  | createSpace hd hf hn => exact .inl ((ownConstant?_createSpace there).trans hv)
  | enter ho hr hw =>
    refine .inl ?_
    rw [enter_eq, ownConstant?_addFrame, ownConstant?_addFrame there, hv]
    rw [addFrame, Array.size_push]
    exact Nat.lt_succ_of_lt there
  | enterClosure hc hw =>
    rw [enterClosure_eq]
    exact .inl ((ownConstant?_addFrame there _).trans hv)

/-- From a state on, a constant has kept its value, or it was `nil` and is a class of its name that
was made since. -/
def KeepsConstant (s : State) (f : FrameId) (K : String) (v : Value) (s' : State) : Prop :=
  s'.ownConstant? f K = some v ∨
  v = .nil ∧ ∃ c, s.classes.size ≤ c ∧ c < s'.classes.size ∧ (s'.classAt c).name = K ∧
    s'.ownConstant? f K = some (.cls c)

theorem KeepsConstant.change {s₀ : State} {has : Item → Prop} (h : s₀.KeepsConstant f K v s)
    (code : ∀ n, has (.code n) → n.WellShaped) (size : s₀.classes.size ≤ s.classes.size)
    (hc : s.Change has s') : s₀.KeepsConstant f K v s' := by
  rcases h with hv | ⟨isNil, c, hle, hlt, named, bound⟩
  · refine (hc.ownConstant? code hv).imp_right fun ⟨isNil, bound, more, named⟩ => ?_
    exact ⟨isNil, _, size, more, named, bound⟩
  · rcases hc.ownConstant? code bound with kept | ⟨isNil', -⟩
    · have grows := hc.grows.persists.classAt hlt
      have more : s.classes.size ≤ s'.classes.size := hc.grows.classes.size_le
      exact .inr ⟨isNil, c, hle, Nat.lt_of_lt_of_le hlt more, grows.name.trans named, kept⟩
    · exact nomatch isNil'

end State

/-! ## Runs -/

namespace Discipline

/-- Code is well-shaped and a constant has kept its value. -/
def constant (s₀ : State) (f : FrameId) (K : String) (v : Value) : Discipline where
  inv s := s₀.classes.size ≤ s.classes.size ∧ s₀.KeepsConstant f K v s
  has _ i := i.IsMadeOf Node.NamesFit
  part h hm := h.part hm
  change h known hc :=
    have ⟨_, stays, fresh⟩ := (madeOf Node.NamesFit).change trivial known hc
    ⟨⟨Nat.le_trans h.1 hc.grows.classes.size_le, h.2.change (fun _ => id) h.1 hc⟩, stays, fresh⟩
  inv_depth _ := id
  has_depth _ := id

end Discipline

namespace State

variable {s s' : State} {f g : FrameId} {K : String} {v : Value}

/-- **Constants are defined once, unless they are `nil`**: where programs write names of the right
shape only, statements leave a constant that a frame binds with its value, whether or not they end
well; if the value is `nil`, the constant may come to be a class that they made under its name, and
nothing else. -/
theorem ReachedBy.constant_of_ends (h : s.ReachedBy Node.NamesFit)
    (hv : s.ownConstant? f K = some v) {ns : Program} (hp : ∀ n ∈ ns, n.WellShaped)
    {r : Outcome Flow} (he : (Eval.statements ns g).Ends s r s') :
    s'.ownConstant? f K = some v ∨
    v = .nil ∧ ∃ c, s.classes.size ≤ c ∧ c < s'.classes.size ∧ (s'.classAt c).name = K ∧
      s'.ownConstant? f K = some (.cls c) := by
  have fits : (Discipline.constant s f K v).Fits s :=
    ⟨⟨Nat.le_refl _, .inl hv⟩, (Discipline.fits_madeOf fun _ => h.everywhere).has⟩
  have keeps : (Discipline.constant s f K v).Keeps (fun _ => True) s (Eval.statements ns g) _ :=
    Discipline.keeps_statements fits hp trivial fun _ _ => trivial
  exact (keeps.of_ends he).1.fits.inv.2

/-! ## Both ways -/

/-- Binds a constant. -/
def naming : Program := [.setConstant "K" (.int 1)]

/-- Assigns it once more and opens a class of its name. -/
def reassigning : Program :=
  [.setConstant "K" (.int 2), .defineClass "K" none [.setConstant "K" (.int 3)]]

/-- A constant survives an assignment and a class of its name, which fails. -/
theorem constant_of_ends_reassigning : ∃ s v e s', s.ReachedBy Node.NamesFit ∧
    s.ownConstant? Core.root "K" = some v ∧ (∀ n ∈ reassigning, n.WellShaped) ∧
    (Eval.statements reassigning Core.root).Ends s (.error e) s' ∧
    s'.ownConstant? Core.root "K" = some v := by
  have shape : Shape.of "K" = .constant := by decide
  have write (i : Int64) : (Node.setConstant "K" (.int i)).WellShaped :=
    .setConstant shape (.leaf trivial rfl)
  have first : ∀ n ∈ naming, n.WellShaped := List.forall_mem_singleton.2 (write 1)
  have second : ∀ n ∈ reassigning, n.WellShaped :=
    List.forall_mem_cons.2 ⟨write 2, List.forall_mem_singleton.2
      (.defineClass shape (List.forall_mem_singleton.2 (write 3)))⟩
  let bound (s : State) : Bool := s.ownConstant? Core.root "K" == some (.object 3)
  let fails (s : State) : Bool :=
    ((Eval.statements reassigning Core.root).run 100 s).any fun p => !p.1.toBool
  obtain ⟨s, reached, ht⟩ := exists_reachedBy_of_run 5 100 first (fun s => bound s && fails s)
    (by decide +kernel)
  obtain ⟨hb, hf⟩ := Bool.and_eq_true_iff.1 ht
  obtain ⟨r, s', he, hr⟩ := Eval.exists_ends_of_run 100 (fun r _ => !r.toBool) hf
  have hv : s.ownConstant? Core.root "K" = some (.object 3) := eq_of_beq hb
  have kept := (reached.constant_of_ends hv second he).resolve_right nofun
  cases r with
  | ok flow => exact nomatch hr
  | error e => exact ⟨s, _, e, s', reached, hv, second, he, kept⟩

/-- Binds a constant to `nil`. -/
def namingNil : Program := [.setConstant "K" .nil]

/-- Opens a class of its name. -/
def opening : Program := [.defineClass "K" none []]

/-- **A constant that is `nil` does not keep its value**: a class is made and written over it. -/
theorem constant_of_ends_opening : ∃ s r s', s.ReachedBy Node.NamesFit ∧
    s.ownConstant? Core.root "K" = some .nil ∧ (∀ n ∈ opening, n.WellShaped) ∧
    (Eval.statements opening Core.root).Ends s r s' ∧
    s'.ownConstant? Core.root "K" = some (.cls 9) := by
  have shape : Shape.of "K" = .constant := by decide
  have first : ∀ n ∈ namingNil, n.WellShaped :=
    List.forall_mem_singleton.2 (.setConstant shape (.leaf trivial rfl))
  have second : ∀ n ∈ opening, n.WellShaped :=
    List.forall_mem_singleton.2 (.defineClass shape (List.forall_mem_nil _))
  let bound (s : State) : Bool := s.ownConstant? Core.root "K" == some .nil
  let rebinds (s : State) : Bool := ((Eval.statements opening Core.root).run 100 s).any fun p =>
    p.2.ownConstant? Core.root "K" == some (.cls 9)
  obtain ⟨s, reached, ht⟩ := exists_reachedBy_of_run 5 100 first (fun s => bound s && rebinds s)
    (by decide +kernel)
  obtain ⟨hb, hs⟩ := Bool.and_eq_true_iff.1 ht
  obtain ⟨r, s', he, hc⟩ := Eval.exists_ends_of_run 100
    (fun _ s' => s'.ownConstant? Core.root "K" == some (.cls 9)) hs
  exact ⟨s, r, s', reached, eq_of_beq hb, second, he, eq_of_beq hc⟩

end State

end OpenScript
