import OpenScript.Proofs.Naming

/-!
# Proofs/Refusals — classes that are not defined

    class K < P in f        f: K ──▸ some object                    refused: K is no class
                            f: K ──▸ nil, P ──▸ nil or an object    refused: P is no class
                            otherwise                               K is opened, its body runs

A node is refused if its evaluation fails before any part of it is evaluated (`State.Refused`).
What the name of a class and that of its parent stand for is looked up first, and nothing else
refuses to open the class (`State.RefusesClass`).  So a class node that is refused is all that was
evaluated, and leaves the state as it is (`State.refused_class`).
-/

namespace OpenScript

variable {s s' : State} {f : FrameId} {n : Node} {e : RuntimeError} {name : String}
  {parent : Option String}

/-! ## Refusals -/

/-- The evaluation of a node fails before any part of it is evaluated. -/
structure State.Refused (s : State) (f : FrameId) (n : Node) (e : RuntimeError) : Prop where
  fails : ∃ s', (Eval.node n f).Ends s (.error e) s'
  alone {t : Task} {s' : State} : ¬(Task.node n f).perform.Asks s t s'

/-- A node is refused if performing it is failing at once. -/
theorem State.refused_iff_perform :
    s.Refused f n e ↔ ∃ s', (Task.node n f).perform s = .done (.error e) s' := by
  constructor
  · rintro ⟨⟨s', fails⟩, alone⟩
    rw [Eval.node, Eval.ends_ask_iff_perform] at fails
    cases hp : (Task.node n f).perform s with
    | done r s₁ =>
      obtain ⟨rfl, rfl⟩ := (Eval.ends_of_done hp).1 fails
      exact ⟨s', rfl⟩
    | ask t s₁ k =>
      have asks : (Task.node n f).perform.Asks s t s₁ := by
        rw [Eval.Asks, hp]
        exact .now
      exact absurd asks alone
  · rintro ⟨s', hp⟩
    refine ⟨⟨s', Eval.ends_ask_iff_perform.2 ((Eval.ends_of_done hp).2 ⟨rfl, rfl⟩)⟩, fun asks => ?_⟩
    rw [Eval.Asks, hp] at asks
    cases asks

namespace Eval

/-- **What is refused is all that is evaluated.** -/
theorem comes_of_refused (h : s.Refused f n e) {t : Task} (comes : (node n f).Comes s t s') :
    t = .node n f ∧ s' = s := by
  obtain ⟨_, hp⟩ := State.refused_iff_perform.1 h
  exact (comes_ask_iff_of_done hp).1 comes

end Eval

/-! ## Classes -/

namespace State

/-- **A class node is refused if opening the class is.** -/
theorem refused_class_iff {body : Program} :
    s.Refused f (.defineClass name parent body) e ↔ s.RefusesClass f name parent e := by
  rw [refused_iff_perform]
  refine ⟨fun ⟨s', hp⟩ => ?_, fun h => ⟨s, Eval.perform_class_of_refuses h body⟩⟩
  have not_opened {c : ClassId} {s₁ : State}
      (opened : Eval.defineClass f name parent s = .done (.ok c) s₁) : False := by
    rw [Eval.perform_class_of_opened opened] at hp
    -- the first statement is asked for, or there is none and all went well
    cases body <;> cases hp
  rcases Eval.defineClass_eq s f name parent with
    ⟨_, _, opened⟩ | ⟨_, _, _, opened⟩ | ⟨_, refuses, -⟩
  · exact (not_opened opened).elim
  · exact (not_opened opened).elim
  · cases hp.symm.trans (Eval.perform_class_of_refuses refuses body)
    exact refuses

theorem refusesClass_type_iff {expected got : String} :
    s.RefusesClass f name parent (.type expected got) ↔
      s.get f name ≠ .nil ∧ (∀ c, s.get f name ≠ .cls c) ∧
        expected = "class" ∧ got = s.classNameOf (s.get f name) := by
  constructor
  · rintro ⟨there, other⟩
    exact ⟨there, other, rfl, rfl⟩
  · rintro ⟨there, other, rfl, rfl⟩
    exact .notClass there other

theorem refusesClass_undefinedClass_iff {p : String} :
    s.RefusesClass f name parent (.undefinedClass p) ↔
      s.get f name = .nil ∧ parent = some p ∧ ∀ c, s.get f p ≠ .cls c := by
  constructor
  · rintro (_ | ⟨free, other⟩)
    exact ⟨free, rfl, other⟩
  · rintro ⟨free, rfl, other⟩
    exact .noParent free other

/-- **A class definition that is refused leaves no trace.**  It is refused with a type error just
if the name stands for something that is no class, and with an undefined class just if the name
stands for `nil` and the parent that is named for no class.  It is refused in no other way, and if
it is, it ends with that error in the state it began in, and nothing else was ever evaluated. -/
theorem refused_class (s : State) (f : FrameId) (name : String) (parent : Option String)
    (body : Program) :
    let n : Node := .defineClass name parent body
    (∀ expected got, s.Refused f n (.type expected got) ↔
      s.get f name ≠ .nil ∧ (∀ c, s.get f name ≠ .cls c) ∧
        expected = "class" ∧ got = s.classNameOf (s.get f name)) ∧
    (∀ p, s.Refused f n (.undefinedClass p) ↔
      s.get f name = .nil ∧ parent = some p ∧ ∀ c, s.get f p ≠ .cls c) ∧
    ∀ e, s.Refused f n e →
      (e.kind = .type ∨ e.kind = .undefinedClass) ∧
      (∀ r s', (Eval.node n f).Ends s r s' ↔ r = .error e ∧ s' = s) ∧
      ∀ t s', (Eval.node n f).Comes s t s' → t = .node n f ∧ s' = s := by
  intro n
  refine ⟨fun _ _ => refused_class_iff.trans refusesClass_type_iff,
    fun _ => refused_class_iff.trans refusesClass_undefinedClass_iff, fun e refused => ?_⟩
  have refuses : s.RefusesClass f name parent e := refused_class_iff.1 refused
  refine ⟨?_, fun r s' => ?_, fun t s' => Eval.comes_of_refused refused⟩
  · cases refuses with
    | notClass => exact .inl rfl
    | noParent => exact .inr rfl
  · rw [Eval.node, Eval.ends_ask_iff_perform]
    exact Eval.ends_of_done (Eval.perform_class_of_refuses refuses body)

/-- A class that is to inherit from itself is refused, and so is a class of a name that stands for
`true`. -/
theorem refused_class_selfParent : ∃ s : State, s.Reachable ∧
    s.get Core.root "K" = .nil ∧ s.get Core.root "L" = Core.bool true ∧
    (Eval.node (.defineClass "K" (some "K") [.defineMethod "m" [] []]) Core.root).Ends s
      (.error (.undefinedClass "K")) s ∧
    (Eval.node (.defineClass "L" none [.defineMethod "m" [] []]) Core.root).Ends s
      (.error (.type "class" "Boolean")) s := by
  let test (s : State) : Bool := s.get Core.root "K" == .nil
    && s.get Core.root "L" == Core.bool true && s.classNameOf (Core.bool true) == "Boolean"
  obtain ⟨s, reachable, ht⟩ :=
    exists_reachable_of_run 5 100 [.setConstant "L" .true] test (by decide +kernel)
  simp only [test, Bool.and_eq_true, beq_iff_eq] at ht
  obtain ⟨⟨free, bound⟩, called⟩ := ht
  let body : Program := [.defineMethod "m" [] []]
  obtain ⟨-, noParent, leaves⟩ := refused_class s Core.root "K" (some "K") body
  obtain ⟨notClass, -, leaves'⟩ := refused_class s Core.root "L" none body
  have missing : s.Refused Core.root (.defineClass "K" (some "K") body) (.undefinedClass "K") :=
    (noParent "K").2 ⟨free, rfl, fun c => by rw [free]; nofun⟩
  have wrong : s.Refused Core.root (.defineClass "L" none body) (.type "class" "Boolean") := by
    refine (notClass "class" "Boolean").2 ?_
    rw [bound]
    exact ⟨nofun, fun _ => nofun, rfl, called.symm⟩
  exact ⟨s, reachable, free, bound, ((leaves _ missing).2.1 _ _).2 ⟨rfl, rfl⟩,
    ((leaves' _ wrong).2.1 _ _).2 ⟨rfl, rfl⟩⟩

end State

end OpenScript
