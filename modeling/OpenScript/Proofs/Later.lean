import Mathlib.Logic.Relation
import OpenScript.Proofs.Reachable

/-!
# Proofs/Later — what stays as an interpreter goes on

    s ──change, call, probe, output taken──▸ ⋯ ──▸ s'     s' is later than s

An interpreter goes on by single changes, by entering and leaving calls and by what its host does
(`State.Next`).  All that a run passes through is later than where it starts, and so is where it
ends (`State.later_of_comes`, `State.later_of_ends`).  Later states have all places of earlier ones,
grown (`State.Later.persists`), and what no single step breaks holds in all of them
(`State.Later.keeps`).
-/

namespace OpenScript

open Discipline

namespace State

variable {s s' s'' : State}

/-- One thing that happens to an interpreter. -/
inductive Next : State → State → Prop where
  | change {s s' : State} (h : s.Change (·.In s) s') : Next s s'
  /-- A call is entered or left. -/
  | depth (s : State) (d : Nat) : Next s { s with depth := d }
  | probe (s : State) (c : ClassId) (ofClass : Bool) (name : String) (p : Probe) :
    Next s (s.defineProbe c ofClass name p)
  | drain (s : State) : Next s s.takeOutput.2

/-- A state that an interpreter can come to from another. -/
abbrev Later : State → State → Prop := Relation.ReflTransGen Next

theorem WellFormed.next (h : s.WellFormed) (hn : s.Next s') : s'.WellFormed := by
  cases hn with
  | change hc => exact (leads_of_change h hc).fits
  | depth d => exact h.depth d
  | probe c ofClass name p => exact h.defineProbe c ofClass name p
  | drain => exact h.takeOutput

theorem WellFormed.later (h : s.WellFormed) (hl : s.Later s') : s'.WellFormed := by
  induction hl with
  | refl => exact h
  | tail _ hn ih => exact ih.next hn

/-- **What no single step breaks holds later on.** -/
theorem Later.keeps {P : State → Prop} (hl : s.Later s') (h : s.WellFormed) (hs : P s)
    (hP : ∀ {s s' : State}, s.WellFormed → P s → s.Next s' → P s') : P s' := by
  induction hl with
  | refl => exact hs
  | tail hl hn ih => exact hP (h.later hl) ih hn

end State

/-! ## Runs -/

namespace Discipline

/-- Evaluation gets to later states only. -/
def later (s₀ : State) : Discipline where
  inv s := s.RolesFit ∧ s₀.Later s
  has s i := i.In s
  part _ _ := trivial
  change h hk hc :=
    have ⟨fit, stays, fresh⟩ := wellFormed.change h.1 hk hc
    ⟨⟨fit, h.2.tail (.change hc)⟩, stays, fresh⟩
  inv_depth d h := ⟨wellFormed.inv_depth d h.1, h.2.tail (.depth _ d)⟩
  has_depth := wellFormed.has_depth

theorem fits_later {s : State} (h : s.WellFormed) : (later s).Fits s := ⟨⟨h.inv, .refl⟩, h.has⟩

end Discipline

namespace State

variable {s s' : State} {α : Type} {x : Eval α} {Q : α → State → Prop} {here : Task → Prop}

theorem later_of_keeps_comes (hx : (Discipline.later s).Keeps here s x Q) {t : Task}
    (h : x.Comes s t s') : s.Later s' := (hx.of_comes h).1.inv.2

theorem later_of_keeps_ends (hx : (Discipline.later s).Keeps here s x Q) {r : Outcome α}
    (h : x.Ends s r s') : s.Later s' := (hx.of_ends h).1.fits.inv.2

/-- **A run passes through later states only.** -/
theorem later_of_comes {x : Eval Value} (h : s.WellFormed) (hx : Request s x) {t : Task}
    (ht : x.Comes s t s') : s.Later s' :=
  later_of_keeps_comes (yields_request (fits_later h) (fun _ => id) hx) ht

/-- **A run ends in a later state**, well or not. -/
theorem later_of_ends {x : Eval Value} (h : s.WellFormed) (hx : Request s x) {r : Outcome Value}
    (hr : x.Ends s r s') : s.Later s' :=
  later_of_keeps_ends (yields_request (fits_later h) (fun _ => id) hx) hr

/-- **All states that interpreters get to are later than a fresh one.** -/
theorem Reachable.later_initial (h : s.Reachable) : ∃ limit, (State.initial limit).Later s := by
  induction h with
  | fresh limit => exact ⟨limit, .refl⟩
  | change _ hc ih => exact ih.imp fun _ hl => hl.tail (.change hc)
  | probe _ c ofClass name p ih => exact ih.imp fun _ hl => hl.tail (.probe _ c ofClass name p)
  | drain _ ih => exact ih.imp fun _ hl => hl.tail (.drain _)
  | passes hs hx ht ih => exact ih.imp fun _ hl => hl.trans (later_of_comes hs.wellFormed hx ht)
  | ends hs hx hr ih => exact ih.imp fun _ hl => hl.trans (later_of_ends hs.wellFormed hx hr)

/-- **What a fresh interpreter has and no single step breaks holds wherever interpreters get.** -/
theorem Reachable.keeps {P : State → Prop} (h : s.Reachable) (hi : ∀ limit, P (State.initial limit))
    (hP : ∀ {s s' : State}, s.WellFormed → P s → s.Next s' → P s') : P s :=
  have ⟨limit, hl⟩ := h.later_initial
  hl.keeps (wellFormed_initial limit) (hi limit) hP

/-! ## Places -/

/-- All places of a state are there in another, grown, and symbols keep their names. -/
structure Persists (s s' : State) : Prop where
  classes : ArenaGrows Class.Grows s.classes s'.classes
  frames : ArenaGrows Frame.Grows s.frames s'.frames
  objects : ArenaGrows Object.Grows s.objects s'.objects
  symbols {i : SymbolId} : i < s.symbols.size →
    i < s'.symbols.size ∧ s'.symbols.resolve i = s.symbols.resolve i

theorem Grows.persists (h : s.Grows s') : s.Persists s' :=
  ⟨h.classes, h.frames, h.objects, h.symbols⟩

namespace Persists

theorem refl (s : State) : s.Persists s := (Grows.refl s).persists

theorem trans {s'' : State} (h : s.Persists s') (h' : s'.Persists s'') : s.Persists s'' where
  classes := h.classes.trans h'.classes Class.Grows.trans
  frames := h.frames.trans h'.frames Frame.Grows.trans
  objects := h.objects.trans h'.objects Object.Grows.trans
  symbols hi := by
    obtain ⟨hi', e⟩ := h.symbols hi
    obtain ⟨hi'', e'⟩ := h'.symbols hi'
    exact ⟨hi'', e'.trans e⟩

theorem classAt (h : s.Persists s') {c : ClassId} (hc : c < s.classes.size) :
    (s.classAt c).Grows (s'.classAt c) := by
  obtain ⟨y, hy, grows⟩ := h.classes c _ (Array.getElem?_eq_getElem hc)
  rw [State.classAt, State.classAt, hy, Array.getElem?_eq_getElem hc]
  exact grows

theorem frameAt (h : s.Persists s') {f : FrameId} (hf : f < s.frames.size) :
    (s.frameAt f).Grows (s'.frameAt f) := by
  obtain ⟨y, hy, grows⟩ := h.frames f _ (Array.getElem?_eq_getElem hf)
  rw [State.frameAt, State.frameAt, hy, Array.getElem?_eq_getElem hf]
  exact grows

theorem framesGrow (h : s.Persists s') {f : FrameId} (hf : f < s.frames.size) :
    s.FramesGrow s' f := fun _ hg => h.frameAt (Nat.lt_of_le_of_lt hg hf)

end Persists

theorem persists_defineProbe (s : State) (c : ClassId) (ofClass : Bool) (name : String)
    (p : Probe) : s.Persists (s.defineProbe c ofClass name p) := by
  refine Grows.persists ?_
  unfold defineProbe
  cases ofClass with
  | false => exact s.grows_defineMethod c _
  | true =>
    exact s.grows_modifyClass fun x =>
      { Class.Grows.refl x with classMethods := x.classMethods.keeps_insert name _ }

theorem Next.persists (h : s.Next s') : s.Persists s' := by
  cases h with
  | change hc => exact hc.grows.persists
  | depth d => exact Grows.persists { Grows.refl s with }
  | probe c ofClass name p => exact s.persists_defineProbe c ofClass name p
  | drain => exact ⟨(Grows.refl s).classes, (Grows.refl s).frames, (Grows.refl s).objects,
      (Grows.refl s).symbols⟩

/-- **Later states have all places of earlier ones, grown.** -/
theorem Later.persists (h : s.Later s') : s.Persists s' := by
  induction h with
  | refl => exact .refl s
  | tail _ hn ih => exact ih.trans hn.persists

end State

end OpenScript
