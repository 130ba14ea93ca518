import OpenScript.Proofs.Later
import OpenScript.Proofs.Programs

/-!
# Proofs/Sessions — what stays while programs of one kind run

    s ──change by `p` nodes, call, probe, output taken──▸ ⋯ ──▸ s'

If all nodes of all programs have a property, an interpreter goes on in fewer ways
(`State.NextBy`): whatever code makes a change has the property too.  Runs of such programs pass
through later states only and end in one (`State.FitsBy.laterBy_of_comes`,
`State.FitsBy.laterBy_of_ends`), so what no such step breaks holds wherever they get
(`State.ReachedBy.keeps`).
-/

namespace OpenScript

open Discipline

variable {p : Node → Prop} {s s' : State}

namespace State

/-- One thing that happens to an interpreter if all nodes of its programs have a property. -/
inductive NextBy (p : Node → Prop) : State → State → Prop where
  | change {s s' : State} (h : s.Change (fun i => i.In s ∧ i.IsMadeOf p) s') : NextBy p s s'
  /-- A call is entered or left. -/
  | depth (s : State) (d : Nat) : NextBy p s { s with depth := d }
  | probe (s : State) (c : ClassId) (ofClass : Bool) (name : String) (probe : Probe) :
    NextBy p s (s.defineProbe c ofClass name probe)
  | drain (s : State) : NextBy p s s.takeOutput.2

/-- A state that an interpreter can come to from another if all nodes of its programs have a
property. -/
abbrev LaterBy (p : Node → Prop) : State → State → Prop := Relation.ReflTransGen (NextBy p)

theorem NextBy.next (h : s.NextBy p s') : s.Next s' := by
  cases h with
  | change hc => exact .change (hc.mono fun _ => And.left)
  | depth d => exact .depth s d
  | probe c ofClass name probe => exact .probe s c ofClass name probe
  | drain => exact .drain s

namespace LaterBy

theorem later (h : s.LaterBy p s') : s.Later s' :=
  Relation.ReflTransGen.mono (fun _ _ hn => hn.next) _ _ h

theorem persists (h : s.LaterBy p s') : s.Persists s' := h.later.persists

/-- **What no single step of such programs breaks holds later on.** -/
theorem keeps {P : State → Prop} (hl : s.LaterBy p s') (h : s.WellFormed) (hs : P s)
    (hP : ∀ {s s' : State}, s.WellFormed → P s → s.NextBy p s' → P s') : P s' := by
  induction hl with
  | refl => exact hs
  | tail hl hn ih => exact hP (h.later (later hl)) ih hn

end LaterBy

/-- A well-formed state whose stored code is made of nodes with a property. -/
structure FitsBy (p : Node → Prop) (s : State) : Prop where
  wellFormed : s.WellFormed
  made : (madeOf p).Fits s

/-- **No step of such programs breaks a state.** -/
theorem FitsBy.next (h : s.FitsBy p) (hn : s.NextBy p s') : s'.FitsBy p := by
  refine ⟨h.wellFormed.next hn.next, ?_⟩
  cases hn with
  | change hc => exact (leads_of_change h.made (hc.mono fun _ => And.right)).fits
  | depth d => exact h.made.depth d
  | probe c ofClass name probe =>
    exact fits_madeOf fun _ hn => h.made.has (known_of_defineProbe hn)
  | drain => exact fits_madeOf fun _ hn => h.made.everywhere (hn.of_eq rfl rfl rfl rfl)

theorem FitsBy.later (h : s.FitsBy p) (hl : s.LaterBy p s') : s'.FitsBy p := by
  induction hl with
  | refl => exact h
  | tail _ hn ih => exact ih.next hn

theorem ReachedBy.fitsBy (h : s.ReachedBy p) : s.FitsBy p :=
  ⟨h.reachable.wellFormed, fits_madeOf fun _ => h.everywhere⟩

end State

/-! ## Runs -/

namespace Discipline

/-- Evaluation of nodes with a property gets to states that such programs get to. -/
def laterBy (p : Node → Prop) (s₀ : State) : Discipline where
  inv s := s.RolesFit ∧ s₀.LaterBy p s
  has s i := i.In s ∧ i.IsMadeOf p
  part h hm := ⟨trivial, h.2.part hm⟩
  change h known hc := by
    obtain ⟨fit, stays, fresh⟩ :=
      wellFormed.change h.1 (fun i hi => (known i hi).1) (hc.mono fun _ => And.left)
    obtain ⟨-, stays', fresh'⟩ :=
      (madeOf p).change trivial (fun i hi => (known i hi).2) (hc.mono fun _ => And.right)
    exact ⟨⟨fit, h.2.tail (.change hc)⟩, fun i hi => ⟨stays i hi.1, stays' i hi.2⟩,
      fun i hi => ⟨fresh i hi, fresh' i hi⟩⟩
  inv_depth d h := ⟨wellFormed.inv_depth d h.1, h.2.tail (.depth _ d)⟩
  has_depth d h := ⟨wellFormed.has_depth d h.1, h.2⟩

theorem fits_laterBy (h : s.FitsBy p) : (laterBy p s).Fits s :=
  ⟨⟨h.wellFormed.inv, .refl⟩, fun hi => ⟨h.wellFormed.has hi, h.made.has hi⟩⟩

end Discipline

namespace State

namespace FitsBy

variable (h : s.FitsBy p)
include h

theorem keeps_statements {ns : Program} (hp : ∀ n ∈ ns, n.Everywhere p) {f : FrameId}
    (hf : f < s.frames.size) :
    (Discipline.laterBy p s).Keeps (fun _ => True) s (Eval.statements ns f)
      fun flow s' => (Discipline.laterBy p s).has s' (.value flow.value) :=
  Discipline.keeps_statements (fits_laterBy h) (fun n hn => ⟨trivial, hp n hn⟩) ⟨hf, trivial⟩
    fun _ _ => trivial

/-- Statements made of such nodes end in a later state, well or not. -/
theorem laterBy_of_ends_statements {ns : Program} (hp : ∀ n ∈ ns, n.Everywhere p) {f : FrameId}
    (hf : f < s.frames.size) {r : Outcome Flow} (hr : (Eval.statements ns f).Ends s r s') :
    s.LaterBy p s' := ((h.keeps_statements hp hf).of_ends hr).1.fits.inv.2

theorem yields {x : Eval Value} (hx : RequestOf p s x) :
    (Discipline.laterBy p s).Yields (fun _ => True) s x :=
  yields_requestOf (fits_laterBy h) (fun _ => And.intro) hx

/-- **A run of such programs passes through later states only.** -/
theorem laterBy_of_comes {x : Eval Value} (hx : RequestOf p s x) {t : Task}
    (ht : x.Comes s t s') : s.LaterBy p s' := ((h.yields hx).of_comes ht).1.inv.2

/-- **A run of such programs ends in a later state**, well or not. -/
theorem laterBy_of_ends {x : Eval Value} (hx : RequestOf p s x) {r : Outcome Value}
    (hr : x.Ends s r s') : s.LaterBy p s' := ((h.yields hx).of_ends hr).1.fits.inv.2

end FitsBy

namespace ReachedBy

/-- All states that such programs get to are later than a fresh one. -/
theorem laterBy_initial (h : s.ReachedBy p) : ∃ limit, (State.initial limit).LaterBy p s := by
  induction h with
  | fresh limit => exact ⟨limit, .refl⟩
  | change _ hc ih => exact ih.imp fun _ hl => hl.tail (.change hc)
  | probe _ c ofClass name probe ih =>
    exact ih.imp fun _ hl => hl.tail (.probe _ c ofClass name probe)
  | drain _ ih => exact ih.imp fun _ hl => hl.tail (.drain _)
  | passes hs hx ht ih => exact ih.imp fun _ hl => hl.trans (hs.fitsBy.laterBy_of_comes hx ht)
  | ends hs hx hr ih => exact ih.imp fun _ hl => hl.trans (hs.fitsBy.laterBy_of_ends hx hr)

/-- **What a fresh interpreter has and no step of such programs breaks holds wherever they get.** -/
theorem keeps {P : State → Prop} (h : s.ReachedBy p) (hi : ∀ limit, P (State.initial limit))
    (hP : ∀ {s s' : State}, s.WellFormed → P s → s.NextBy p s' → P s') : P s :=
  have ⟨limit, hl⟩ := h.laterBy_initial
  hl.keeps (wellFormed_initial limit) (hi limit) hP

end ReachedBy

end State

end OpenScript
