import OpenScript.Proofs.Entries
import OpenScript.Proofs.Sessions

/-!
# Proofs/Sparing — where programs get to that leave some names alone

    fresh ──programs and probes that define none of the names──▸ s      tables: as at the start

If no program defines methods of certain names and the host installs no probe under them
(`State.ReachedSparing`), all tables have under these names what a fresh interpreter has there
(`State.ReachedSparing.asFresh`).
-/

namespace OpenScript

open Discipline

/-- A node that defines no method of the names. -/
def Node.Spares (names : List String) (n : Node) : Prop := ∀ name ∈ names, name ∉ n.definedNames

instance (names : List String) : DecidablePred (Node.Spares names) :=
  fun n => inferInstanceAs (Decidable (∀ name ∈ names, name ∉ n.definedNames))

variable {names : List String} {s s' : State}

namespace State

/-- A state that an interpreter can get to if neither its programs nor its host define methods of
the names. -/
inductive ReachedSparing (names : List String) : State → Prop where
  | fresh (limit : Nat) : ReachedSparing names (State.initial limit)
  | change {s s' : State} (h : ReachedSparing names s)
    (hc : s.Change (fun i => i.In s ∧ i.IsMadeOf (Node.Spares names)) s') : ReachedSparing names s'
  | probe {s : State} (h : ReachedSparing names s) (c : ClassId) (ofClass : Bool) {name : String}
    (hn : name ∉ names) (p : Probe) : ReachedSparing names (s.defineProbe c ofClass name p)
  | drain {s : State} (h : ReachedSparing names s) : ReachedSparing names s.takeOutput.2
  | passes {s s' : State} {x : Eval Value} {t : Task} (h : ReachedSparing names s)
    (hx : RequestOf (Node.Spares names) s x) (ht : x.Comes s t s') : ReachedSparing names s'
  | ends {s s' : State} {x : Eval Value} {r : Outcome Value} (h : ReachedSparing names s)
    (hx : RequestOf (Node.Spares names) s x) (hr : x.Ends s r s') : ReachedSparing names s'

theorem ReachedSparing.reachedBy (h : s.ReachedSparing names) :
    s.ReachedBy (Node.Spares names) := by
  induction h with
  | fresh limit => exact .fresh limit
  | change _ hc ih => exact ih.change hc
  | probe _ c ofClass _ p ih => exact ih.probe c ofClass _ p
  | drain _ ih => exact ih.drain
  | passes _ hx ht ih => exact ih.passes hx ht
  | ends _ hx hr ih => exact ih.ends hx hr

/-- What a fresh interpreter is seen to be like after a program that spares the names. -/
theorem exists_reachedSparing_of_run (names : List String) (limit fuel : Nat) (p : Program)
    (test : State → Bool) (hp : p.all (Node.holdsTo (Node.Spares names) fuel) = true)
    (h : ((Eval.programIn p Core.root).run fuel (State.initial limit)).any (fun q => test q.2)
      = true) : ∃ s : State, s.ReachedSparing names ∧ test s = true := by
  obtain ⟨r, s, he, ht⟩ := Eval.exists_ends_of_run fuel (fun _ s => test s) h
  have spares (n : Node) (hn : n ∈ p) : n.Everywhere (Node.Spares names) :=
    Node.everywhere_of_holdsTo (List.all_eq_true.1 hp n hn)
  exact ⟨s, (ReachedSparing.fresh limit).ends (.program spares (root_lt_size_initial limit)) he, ht⟩

/-- All tables have under the names what a fresh interpreter has there. -/
def AsFresh (names : List String) (s : State) : Prop :=
  ∀ name ∈ names, ∀ c,
    (s.classAt c).methods[name]? = ((State.initial 0).classAt c).methods[name]? ∧
    (s.classAt c).classMethods[name]? = ((State.initial 0).classAt c).classMethods[name]?

namespace AsFresh

theorem change {has : Item → Prop} (h : s.AsFresh names) (hc : s.Change has s')
    (spares : ∀ n, has (.code n) → n.Spares names) : s'.AsFresh names := by
  intro name hname c
  refine ⟨?_, ?_⟩
  · rcases hc.method_or c name with e | ⟨n, -, hn, defined, -⟩
    · exact e.trans (h name hname c).1
    · exact absurd defined (spares n hn name hname)
  · rw [hc.classMethods]
    exact (h name hname c).2

theorem probe (h : s.AsFresh names) (d : ClassId) (ofClass : Bool) {k : String} (hk : k ∉ names)
    (p : Probe) : (s.defineProbe d ofClass k p).AsFresh names := by
  intro name hname c
  have other : name ≠ k := fun e => hk (e ▸ hname)
  refine ⟨?_, ?_⟩
  · rcases method_defineProbe ofClass p k with e | ⟨e, -⟩
    · exact e.trans (h name hname c).1
    · exact absurd e other
  · exact (classMethod_defineProbe_of_ne ofClass p other).trans (h name hname c).2

end AsFresh

end State

namespace Discipline

/-- Evaluation of nodes that spare the names leaves what stands under them. -/
def sparing (names : List String) : Discipline where
  inv s := s.RolesFit ∧ s.AsFresh names
  has s i := i.In s ∧ i.IsMadeOf (Node.Spares names)
  part h hm := ⟨trivial, h.2.part hm⟩
  change h known hc := by
    obtain ⟨fit, stays, fresh⟩ :=
      wellFormed.change h.1 (fun i hi => (known i hi).1) (hc.mono fun _ => And.left)
    obtain ⟨-, stays', fresh'⟩ :=
      (madeOf (Node.Spares names)).change trivial (fun i hi => (known i hi).2)
        (hc.mono fun _ => And.right)
    have tables := h.2.change hc fun n hn => Node.Everywhere.self hn.2
    exact ⟨⟨fit, tables⟩, fun i hi => ⟨stays i hi.1, stays' i hi.2⟩,
      fun i hi => ⟨fresh i hi, fresh' i hi⟩⟩
  inv_depth d h := ⟨wellFormed.inv_depth d h.1, h.2⟩
  has_depth d h := ⟨wellFormed.has_depth d h.1, h.2⟩

end Discipline

namespace State.ReachedSparing

theorem fits (h : s.ReachedSparing names) (fresh : s.AsFresh names) :
    (Discipline.sparing names).Fits s :=
  have by_ := h.reachedBy.fitsBy
  ⟨⟨by_.wellFormed.inv, fresh⟩, fun hi => ⟨by_.wellFormed.has hi, by_.made.has hi⟩⟩

/-- **Names that nobody defines stand for what they stood for at the start.** -/
theorem asFresh (h : s.ReachedSparing names) : s.AsFresh names := by
  induction h with
  | fresh limit =>
    intro name _ c
    rw [initial_eq, (alike_withLimit _ limit).classAt]
    exact ⟨rfl, rfl⟩
  | change h hc ih => exact ih.change hc fun n hn => Node.Everywhere.self hn.2
  | probe _ c ofClass hn p ih => exact ih.probe c ofClass hn p
  | drain _ ih => exact ih
  | passes h hx ht ih =>
    exact ((yields_requestOf (h.fits ih) (fun _ => And.intro) hx).of_comes ht).1.inv.2
  | ends h hx hr ih =>
    exact ((yields_requestOf (h.fits ih) (fun _ => And.intro) hx).of_ends hr).1.fits.inv.2

end State.ReachedSparing

end OpenScript
