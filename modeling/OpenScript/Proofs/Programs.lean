import OpenScript.Proofs.Reachable

/-!
# Proofs/Programs — where programs of one kind get to

    fresh ──host, programs made of `p` nodes──▸ s      methods and lambdas of s: made of them too

Code that is stored in a state was written in some program.  So if all nodes of all programs that an
interpreter is given have a property, so have those of its methods and lambdas
(`State.ReachedBy.everywhere`).
-/

namespace OpenScript

open Discipline

variable {p : Node → Prop} {s s' : State}

/-- What a host can run in a state if all nodes of its programs have a property. -/
inductive RequestOf (p : Node → Prop) (s : State) : Eval Value → Prop where
  | program {ns : Program} (hp : ∀ n ∈ ns, n.Everywhere p) {f : FrameId} (hf : f < s.frames.size) :
    RequestOf p s (Eval.programIn ns f)
  | send {v : Value} (name : String) {vs : List Value} {f : FrameId} (hv : (Item.value v).In s)
    (hvs : ∀ w ∈ vs, (Item.value w).In s) (hf : f < s.frames.size) :
    RequestOf p s (Eval.send v name vs f)
  | apply {v : Value} {c : Closure} {vs : List Value} (hc : s.closure? v = some c)
    (hvs : ∀ w ∈ vs, (Item.value w).In s) : RequestOf p s (Eval.applyClosure c vs)

theorem RequestOf.request {x : Eval Value} (h : RequestOf p s x) : Request s x := by
  cases h with
  | program _ hf => exact .program _ hf
  | send name hv hvs hf => exact .send name hv hvs hf
  | apply hc hvs => exact .apply hc hvs

/-- If the item is code, all its nodes have a property. -/
def Item.IsMadeOf (p : Node → Prop) : Item → Prop
  | .code n => n.Everywhere p
  | .value _ | .frame _ => True

/-- A state that an interpreter can get to if all nodes of its programs have a property. -/
inductive State.ReachedBy (p : Node → Prop) : State → Prop where
  | fresh (limit : Nat) : ReachedBy p (State.initial limit)
  | change {s s' : State} (h : ReachedBy p s) (hc : s.Change (fun i => i.In s ∧ i.IsMadeOf p) s') :
    ReachedBy p s'
  | probe {s : State} (h : ReachedBy p s) (c : ClassId) (ofClass : Bool) (name : String)
    (probe : Probe) : ReachedBy p (s.defineProbe c ofClass name probe)
  | drain {s : State} (h : ReachedBy p s) : ReachedBy p s.takeOutput.2
  | passes {s s' : State} {x : Eval Value} {t : Task} (h : ReachedBy p s) (hx : RequestOf p s x)
    (ht : x.Comes s t s') : ReachedBy p s'
  | ends {s s' : State} {x : Eval Value} {r : Outcome Value} (h : ReachedBy p s)
    (hx : RequestOf p s x) (hr : x.Ends s r s') : ReachedBy p s'

namespace Discipline

/-- All nodes of all code have a property. -/
def madeOf (p : Node → Prop) : Discipline where
  inv _ := True
  has _ i := i.IsMadeOf p
  part h hm := h.part hm
  change _ _ _ := by
    refine ⟨trivial, fun _ => id, fun i hi => ?_⟩
    cases i with
    | code n => exact hi.elim
    | _ => trivial
  inv_depth _ := id
  has_depth _ := id

theorem fits_madeOf (h : ∀ n, s.Holds (.code n) → n.Everywhere p) : (madeOf p).Fits s := by
  refine ⟨trivial, fun {i} hi => ?_⟩
  cases i with
  | code n =>
    rcases hi with hi | hi
    · exact nomatch hi
    · exact h n hi
  | _ => trivial

theorem Fits.everywhere (h : (madeOf p).Fits s) {n : Node} (hn : s.Holds (.code n)) :
    n.Everywhere p := h.has (i := .code n) (.inr hn)

/-- What a host runs keeps to every discipline that lets it handle what there is and code whose
nodes have the property. -/
theorem yields_requestOf {D : Discipline} {x : Eval Value} (h : D.Fits s)
    (has : ∀ i : Item, i.In s → i.IsMadeOf p → D.has s i) (hx : RequestOf p s x) :
    D.Yields (fun _ => True) s x := by
  cases hx with
  | program hp hf =>
    refine (keeps_statements h (fun n hn => has (.code n) trivial (hp n hn)) (has _ hf trivial)
      fun _ _ => trivial).bind ?_
    exact fun _ _ leads hv => keeps_pure leads.fits hv
  | send name hv hvs hf =>
    exact keeps_send h (has _ hv trivial) (fun w hw => has _ (hvs w hw) trivial)
      (has _ hf trivial) trivial
  | apply hc hvs =>
    obtain ⟨captured, body⟩ := State.known_closure? hc
    exact yields_applyClosure h (h.has captured) (fun n hn => h.has (body n hn))
      fun w hw => has _ (hvs w hw) trivial

end Discipline

namespace State

namespace ReachedBy

theorem reachable (h : s.ReachedBy p) : s.Reachable := by
  induction h with
  | fresh limit => exact .fresh limit
  | change _ hc ih => exact ih.change (hc.mono fun _ => And.left)
  | probe _ c ofClass name probe ih => exact ih.probe c ofClass name probe
  | drain _ ih => exact ih.drain
  | passes _ hx ht ih => exact ih.passes hx.request ht
  | ends _ hx hr ih => exact ih.ends hx.request hr

/-- **All code that is stored comes from programs.** -/
theorem everywhere (h : s.ReachedBy p) {n : Node} (hn : s.Holds (.code n)) : n.Everywhere p := by
  suffices (madeOf p).Fits s from this.everywhere hn
  clear hn
  induction h with
  | fresh limit => exact fits_madeOf fun _ hn => absurd hn not_holds_code_initial
  | change _ hc ih => exact (leads_of_change ih (hc.mono fun _ => And.right)).fits
  | probe _ c ofClass name probe ih =>
    exact fits_madeOf fun _ hn => ih.has (known_of_defineProbe hn)
  | drain _ ih => exact fits_madeOf fun _ hn => ih.everywhere (hn.of_eq rfl rfl rfl rfl)
  | passes _ hx ht ih => exact ((yields_requestOf ih (fun _ _ => id) hx).of_comes ht).1
  | ends _ hx hr ih => exact ((yields_requestOf ih (fun _ _ => id) hx).of_ends hr).1.fits

end ReachedBy

/-- What a fresh interpreter is seen to be like after a program is reached by such programs. -/
theorem exists_reachedBy_of_run (limit fuel : Nat) {ns : Program} (hp : ∀ n ∈ ns, n.Everywhere p)
    (test : State → Bool)
    (h : ((Eval.programIn ns Core.root).run fuel (State.initial limit)).any (fun q => test q.2)
      = true) : ∃ s : State, s.ReachedBy p ∧ test s = true := by
  obtain ⟨r, s, he, ht⟩ := Eval.exists_ends_of_run fuel (fun _ s => test s) h
  exact ⟨s, (ReachedBy.fresh limit).ends (.program hp (root_lt_size_initial limit)) he, ht⟩

end State

end OpenScript
