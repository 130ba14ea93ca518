import OpenScript.Host
import OpenScript.Proofs.WellFormed

/-!
# Proofs/Reachable — where interpreters get to

    fresh ──host: change, probe, take the output──▸ s ──run: pass through, end──▸ s'

A host makes an interpreter, changes its state and runs code in it, as often and in whatever order
it likes; natives are hosts too, which act while code runs.  The states that come about this way are
reachable, and all of them are well-formed (`State.Reachable.wellFormed`).
-/

namespace OpenScript

open Discipline

variable {s s' : State}

/-- What a host can run in a state. -/
inductive Request (s : State) : Eval Value → Prop where
  | program (p : Program) {f : FrameId} (hf : f < s.frames.size) : Request s (Eval.programIn p f)
  | send {v : Value} (name : String) {vs : List Value} {f : FrameId} (hv : (Item.value v).In s)
    (hvs : ∀ w ∈ vs, (Item.value w).In s) (hf : f < s.frames.size) :
    Request s (Eval.send v name vs f)
  | apply {v : Value} {c : Closure} {vs : List Value} (hc : s.closure? v = some c)
    (hvs : ∀ w ∈ vs, (Item.value w).In s) : Request s (Eval.applyClosure c vs)

/-- A state that an interpreter can get to. -/
inductive State.Reachable : State → Prop where
  | fresh (limit : Nat) : Reachable (State.initial limit)
  /-- The host changes a state as code does: it boxes data, sets instance variables, binds names. -/
  | change {s s' : State} (h : Reachable s) (hc : s.Change (·.In s) s') : Reachable s'
  | probe {s : State} (h : Reachable s) (c : ClassId) (ofClass : Bool) (name : String) (p : Probe) :
    Reachable (s.defineProbe c ofClass name p)
  | drain {s : State} (h : Reachable s) : Reachable s.takeOutput.2
  /-- A run comes to a task. -/
  | passes {s s' : State} {x : Eval Value} {t : Task} (h : Reachable s) (hx : Request s x)
    (ht : x.Comes s t s') : Reachable s'
  /-- A run ends, well or not. -/
  | ends {s s' : State} {x : Eval Value} {r : Outcome Value} (h : Reachable s) (hx : Request s x)
    (hr : x.Ends s r s') : Reachable s'

/-- What a fresh interpreter is seen to be like after a program is reachable. -/
theorem State.exists_reachable_of_run (limit fuel : Nat) (p : Program) (test : State → Bool)
    (h : ((Eval.programIn p Core.root).run fuel (State.initial limit)).any (fun q => test q.2)
      = true) : ∃ s : State, s.Reachable ∧ test s = true := by
  obtain ⟨r, s, he, ht⟩ := Eval.exists_ends_of_run fuel (fun _ s => test s) h
  exact ⟨s, (Reachable.fresh limit).ends (.program p (root_lt_size_initial limit)) he, ht⟩

/-! ## The host's own changes -/

namespace Class

variable {x : Class} {name : String} {p : Probe} {i : Item}

/-- A probe is no code. -/
theorem has_of_insertProbe {t : Store Method} {m : Method} {n : Node} (hn : n ∈ m.statements)
    (hm : Store.Has (t.insert name ⟨name, .native (.probe p)⟩) m) : Store.Has t m := by
  rcases Store.has_of_insert hm with rfl | hm
  · exact absurd hn List.not_mem_nil
  · exact hm

theorem holds_of_insertProbe
    (h : { x with methods := x.methods.insert name ⟨name, .native (.probe p)⟩ }.Holds i) :
    x.Holds i := by
  cases i with
  | value | frame => exact h
  | code n =>
    obtain ⟨m, hm, hn⟩ := h
    exact ⟨m, hm.imp_left (has_of_insertProbe hn), hn⟩

theorem holds_of_insertClassProbe
    (h : { x with classMethods := x.classMethods.insert name ⟨name, .native (.probe p)⟩ }.Holds i) :
    x.Holds i := by
  cases i with
  | value | frame => exact h
  | code n =>
    obtain ⟨m, hm, hn⟩ := h
    exact ⟨m, hm.imp_right (has_of_insertProbe hn), hn⟩

end Class

namespace State

variable {c : ClassId} {update : Class → Class}

/-- An update of a class that adds nothing to handle leaves a state well-formed. -/
theorem WellFormed.modifyClass (h : s.WellFormed) (hb : ∀ x : Class, (update x).frame = x.frame)
    (hu : ∀ {x : Class} {i : Item}, (update x).Holds i → x.Holds i) :
    (s.modifyClass c update).WellFormed := by
  have size : s.classes.size = (s.modifyClass c update).classes.size := Array.size_modify.symm
  have fit := h.inv
  refine ⟨⟨size ▸ fit.classes, fit.objects, fit.rootIn, fit.root, fun hf => ?_, fit.space,
    fit.captured⟩, fun {i} hi => ?_⟩
  · exact fit.body (isBody_modifyClass hf hb)
  · have known : s.Known i := by
      rcases hi with hi | hi
      · exact .inl hi
      · exact (known_or_of_modifyClass (P := fun _ => False) (fun h => .inl (hu h)) hi).elim id
          False.elim
    exact Item.In.of_size_le (h.has known) (Nat.le_of_eq size) (Nat.le_refl _) (Nat.le_refl _)

theorem WellFormed.defineProbe (h : s.WellFormed) (c : ClassId) (ofClass : Bool) (name : String)
    (p : Probe) : (s.defineProbe c ofClass name p).WellFormed := by
  unfold State.defineProbe
  cases ofClass with
  | true => exact h.modifyClass (fun _ => rfl) Class.holds_of_insertClassProbe
  | false => exact h.modifyClass (fun _ => rfl) Class.holds_of_insertProbe

/-- Installing a probe stores no code. -/
theorem known_of_defineProbe {ofClass : Bool} {name : String} {p : Probe} {i : Item}
    (h : (s.defineProbe c ofClass name p).Holds i) : s.Known i := by
  unfold State.defineProbe at h
  cases ofClass with
  | true =>
    exact (known_or_of_modifyClass (P := fun _ => False)
      (fun h => .inl (Class.holds_of_insertClassProbe h)) h).elim id False.elim
  | false =>
    exact (known_or_of_modifyClass (P := fun _ => False)
      (fun h => .inl (Class.holds_of_insertProbe h)) h).elim id False.elim

theorem WellFormed.takeOutput (h : s.WellFormed) : s.takeOutput.2.WellFormed := by
  have fit := h.inv
  refine ⟨⟨fit.classes, fit.objects, fit.rootIn, fit.root, fit.body, fit.space, fit.captured⟩,
    fun {i} hi => ?_⟩
  have known : s.Known i := hi.imp_right (·.of_eq rfl rfl rfl rfl)
  exact (h.has known).of_size_le (Nat.le_refl _) (Nat.le_refl _) (Nat.le_refl _)

/-! ## Runs -/

/-- What a host runs keeps to every discipline that lets it handle what there is. -/
theorem yields_request {D : Discipline} {x : Eval Value} (h : D.Fits s)
    (has : ∀ i : Item, i.In s → D.has s i) (hx : Request s x) : D.Yields (fun _ => True) s x := by
  cases hx with
  | program p hf =>
    have code (n : Node) : D.has s (.code n) := has (.code n) trivial
    refine (keeps_statements h (fun n _ => code n) (has _ hf) fun _ _ => trivial).bind ?_
    exact fun _ _ leads hv => keeps_pure leads.fits hv
  | send name hv hvs hf =>
    exact keeps_send h (has _ hv) (fun w hw => has _ (hvs w hw)) (has _ hf) trivial
  | apply hc hvs =>
    have code (n : Node) : D.has s (.code n) := has (.code n) trivial
    exact yields_applyClosure h (h.has (known_closure? hc).1) (fun n _ => code n)
      fun w hw => has _ (hvs w hw)

/-- **Interpreters get to well-formed states only.** -/
theorem Reachable.wellFormed (h : s.Reachable) : s.WellFormed := by
  induction h with
  | fresh limit => exact wellFormed_initial limit
  | change _ hc ih => exact (leads_of_change ih hc).fits
  | probe _ c ofClass name p ih => exact ih.defineProbe c ofClass name p
  | drain _ ih => exact ih.takeOutput
  | passes _ hx ht ih => exact ((yields_request ih (fun _ => id) hx).of_comes ht).1
  | ends _ hx hr ih => exact ((yields_request ih (fun _ => id) hx).of_ends hr).1.fits

end State

end OpenScript
