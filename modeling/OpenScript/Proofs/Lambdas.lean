import Mathlib.Data.List.Basic
import OpenScript.Proofs.Reachable

/-!
# Proofs/Lambdas — what a lambda reads

    run of the lambda ──captured──▸ defining frame ──captured──▸ ⋯      locals
    run of the lambda ──parent────▸ defining frame ──parent────▸ ⋯      the rest

A lambda runs in a frame of its own that has the defining frame both as what it captures and as its
parent, and the same self and class.  So apart from the parameters it reads every name as the
defining frame does (`State.lookup_enterClosure`).  The one exception are `@` names where the
defining frame is a class body: there they belong to whoever encloses the definition, while the
lambda, which is no class body, reads those of its self, the class
(`State.lookup_enterClosure_classBody`).
-/

namespace OpenScript

/-- A call binds nothing but its parameters. -/
theorem getElem?_boundLocals {p : String} {ps : List String} {vs : List Value}
    {locals : Store Value} (h : p ∉ ps) : (boundLocals locals ps vs)[p]? = locals[p]? := by
  induction ps generalizing vs locals with
  | nil => rfl
  | cons q ps ih =>
    obtain ⟨ne, h⟩ := not_or.1 (mt List.mem_cons.2 h)
    have other (v : Value) : (locals.insert q v)[p]? = locals[p]? := by
      rw [Std.TreeMap.getElem?_insert, if_neg fun e => ne (Std.LawfulEqCmp.eq_of_compare e).symm]
    cases vs with
    | nil => exact (ih h).trans (other .nil)
    | cons v vs => exact (ih h).trans (other v)

/-- A search finds the same if it looks at the same in every place. -/
theorem findSome?_congr {α β : Type} {places : List α} {look look' : α → Option β}
    (h : ∀ a ∈ places, look a = look' a) : places.findSome? look = places.findSome? look' := by
  rw [← List.head?_filterMap, List.filterMap_congr h, List.head?_filterMap]

namespace State

variable (s : State)

/-! ## One more frame -/

section AddFrame

variable {g : FrameId} (x : Frame) (name : String)

theorem ivar?_addFrame (v : Value) (key : String) :
    (s.addFrame x).2.ivar? v key = s.ivar? v key := by cases v <;> rfl

variable (hg : g < s.frames.size)
include hg

theorem local?_addFrame : (s.addFrame x).2.local? g name = s.local? g name := by
  rw [local?, local?, nearest?_eq, nearest?_eq, closureChain_of_grow (framesGrow_addFrame hg x)]
  refine findSome?_congr fun k hk => ?_
  rw [frameAt_addFrame_of_lt s (Nat.lt_of_le_of_lt (le_of_mem_closureChain hk) hg)]

/-- A frame that is added leaves the names of the others as they are. -/
theorem lookupOwn_addFrame : (s.addFrame x).2.lookupOwn g name = s.lookupOwn g name := by
  unfold lookupOwn
  dsimp only
  rw [frameAt_addFrame_of_lt s hg, local?_addFrame s x name hg, ivar?_addFrame,
    ivarOwner_of_grow (framesGrow_addFrame hg x)]
  rfl

theorem lookup_addFrame : (s.addFrame x).2.lookup g name = s.lookup g name := by
  by_cases hd : (Shape.of name).delegates = true
  · rw [lookup_of_delegates hd, lookup_of_delegates hd,
      searchPath_of_grow (framesGrow_addFrame hg x)]
    refine findSome?_congr fun k hk => ?_
    exact s.lookupOwn_addFrame x name (Nat.lt_of_le_of_lt (le_of_mem_searchPath hk) hg)
  · rw [lookup, lookup, if_neg hd, if_neg hd, s.lookupOwn_addFrame x name hg]

end AddFrame

/-! ## The frame of a lambda -/

section Lambda

variable {k : Closure} {vs : List Value} {name : String}

/-- A lambda runs in a frame that was not there before. -/
theorem enterClosure_fst (k : Closure) (vs : List Value) :
    (s.enterClosure k vs).1 = s.frames.size := rfl

theorem frameAt_enterClosure (k : Closure) (vs : List Value) :
    (s.enterClosure k vs).2.frameAt s.frames.size
      = (s.frameAt k.captured).activation k.captured "lambda" k.params vs (some k.captured) := by
  rw [enterClosure_eq, frameAt_addFrame_size]

/-- The call of a lambda leaves the names of all other frames as they are. -/
theorem lookupOwn_enterClosure_of_lt {g : FrameId} (hg : g < s.frames.size) (name : String) :
    (s.enterClosure k vs).2.lookupOwn g name = s.lookupOwn g name := by
  rw [enterClosure_eq, lookupOwn_addFrame s _ name hg]

/-- Outside class bodies the instance variables of a frame are those of its self. -/
theorem ivarOwner_of_not_classBody {f : FrameId} (hf : s.isClassBody f = false) :
    s.ivarOwner f = (s.frameAt f).self := by
  rw [ivarOwner]
  split
  · next role _ =>
    rw [isClassBody, role] at hf
    exact nomatch hf
  · rfl

variable (hc : k.captured < s.frames.size)
include hc

/-- **The closure chain of a lambda goes on where it was defined.** -/
theorem closureChain_enterClosure :
    (s.enterClosure k vs).2.closureChain s.frames.size
      = s.frames.size :: s.closureChain k.captured := by
  rw [closureChain, frameAt_enterClosure]
  dsimp only [Frame.activation, Role.captured?]
  rw [if_pos hc, enterClosure_eq, closureChain_of_grow (framesGrow_addFrame hc _)]

/-- **The search path of a lambda goes on where it was defined.** -/
theorem searchPath_enterClosure :
    (s.enterClosure k vs).2.searchPath s.frames.size
      = s.frames.size :: s.searchPath k.captured := by
  have outward : (s.enterClosure k vs).2.outward s.frames.size = [k.captured] := by
    rw [State.outward, frameAt_enterClosure]
    exact List.filter_cons_of_pos (decide_eq_true hc)
  rw [searchPath_eq, outward, List.flatMap_singleton, enterClosure_eq,
    searchPath_of_grow (framesGrow_addFrame hc _)]

theorem lookup_captured (name : String) :
    (s.enterClosure k vs).2.lookup k.captured name = s.lookup k.captured name := by
  rw [enterClosure_eq, lookup_addFrame s _ name hc]

theorem local?_enterClosure (hn : name ∉ k.params) :
    (s.enterClosure k vs).2.local? s.frames.size name = s.local? k.captured name := by
  have own : ((s.enterClosure k vs).2.frameAt s.frames.size).locals[name]? = none := by
    rw [frameAt_enterClosure]
    exact (getElem?_boundLocals hn).trans Std.TreeMap.getElem?_emptyc
  have outer := local?_addFrame s
    ((s.frameAt k.captured).activation k.captured "lambda" k.params vs (some k.captured)) name hc
  rw [local?, nearest?_eq, closureChain_of_grow (framesGrow_addFrame hc _), ← enterClosure_eq]
    at outer
  rw [local?, nearest?_eq, closureChain_enterClosure s hc, List.findSome?_cons, own, outer]

/-- What a lambda's own stores bind, besides the parameters. -/
theorem lookupOwn_enterClosure (hn : name ∉ k.params) :
    (s.enterClosure k vs).2.lookupOwn s.frames.size name =
      match Shape.of name with
      | .constant | .unknown => none
      | .localVar | .globalVar | .classVar => s.lookupOwn k.captured name
      | .instanceVar => s.ivar? (s.frameAt k.captured).self ((Shape.of name).key name) := by
  cases hs : Shape.of name with
  | constant =>
    simp only [lookupOwn, hs, frameAt_enterClosure]
    exact Std.TreeMap.getElem?_emptyc
  | localVar => simp only [lookupOwn, hs, local?_enterClosure s hc hn]
  | globalVar => simp only [lookupOwn, hs, enterClosure_eq, addFrame]
  | classVar =>
    simp only [lookupOwn, hs, frameAt_enterClosure]
    rw [enterClosure_eq]
    rfl
  | instanceVar =>
    have owner : (s.enterClosure k vs).2.ivarOwner s.frames.size = (s.frameAt k.captured).self := by
      rw [ivarOwner, frameAt_enterClosure]
      rfl
    simp only [lookupOwn, hs, owner]
    rw [enterClosure_eq, ivar?_addFrame]
  | unknown => simp only [lookupOwn, hs]

/-- **A lambda reads `@` names of its self**, which is that of the defining frame. -/
theorem lookup_enterClosure_instanceVar (hn : name ∉ k.params) (hs : Shape.of name = .instanceVar) :
    (s.enterClosure k vs).2.lookup s.frames.size name
      = s.ivar? (s.frameAt k.captured).self ((Shape.of name).key name) := by
  rw [lookup, if_neg (by rw [hs]; exact Bool.false_ne_true), lookupOwn_enterClosure s hc hn, hs]

/-- **A lambda reads all other names as the defining frame does.** -/
theorem lookup_enterClosure_of_ne (hn : name ∉ k.params) (hs : Shape.of name ≠ .instanceVar) :
    (s.enterClosure k vs).2.lookup s.frames.size name = s.lookup k.captured name := by
  have own : (s.enterClosure k vs).2.lookupOwn s.frames.size name = _ :=
    s.lookupOwn_enterClosure hc hn
  by_cases hd : (Shape.of name).delegates = true
  · -- What the lambda's own stores bind the defining frame, which is next on the path, binds alike.
    have rest : (s.searchPath k.captured).findSome?
        (fun g => (s.enterClosure k vs).2.lookupOwn g name) = s.lookup k.captured name := by
      rw [lookup_of_delegates hd]
      refine findSome?_congr fun g hg => ?_
      exact s.lookupOwn_enterClosure_of_lt (Nat.lt_of_le_of_lt (le_of_mem_searchPath hg) hc) name
    have next (v : Value) (hv : s.lookupOwn k.captured name = some v) :
        s.lookup k.captured name = some v := by
      rw [lookup_of_delegates hd, searchPath_eq, List.findSome?_cons, hv]
    rw [lookup_of_delegates hd, searchPath_enterClosure s hc, List.findSome?_cons, rest, own]
    cases hs' : Shape.of name with
    | constant | unknown => rfl
    | localVar | globalVar | classVar =>
      cases hv : s.lookupOwn k.captured name with
      | none => rfl
      | some v => exact (next v hv).symm
    | instanceVar => exact absurd hs' hs
  · rw [lookup, lookup, if_neg hd, if_neg hd, own]
    cases hs' : Shape.of name with
    | classVar => rfl
    | instanceVar => exact absurd hs' hs
    | constant | localVar | globalVar | unknown => exact absurd (by rw [hs']; rfl) hd

/-- **A lambda reads names as its defining frame does**, parameters apart, in whatever frame it was
defined and whatever it is called with: locals, through any number of captured frames, constants,
globals and class variables.  The instance variables it reads are those of the self it has from the
defining frame, which are the same unless that frame is a class body. -/
theorem lookup_enterClosure (hn : name ∉ k.params) :
    (s.enterClosure k vs).2.lookup k.captured name = s.lookup k.captured name ∧
    (Shape.of name ≠ .instanceVar ∨ s.isClassBody k.captured = false →
      (s.enterClosure k vs).2.lookup (s.enterClosure k vs).1 name = s.lookup k.captured name) ∧
    (Shape.of name = .instanceVar →
      (s.enterClosure k vs).2.lookup (s.enterClosure k vs).1 name
        = s.ivar? (s.frameAt k.captured).self ((Shape.of name).key name)) := by
  rw [enterClosure_fst]
  refine ⟨s.lookup_captured hc name, fun h => ?_, s.lookup_enterClosure_instanceVar hc hn⟩
  by_cases hs : Shape.of name = .instanceVar
  · have plain : s.isClassBody k.captured = false := h.resolve_left (absurd hs)
    have outer : s.lookup k.captured name
        = s.ivar? (s.ivarOwner k.captured) ((Shape.of name).key name) := by
      rw [lookup, if_neg (by rw [hs]; exact Bool.false_ne_true), lookupOwn]
      simp only [hs]
    rw [s.lookup_enterClosure_instanceVar hc hn hs, outer, s.ivarOwner_of_not_classBody plain]
  · exact s.lookup_enterClosure_of_ne hc hn hs

end Lambda

/-- Makes a lambda and calls it. -/
def nesting : Program :=
  [.setLocal "outer" (.lambda ["x"] [.lambda ["y"] [.getLocal "x"]]),
    .call (some (.getLocal "outer")) "call" [.int 7]]

/-- A lambda that is made in the run of another, frame 10, reads the parameter of that one. -/
theorem lookup_enterClosure_nesting : ∃ (s : State) (v : Value), s.Reachable ∧
    10 < s.frames.size ∧ "x" ∉ ["y"] ∧
    s.lookup 10 "x" = some v ∧
    (s.enterClosure ⟨["y"], [], 10⟩ []).2.lookup (s.enterClosure ⟨["y"], [], 10⟩ []).1 "x"
      = some v := by
  let test (s : State) : Bool := decide (10 < s.frames.size) && (s.lookup 10 "x").isSome
  obtain ⟨s, reachable, ht⟩ := exists_reachable_of_run 5 100 nesting test (by decide +kernel)
  obtain ⟨there, bound⟩ := Bool.and_eq_true_iff.1 ht
  obtain ⟨v, hv⟩ := Option.isSome_iff_exists.1 bound
  have hc : 10 < s.frames.size := of_decide_eq_true there
  have fresh : "x" ∉ (⟨["y"], [], 10⟩ : Closure).params := by decide
  obtain ⟨-, reads, -⟩ := s.lookup_enterClosure (k := ⟨["y"], [], 10⟩) hc fresh
  exact ⟨s, v, reachable, hc, fresh, hv, (reads (.inl (by decide))).trans hv⟩

/-- Writes an instance variable in a class body. -/
def writingInBody : Program := [.defineClass "K" none [.setInstanceVar "@x" (.int 1)]]

/-- **In a class body a lambda does not read `@` names as the body does**: frame 10 is the body of a
class, whose `@x` is that of the enclosing self; the lambda reads that of the class. -/
theorem lookup_enterClosure_classBody : ∃ s : State, s.Reachable ∧ 10 < s.frames.size ∧
    s.isClassBody 10 = true ∧ "@x" ∉ ([] : List String) ∧ s.lookup 10 "@x" ≠ none ∧
    (s.enterClosure ⟨[], [], 10⟩ []).2.lookup (s.enterClosure ⟨[], [], 10⟩ []).1 "@x" = none := by
  let read (s : State) : Option Value :=
    (s.enterClosure ⟨[], [], 10⟩ []).2.lookup (s.enterClosure ⟨[], [], 10⟩ []).1 "@x"
  let test (s : State) : Bool := decide (10 < s.frames.size ∧ s.isClassBody 10 = true ∧
    (s.lookup 10 "@x").isSome ∧ (read s).isNone)
  obtain ⟨s, reachable, ht⟩ := exists_reachable_of_run 5 100 writingInBody test (by decide +kernel)
  obtain ⟨hc, body, outer, own⟩ := of_decide_eq_true ht
  exact ⟨s, reachable, hc, body, List.not_mem_nil, Option.isSome_iff_ne_none.1 outer,
    Option.isNone_iff_eq_none.1 own⟩

end State

end OpenScript
