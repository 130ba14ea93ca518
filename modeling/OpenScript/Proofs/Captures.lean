import OpenScript.Proofs.Privacy

/-!
# Proofs/Captures — a write through nested closures lands where reads come from

    f ──captured──▸ c₁ ──captured──▸ ⋯ ──▸ g ──captured──▸ ⋯ ──▸ cₖ
    ╰────────── do not bind n ───────╯     ╰ binds n: read, and written

Reading a local goes along the captured frames and takes the first that binds it; writing goes along
the same frames to find its place.  Both stop at the same frame (`State.set_captures`): the nearest
that binds the local.  If there is none, the write makes a local of the frame it is written from.
After it, all frames from there up to the place that was written read what was written.
-/

namespace OpenScript.State

variable {s s' : State} {f g : FrameId} {cs before after : List FrameId} {n : String} {v : Value}

/-! ## Captured frames -/

/-- The frames that a frame gets at by capturing, nearest first: each is captured by the frame
before it, which was made later, and the last captures none. -/
inductive Captures (s : State) : FrameId → List FrameId → Prop where
  | last {f : FrameId} (h : (s.frameAt f).role.captured? = none) : Captures s f []
  | next {f c : FrameId} {cs : List FrameId} (h : (s.frameAt f).role.captured? = some c)
    (older : c < f) (rest : Captures s c cs) : Captures s f (c :: cs)

namespace Captures

theorem closureChain_eq (h : s.Captures f cs) : s.closureChain f = f :: cs := by
  induction h with
  | last h => rw [closureChain, h]
  | next h older _ ih =>
    rw [closureChain, h]
    simp only [if_pos older, ih]

/-- A chain goes on from each of its frames. -/
theorem split (h : s.Captures f cs) (e : f :: cs = before ++ g :: after) :
    s.Captures g after := by
  induction h generalizing before with
  | @last f h =>
    cases before with
    | nil =>
      obtain ⟨rfl, rfl⟩ := List.cons.inj e
      exact .last h
    | cons _ before => exact absurd (List.cons.inj e).2 (by simp)
  | next h older rest ih =>
    cases before with
    | nil =>
      obtain ⟨rfl, rfl⟩ := List.cons.inj e
      exact .next h older rest
    | cons _ before => exact ih (List.cons.inj e).2

end Captures

/-- Frames capture older frames only, so there is always a chain. -/
theorem RolesFit.captures (fit : s.RolesFit) (f : FrameId) :
    s.Captures f (s.closureChain f).tail := by
  induction f using Nat.strongRecOn with
  | _ f ih =>
    rw [fit.closureChain_eq, List.tail_cons]
    cases hc : (s.frameAt f).role.captured? with
    | none => exact .last hc
    | some c =>
      have rest := ih c (fit.captured hc)
      have chain : c :: (s.closureChain c).tail = s.closureChain c := by
        rw [rest.closureChain_eq, List.tail_cons]
      have := Captures.next hc (fit.captured hc) rest
      rw [chain] at this
      exact this

/-! ## Reading -/

theorem bindsLocal_eq_false_iff : s.bindsLocal n f = false ↔ (s.frameAt f).locals[n]? = none := by
  rw [bindsLocal, Std.TreeMap.contains_eq_isSome_getElem?, Option.isSome_eq_false_iff,
    Option.isNone_iff_eq_none]

/-- **A local is read in the first frame that binds it**, or not at all. -/
theorem local?_split (chain : s.closureChain f = before ++ g :: after)
    (free : ∀ b ∈ before, s.bindsLocal n b = false)
    (bound : s.bindsLocal n g = true ∨ ∀ b ∈ after, s.bindsLocal n b = false) :
    s.local? f n = (s.frameAt g).locals[n]? := by
  have none_of {places : List FrameId} (h : ∀ b ∈ places, s.bindsLocal n b = false) :
      places.findSome? (fun b => (s.frameAt b).locals[n]?) = none :=
    List.findSome?_eq_none_iff.2 fun b hb => bindsLocal_eq_false_iff.1 (h b hb)
  rw [local?, nearest?_eq, chain, List.findSome?_append, none_of free, Option.none_or,
    List.findSome?_cons]
  cases hg : (s.frameAt g).locals[n]? with
  | some v => rfl
  | none =>
    rcases bound with bound | bound
    · rw [bindsLocal_eq_false_iff.2 hg] at bound
      exact absurd bound Bool.false_ne_true
    · exact none_of bound

theorem lookup_of_local? (hn : Shape.of n = .localVar) (h : s.local? f n = some v) :
    s.lookup f n = some v :=
  lookup_of_lookupOwn (by rw [lookupOwn, hn]; exact h)

/-! ## Writing -/

/-- **A local is written in the first frame that binds it**, or else where the chain starts. -/
theorem exists_localOwner (chain : s.closureChain f = f :: cs) (n : String) :
    ∃ before after, f :: cs = before ++ s.localOwner f n :: after ∧
      (∀ b ∈ before, s.bindsLocal n b = false) ∧
      (s.bindsLocal n (s.localOwner f n) = true
        ∨ before = [] ∧ ∀ b ∈ after, s.bindsLocal n b = false) := by
  rw [localOwner, chain]
  cases hk : (f :: cs).find? (s.bindsLocal n) with
  | none =>
    have free := List.find?_eq_none.1 hk
    refine ⟨[], cs, rfl, (fun _ hb => absurd hb List.not_mem_nil), .inr ⟨rfl, fun b hb => ?_⟩⟩
    exact Bool.eq_false_iff.2 (free b (List.mem_cons_of_mem f hb))
  | some g =>
    obtain ⟨bound, before, after, e, free⟩ := List.find?_eq_some_iff_append.1 hk
    exact ⟨before, after, e, fun b hb => by simpa using free b hb, .inl bound⟩

theorem lt_size_of_bindsLocal (h : s.bindsLocal n f = true) : f < s.frames.size := by
  refine Nat.lt_of_not_le fun hle => ?_
  rw [bindsLocal, frameAt, Array.getElem?_eq_none hle] at h
  exact absurd h Bool.false_ne_true

/-- Nothing but one local of one frame differs, which has the given value. -/
structure WritesLocal (s s' : State) (g : FrameId) (n : String) (v : Value) : Prop where
  written : (s'.frameAt g).locals[n]? = some v
  others {m : String} (h : m ≠ n) : (s'.frameAt g).locals[m]? = (s.frameAt g).locals[m]?
  frame : s'.frameAt g = { s.frameAt g with locals := (s'.frameAt g).locals }
  frames {f : FrameId} (h : f ≠ g) : s'.frameAt f = s.frameAt f
  count : s'.frames.size = s.frames.size
  stores : s' = { s with frames := s'.frames }

theorem writesLocal_bindLocal (hg : g < s.frames.size) (n : String) (v : Value) :
    s.WritesLocal (s.bindLocal g n v) g n v := by
  have there : (s.bindLocal g n v).frameAt g
      = { s.frameAt g with locals := (s.frameAt g).locals.insert n v } := by
    rw [bindLocal, frameAt_modifyFrame s hg, if_pos rfl]
  exact
    { written := by rw [there]; exact Std.TreeMap.getElem?_insert_self
      others := fun h => by
        rw [there]
        exact Store.getElem?_insert_of_ne h
      frame := by rw [there]
      frames := fun h => by rw [bindLocal, frameAt_modifyFrame s hg, if_neg (Ne.symm h)]
      count := Array.size_modify
      stores := rfl }

theorem WritesLocal.closureChain_eq (h : s.WritesLocal s' g n v) (f : FrameId) :
    s'.closureChain f = s.closureChain f := by
  refine closureChain_of_grow fun k _ => ?_
  by_cases e : k = g
  · subst e
    rw [h.frame]
    refine { Frame.Grows.refl (s.frameAt k) with locals := fun m hm => ?_ }
    by_cases hm' : m = n
    · rw [Std.TreeMap.mem_iff_isSome_getElem?, hm', h.written, Option.isSome_some]
    · rw [Std.TreeMap.mem_iff_isSome_getElem?, h.others hm']
      exact Std.TreeMap.mem_iff_isSome_getElem?.1 hm
  · rw [h.frames e]
    exact .refl _

/-- **What is written is read** from each frame that gets at it before any other that binds the
name. -/
theorem WritesLocal.lookup_eq (h : s.WritesLocal s' g n v) (hn : Shape.of n = .localVar)
    (chain : s.closureChain f = before ++ g :: after)
    (free : ∀ b ∈ before, s.bindsLocal n b = false) (apart : g ∉ before) :
    s'.lookup f n = some v := by
  have free' (b : FrameId) (hb : b ∈ before) : s'.bindsLocal n b = false := by
    rw [bindsLocal, h.frames fun e => apart (e ▸ hb)]
    exact free b hb
  have bound : s'.bindsLocal n g = true := by
    rw [← Bool.not_eq_false, bindsLocal_eq_false_iff, h.written]
    exact Option.some_ne_none v
  refine lookup_of_local? hn ?_
  rw [local?_split ((h.closureChain_eq f).trans chain) free' (.inl bound), h.written]

/-- **A write through nested closures lands in exactly one frame, the one reads come from.**  Of a
frame and the frames it gets at by capturing it is the first that binds the local, or if none does
the frame itself; nothing but that local of that frame changes.  From all frames up to that one the
local was read there before and what was written is read now. -/
theorem set_captures (chain : s.Captures f cs) (hf : f < s.frames.size)
    (hn : Shape.of n = .localVar) (v : Value) :
    ∃ before g after, f :: cs = before ++ g :: after ∧
      (∀ b ∈ before, s.bindsLocal n b = false) ∧
      (s.bindsLocal n g = true ∨ before = [] ∧ ∀ b ∈ after, s.bindsLocal n b = false) ∧
      s.WritesLocal (s.set f n v) g n v ∧
      ∀ b ∈ before ++ [g], s.local? b n = (s.frameAt g).locals[n]? ∧
        (s.set f n v).lookup b n = some v := by
  obtain ⟨before, after, e, free, owns⟩ := exists_localOwner chain.closureChain_eq n
  generalize hg : s.localOwner f n = g at e owns
  have there : g < s.frames.size := by
    rcases owns with bound | ⟨rfl, -⟩
    · exact lt_size_of_bindsLocal bound
    · exact (List.cons.inj e).1 ▸ hf
  have writes : s.WritesLocal (s.set f n v) g n v := by
    have write : s.set f n v = s.bindLocal g n v := by rw [set, hn, ← hg]
    exact write ▸ writesLocal_bindLocal there n v
  have apart : g ∉ before := by
    rcases owns with bound | ⟨rfl, -⟩
    · exact fun hm => Bool.false_ne_true ((free g hm).symm.trans bound)
    · exact List.not_mem_nil
  refine ⟨before, g, after, e, free, owns, writes, fun b hb => ?_⟩
  -- the part of the chain from `b` up to `g`
  obtain ⟨upTo, sub, part⟩ :
      ∃ upTo, upTo ⊆ before ∧ s.closureChain b = upTo ++ g :: after := by
    rcases List.mem_append.1 hb with hb | hb
    · obtain ⟨start, rest, rfl⟩ := List.append_of_mem hb
      have from_b : s.Captures b (rest ++ g :: after) := chain.split (by rw [e, List.append_assoc,
        List.cons_append])
      exact ⟨b :: rest, List.subset_append_right start _, from_b.closureChain_eq⟩
    · obtain rfl := List.mem_singleton.1 hb
      exact ⟨[], List.nil_subset _, (chain.split e).closureChain_eq⟩
  have free (a : FrameId) (ha : a ∈ upTo) : s.bindsLocal n a = false := free a (sub ha)
  exact ⟨local?_split part free (owns.imp_right And.right),
    writes.lookup_eq hn part free fun hm => apart (sub hm)⟩

/-- Three lambdas, each run inside the one before; only the outermost binds `total`. -/
def innermost : Program :=
  [.call (some (.lambda [] [.setLocal "total" (.int 0),
    .call (some (.lambda [] [.call (some (.lambda [] [])) "call" []])) "call" []])) "call" []]

/-- The innermost run, frame 12, writes the `total` of the outermost, frame 10. -/
theorem set_captures_nesting : ∃ s : State, s.Reachable ∧ s.Captures 12 [11, 10, Core.root] ∧
    12 < s.frames.size ∧ Shape.of "total" = .localVar ∧ s.bindsLocal "total" 10 = true ∧
    ∃ before g after, [12, 11, 10, Core.root] = before ++ g :: after ∧
      (∀ b ∈ before, s.bindsLocal "total" b = false) ∧
      (s.bindsLocal "total" g = true
        ∨ before = [] ∧ ∀ b ∈ after, s.bindsLocal "total" b = false) ∧
      s.WritesLocal (s.set 12 "total" (Core.bool true)) g "total" (Core.bool true) ∧
      ∀ b ∈ before ++ [g], s.local? b "total" = (s.frameAt g).locals["total"]? ∧
        (s.set 12 "total" (Core.bool true)).lookup b "total" = some (Core.bool true) := by
  obtain ⟨s, reachable, ht⟩ := exists_reachable_of_run 10 100 innermost
    (fun s => decide ((s.frameAt 12).role.captured? = some 11 ∧
      (s.frameAt 11).role.captured? = some 10 ∧
      (s.frameAt 10).role.captured? = some Core.root ∧
      (s.frameAt Core.root).role.captured? = none ∧ 12 < s.frames.size ∧
      s.bindsLocal "total" 10 = true)) (by decide +kernel)
  obtain ⟨h₁, h₂, h₃, h₄, hf, bound⟩ := of_decide_eq_true ht
  have captures : s.Captures 12 [11, 10, Core.root] :=
    .next h₁ (by decide) (.next h₂ (by decide) (.next h₃ (by decide) (.last h₄)))
  exact ⟨s, reachable, captures, hf, rfl, bound, set_captures captures hf rfl (Core.bool true)⟩

end OpenScript.State
