import OpenScript.Scope
import OpenScript.State.Lemmas

/-!
# Proofs/Chains — frames grow, the chains they form stay

    self, class, parent, captured frame: fixed        locals, constants, namespaces: more and more

A frame that grows binds more names and registers more namespaces but keeps what it refers to
(`Frame.Grows`).  So as frames grow, what a frame is enclosed by, captures, searches and is governed
by stays the same.
-/

namespace OpenScript

/-- A table that has lost no key. -/
def Store.Keeps (t t' : Store α) : Prop := ∀ k : String, k ∈ t → k ∈ t'

theorem Store.keeps_insert (t : Store α) (k : String) (a : α) : Store.Keeps t (t.insert k a) :=
  fun _ h => Std.TreeMap.mem_insert.2 (.inr h)

/-! ## Frames -/

/-- A role that stays, or a namespace that registers more. -/
inductive Role.Grows : Role → Role → Prop where
  | refl (r : Role) : Grows r r
  | space {t t' : Store FrameId}
    (h : ∀ (k : String) (f : FrameId), t[k]? = some f → t'[k]? = some f) :
    Grows (.space t) (.space t')

namespace Role.Grows

variable {r r' r'' : Role}

theorem trans (h : r.Grows r') (h' : r'.Grows r'') : r.Grows r'' := by
  cases h with
  | refl => exact h'
  | space hs =>
    cases h' with
    | refl => exact .space hs
    | space hs' => exact .space fun k f hf => hs' k f (hs k f hf)

theorem captured? (h : r.Grows r') : r'.captured? = r.captured? := by cases h <;> rfl

theorem space? (h : r.Grows r') : r'.space? = r.space? := by cases h <;> rfl

theorem label (h : r.Grows r') : r'.label = r.label := by cases h <;> rfl

end Role.Grows

/-- A frame that keeps what it refers to and every name it binds. -/
structure Frame.Grows (x y : Frame) : Prop where
  self : y.self = x.self
  cls : y.cls = x.cls
  parent : y.parent = x.parent
  role : x.role.Grows y.role
  locals : Store.Keeps x.locals y.locals
  constants : Store.Keeps x.constants y.constants

namespace Frame.Grows

theorem refl (x : Frame) : x.Grows x := ⟨rfl, rfl, rfl, .refl _, fun _ => id, fun _ => id⟩

theorem trans {x y z : Frame} (h : x.Grows y) (h' : y.Grows z) : x.Grows z where
  self := h'.self.trans h.self
  cls := h'.cls.trans h.cls
  parent := h'.parent.trans h.parent
  role := h.role.trans h'.role
  locals k hk := h'.locals k (h.locals k hk)
  constants k hk := h'.constants k (h.constants k hk)

end Frame.Grows

namespace State

variable {s s' : State} {f : FrameId}

/-- The frames up to a frame have grown. -/
def FramesGrow (s s' : State) (f : FrameId) : Prop :=
  ∀ g ≤ f, (s.frameAt g).Grows (s'.frameAt g)

theorem framesGrow_of_eq (h : s'.frames = s.frames) (f : FrameId) : s.FramesGrow s' f :=
  fun g _ => by rw [frameAt, frameAt, h]; exact .refl _

theorem FramesGrow.below (h : s.FramesGrow s' f) {g : FrameId} (hg : g < f) : s.FramesGrow s' g :=
  fun k hk => h k (Nat.le_trans hk (Nat.le_of_lt hg))

/-- Frames that are there already are not touched by one that is added. -/
theorem framesGrow_addFrame (h : f < s.frames.size) (x : Frame) :
    s.FramesGrow (s.addFrame x).2 f := by
  intro g hg
  rw [frameAt_addFrame_of_lt s (Nat.lt_of_le_of_lt hg h)]
  exact .refl _

/-! ## Chains -/

/-- A closure chain goes down. -/
theorem le_of_mem_closureChain {g : FrameId} (h : g ∈ s.closureChain f) : g ≤ f := by
  induction f using Nat.strongRecOn with
  | _ f ih =>
    rw [closureChain] at h
    rcases List.mem_cons.1 h with rfl | h
    · exact Nat.le_refl g
    · split at h
      · next c _ =>
        split at h
        · next below => exact Nat.le_trans (ih c below h) (Nat.le_of_lt below)
        · exact absurd h List.not_mem_nil
      · exact absurd h List.not_mem_nil

/-- A search path goes down. -/
theorem le_of_mem_searchPath {g : FrameId} (h : g ∈ s.searchPath f) : g ≤ f := by
  induction f using Nat.strongRecOn with
  | _ f ih =>
    rw [searchPath_eq] at h
    rcases List.mem_cons.1 h with rfl | h
    · exact Nat.le_refl g
    · obtain ⟨k, hk, hg⟩ := List.mem_flatMap.1 h
      have below : k < f := lt_of_mem_outward hk
      exact Nat.le_trans (ih k below hg) (Nat.le_of_lt below)

/-- **As frames grow, closure chains stay.** -/
theorem closureChain_of_grow (h : s.FramesGrow s' f) : s'.closureChain f = s.closureChain f := by
  induction f using Nat.strongRecOn with
  | _ f ih =>
    rw [closureChain, closureChain, (h f (Nat.le_refl f)).role.captured?]
    cases (s.frameAt f).role.captured? with
    | none => rfl
    | some c =>
      by_cases hlt : c < f
      · simp only [if_pos hlt, ih c hlt (h.below hlt)]
      · simp only [if_neg hlt]

theorem enclosing_of_grow (h : s.FramesGrow s' f) : s'.enclosing f = s.enclosing f := by
  induction f using Nat.strongRecOn with
  | _ f ih =>
    rw [enclosing, enclosing, (h f (Nat.le_refl f)).parent]
    cases (s.frameAt f).parent with
    | none => rfl
    | some p =>
      by_cases hlt : p < f
      · simp only [if_pos hlt, ih p hlt (h.below hlt)]
      · simp only [if_neg hlt]

theorem outward_of_grow (h : s.FramesGrow s' f) : s'.outward f = s.outward f := by
  have grows := h f (Nat.le_refl f)
  rw [outward, outward, grows.role.space?, grows.parent]

theorem searchPath_of_grow (h : s.FramesGrow s' f) : s'.searchPath f = s.searchPath f := by
  induction f using Nat.strongRecOn with
  | _ f ih =>
    have behind (g : FrameId) (hg : g ∈ s.outward f) : s'.searchPath g = s.searchPath g :=
      ih g (lt_of_mem_outward hg) (h.below (lt_of_mem_outward hg))
    rw [searchPath_eq, searchPath_eq, outward_of_grow h, List.flatMap_def, List.flatMap_def,
      List.map_congr_left behind]

theorem ivarOwner_of_grow (h : s.FramesGrow s' f) : s'.ivarOwner f = s.ivarOwner f := by
  induction f using Nat.strongRecOn with
  | _ f ih =>
    have grows := h f (Nat.le_refl f)
    rw [ivarOwner, ivarOwner, grows.parent, grows.self]
    generalize hr : (s.frameAt f).role = r, hr' : (s'.frameAt f).role = r'
    have roles : r.Grows r' := hr ▸ hr' ▸ grows.role
    cases roles with
    | space => rfl
    | refl =>
      split
      · next p _ =>
        by_cases hlt : p < f
        · rw [if_pos hlt, if_pos hlt, ih p hlt (h.below hlt)]
        · rw [if_neg hlt, if_neg hlt]
      · rfl

/-- **As frames grow, governing namespaces stay.** -/
theorem governing_of_grow (h : s.FramesGrow s' f) : s'.governing f = s.governing f := by
  induction f using Nat.strongRecOn with
  | _ f ih =>
    have grows := h f (Nat.le_refl f)
    rw [governing, governing, grows.parent]
    generalize hr : (s.frameAt f).role = r, hr' : (s'.frameAt f).role = r'
    have roles : r.Grows r' := hr ▸ hr' ▸ grows.role
    cases roles with
    | space => rfl
    | refl =>
      split
      · rfl
      · rfl
      · split
        · next p _ =>
          by_cases hlt : p < f
          · rw [if_pos hlt, if_pos hlt, ih p hlt (h.below hlt)]
          · rw [if_neg hlt, if_neg hlt]
        · rfl

end State

end OpenScript
