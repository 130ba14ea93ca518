import OpenScript.State

/-!
# Scope/Path — the frames a name is looked for in

A frame refers to frames around it: its parent, the frame it captured, the namespace of a receiver.
Those are made before it, so the chains they form go down in ids and end.  `State.nearest?` finds
what comes first on a closure chain (`State.nearest?_eq`).  The search path (`State.searchPath`)
branches at receivers and may list a frame many times over; `State.seek?` looks at each frame once
and still finds what comes first on the path (`State.seek?_eq`).
-/

namespace OpenScript.State

/-- A frame and the frames around it, nearest first. -/
def enclosing (s : State) (f : FrameId) : List FrameId :=
  f :: match (s.frameAt f).parent with
    | some p => if p < f then s.enclosing p else []
    | none => []
termination_by f

/-- A frame, the frame it captured, the frame that one captured, and so on. -/
def closureChain (s : State) (f : FrameId) : List FrameId :=
  f :: match (s.frameAt f).role.captured? with
    | some c => if c < f then s.closureChain c else []
    | none => []
termination_by f

/-- The first thing along the closure chain of a frame. -/
def nearest? (s : State) (look : FrameId → Option α) (f : FrameId) : Option α :=
  match look f with
  | some a => some a
  | none =>
    match (s.frameAt f).role.captured? with
    | some c => if c < f then s.nearest? look c else none
    | none => none
termination_by f

/-- **Going frame by frame finds the same as the whole closure chain.** -/
theorem nearest?_eq (s : State) (look : FrameId → Option α) (f : FrameId) :
    s.nearest? look f = (s.closureChain f).findSome? look := by
  induction f using Nat.strongRecOn with
  | _ f ih =>
    rw [nearest?, closureChain, List.findSome?_cons]
    cases look f with
    | some a => rfl
    | none =>
      cases (s.frameAt f).role.captured? with
      | none => rfl
      | some c =>
        by_cases h : c < f
        · simp only [if_pos h, ih c h]
        · simp only [if_neg h, List.findSome?_nil]

/-- Where a search goes on behind a frame: at the namespace of a receiver, then at the parent. -/
def outward (s : State) (f : FrameId) : List FrameId :=
  ((s.frameAt f).role.space?.toList ++ (s.frameAt f).parent.toList).filter (· < f)

/-- A search goes down in ids. -/
theorem lt_of_mem_outward {s : State} {f g : FrameId} (h : g ∈ s.outward f) : g < f := by
  simpa using (List.mem_filter.1 h).2

/-- The frames a name is looked for in: the frame, then for a receiver's frame all that its
namespace searches, then all that its parent searches. -/
def searchPath (s : State) (f : FrameId) : List FrameId :=
  f :: (s.outward f).attach.flatMap fun g => s.searchPath g.1
termination_by f
decreasing_by exact lt_of_mem_outward g.2

/-- The search path of a frame is made of the search paths of the frames behind it. -/
theorem searchPath_eq (s : State) (f : FrameId) :
    s.searchPath f = f :: (s.outward f).flatMap s.searchPath := by
  rw [searchPath, List.flatMap_def, List.flatMap_def, List.attach_map_val]

/-- A search goes on from frames that were searched in vain.  It gives what it finds, or else the
frames that have then been searched in vain. -/
abbrev Search (α : Type) := List FrameId → α ⊕ List FrameId

/-- Searches in turn until something is found. -/
def Search.inTurn : List (Search α) → Search α
  | [], missed => .inr missed
  | first :: rest, missed => (first missed).elim .inl (inTurn rest)

/-- Looks for something along the search path of a frame.  A frame that was searched in vain is not
searched again. -/
def seek (s : State) (look : FrameId → Option α) (f : FrameId) : Search α := fun missed =>
  if f ∈ missed then .inr missed
  else
    match look f with
    | some a => .inl a
    | none =>
      (Search.inTurn ((s.outward f).attach.map fun g => s.seek look g.1) missed).map id (f :: ·)
termination_by f
decreasing_by exact lt_of_mem_outward g.2

/-- The first thing along the search path of a frame. -/
def seek? (s : State) (look : FrameId → Option α) (f : FrameId) : Option α :=
  (s.seek look f []).getLeft?

variable {s : State} {look : FrameId → Option α}

/-- Nothing is to be found from any of the frames. -/
def InVain (s : State) (look : FrameId → Option α) (missed : List FrameId) : Prop :=
  ∀ g ∈ missed, (s.searchPath g).findSome? look = none

/-- A search finds the first thing on a path, or else the frames it gives are searched in vain. -/
def Finds (s : State) (look : FrameId → Option α) (path : List FrameId) (search : Search α) :
    Prop :=
  ∀ missed, s.InVain look missed →
    match search missed with
    | .inl a => path.findSome? look = some a
    | .inr missed => path.findSome? look = none ∧ s.InVain look missed

/-- Searches in turn search their paths in a row. -/
theorem finds_inTurn : ∀ gs : List FrameId,
    (∀ g ∈ gs, s.Finds look (s.searchPath g) (s.seek look g)) →
    s.Finds look (gs.flatMap s.searchPath) (.inTurn (gs.map (s.seek look)))
  | [], _, _, hv => ⟨rfl, hv⟩
  | g :: gs, h, missed, hv => by
    have hg := h g List.mem_cons_self missed hv
    rw [List.map_cons, Search.inTurn, List.flatMap_cons, List.findSome?_append]
    cases hs : s.seek look g missed with
    | inl a => rw [hs] at hg; rw [Sum.elim_inl, hg]; rfl
    | inr m =>
      rw [hs] at hg
      rw [Sum.elim_inr, hg.1, Option.none_or]
      exact finds_inTurn gs (fun g hg => h g (List.mem_cons_of_mem _ hg)) m hg.2

/-- **A search finds what comes first on the search path.** -/
theorem finds_seek (f : FrameId) : s.Finds look (s.searchPath f) (s.seek look f) := by
  induction f using Nat.strongRecOn with
  | _ f ih =>
    intro missed hv
    rw [seek, List.attach_map_val]
    by_cases hf : f ∈ missed
    · rw [if_pos hf]; exact ⟨hv f hf, hv⟩
    · rw [if_neg hf]
      have hp : (s.searchPath f).findSome? look
          = (look f).or (((s.outward f).flatMap s.searchPath).findSome? look) := by
        rw [searchPath_eq, List.findSome?_cons]; cases look f <;> rfl
      cases hl : look f with
      | some a => exact hp.trans (by rw [hl]; rfl)
      | none =>
        rw [hl, Option.none_or] at hp
        have h := finds_inTurn (s.outward f) (fun g hg => ih g (lt_of_mem_outward hg)) missed hv
        cases hs : Search.inTurn ((s.outward f).map (s.seek look)) missed with
        | inl a => rw [hs] at h; exact hp.trans h
        | inr m =>
          rw [hs] at h
          exact ⟨hp.trans h.1, List.forall_mem_cons.2 ⟨hp.trans h.1, h.2⟩⟩

/-- **Looking at each frame once finds the same as going along the whole search path.** -/
theorem seek?_eq (f : FrameId) : s.seek? look f = (s.searchPath f).findSome? look := by
  have h : s.Finds look (s.searchPath f) (s.seek look f) := finds_seek f
  have h := h [] fun _ hg => nomatch hg
  rw [seek?]
  cases hs : s.seek look f [] with
  | inl a => rw [hs] at h; exact h.symm
  | inr m => rw [hs] at h; exact h.1.symm

end OpenScript.State
