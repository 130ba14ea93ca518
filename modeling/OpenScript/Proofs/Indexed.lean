import OpenScript.Proofs.Later

/-!
# Proofs/Indexed — every index names something

    objects ──class──▸ classes        classes, frames, objects ──ids──▸ what there is
    symbol objects ──handle──▸ names

Whatever is stored in a state or bound in it is there, and handles are handles of names.  That is
a discipline (`Discipline.indexed`), so evaluation keeps to it, and the states that interpreters get
to do (`State.Reachable.indexed`).
-/

namespace OpenScript

namespace State

variable {s s' : State} {i : SymbolId}

/-- Handles in objects are handles of names. -/
def SymbolsFit (s : State) : Prop :=
  ∀ {o : ObjectId} {i : SymbolId}, (s.objectAt o).payload = .symbol i → i < s.symbols.size

/-- What is not there boxes no handle. -/
theorem payload_of_le {o : ObjectId} (h : s.objects.size ≤ o) : (s.objectAt o).payload = .none := by
  rw [objectAt, Array.getElem?_eq_none h]
  rfl

/-- What is boxed in an object that is added. -/
theorem payload_addObject {x : Object} {o : ObjectId} (ho : s.objects.size ≤ o)
    (h : ((s.addObject x).2.objectAt o).payload = .symbol i) : x.payload = .symbol i := by
  rcases Nat.eq_or_lt_of_le ho with rfl | past
  · rwa [objectAt_addObject_size] at h
  · rw [payload_of_le (by rw [addObject, Array.size_push]; exact past)] at h
    cases h

/-- **A handle that is boxed anew is one of a name.** -/
theorem Change.symbol_made {has : Item → Prop} (h : s.Change has s') {o : ObjectId}
    (ho : s.objects.size ≤ o) (hi : (s'.objectAt o).payload = .symbol i) : i < s'.symbols.size := by
  have none_new (e : s'.objects.size = s.objects.size) : i < s'.symbols.size := by
    rw [payload_of_le (e ▸ ho)] at hi
    cases hi
  cases h with
  | box p hp hs => exact hs i (payload_addObject ho hi)
  | instantiate hc => cases payload_addObject ho hi
  | createSpace hd hf hn => cases payload_addObject ho hi
  | setIvar key hv hw => exact none_new (size_objects_setIvar s _ _ key)
  | set hn hc hf hv => exact none_new (size_objects_set s _ _ _)
  | defineConstant hc hf hv => exact none_new (size_objects_defineConstant s _ _ _)
  | createClass hd hf hc hn => exact none_new (size_objects_set _ _ _ _)
  | enter ho' hr hv => exact none_new (by rw [enter_eq]; rfl)
  | enterClosure hc hv => exact none_new (by rw [enterClosure_eq]; rfl)
  | intern | print | addProperty | defineMethod => exact none_new rfl

theorem Change.symbolsFit {has : Item → Prop} (h : s.Change has s') (hs : s.SymbolsFit) :
    s'.SymbolsFit := by
  intro o i hi
  rcases Nat.lt_or_ge o s.objects.size with old | new
  · obtain ⟨y, hy, grows⟩ := h.grows.objects o _ (Array.getElem?_eq_getElem old)
    rw [objectAt, hy, Option.getD_some, grows.payload] at hi
    refine (h.grows.symbols (hs (o := o) ?_)).1
    rw [objectAt, Array.getElem?_eq_getElem old]
    exact hi
  · exact h.symbol_made new hi

end State

namespace Discipline

/-- Evaluation handles only ids of what there is and handles of names. -/
def indexed : Discipline where
  inv s := s.RolesFit ∧ s.SymbolsFit
  has s i := i.In s
  part _ _ := trivial
  change h hk hc :=
    have ⟨fit, stays, fresh⟩ := wellFormed.change h.1 hk hc
    ⟨⟨fit, hc.symbolsFit h.2⟩, stays, fresh⟩
  inv_depth d h := ⟨wellFormed.inv_depth d h.1, h.2⟩
  has_depth := wellFormed.has_depth

end Discipline

/-- A state whose ids name what they should and whose handles are handles of names. -/
abbrev State.Indexed (s : State) : Prop := Discipline.indexed.Fits s

namespace State

variable {s s' : State}

theorem SymbolsFit.next (h : s.SymbolsFit) (hn : s.Next s') : s'.SymbolsFit := by
  cases hn with
  | change hc => exact hc.symbolsFit h
  | depth | drain => exact h
  | probe c ofClass name p => cases ofClass <;> exact h

theorem symbolsFit_initial (limit : Nat) : (State.initial limit).SymbolsFit := by
  have core : ∀ o < 3, (State.initial limit).symbol? (.object o) = none := by
    simp only [symbol?, payload, objectAt, objects_initial]
    decide
  intro o i hi
  rcases Nat.lt_or_ge o 3 with there | past
  · have none := core o there
    rw [symbol?, payload, hi] at none
    cases none
  · rw [payload_of_le (size_objects_initial limit ▸ past)] at hi
    cases hi

/-- **Interpreters get to indexed states only.** -/
theorem Reachable.indexed (h : s.Reachable) : s.Indexed :=
  have wf := h.wellFormed
  ⟨⟨wf.inv, h.keeps symbolsFit_initial fun _ hs hn => hs.next hn⟩, wf.has⟩

end State

/-! ## In range -/

namespace Discipline

variable {s : State} {v : Value} {i : SymbolId}

/-- What can be got out of an indexed state is there. -/
theorem known_in (h : s.Indexed) (i : Item) (hi : s.Known i) : i.In s := h.has hi

/-- The handle of a symbol is one of a name. -/
theorem symbol_lt (h : s.Indexed) (hi : s.payload v = .symbol i) : i < s.symbols.size := by
  cases v with
  | nil | cls c => cases hi
  | object o => exact h.inv.2 hi

theorem symbol?_lt (h : s.Indexed) (hi : s.symbol? v = some i) : i < s.symbols.size := by
  unfold State.symbol? at hi
  split at hi
  · next j hj =>
    obtain rfl := Option.some.inj hi
    exact symbol_lt h hj
  · cases hi

end Discipline

end OpenScript
