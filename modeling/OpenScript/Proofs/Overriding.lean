import OpenScript.Proofs.Entries
import OpenScript.Proofs.Tables

/-!
# Proofs/Overriding — what a new method changes

    c ◂─parent─ a ◂─parent─ d       define n in c ──▸ found from c, from a unless a has an n,
                                                      from d unless d or a has one

A class has another within sight if that is an ancestor of its and no class before it on the way
up has anything under the name (`State.Visible`).  What is found is what the class within sight
defines (`State.findMethod?_eq_some_iff_visible`).  So a method that is defined is found from
wherever its class is within sight, and all else is found as before
(`State.findMethod?_defineMethod`).
-/

namespace OpenScript

namespace State

variable {s : State} {c d o : ClassId} {name : String} {m : Method}

/-- What `c` has under a name is not hidden from `d`: `c` is `d` or one of its ancestors, and no
class before `c` on the way up from `d` defines the name. -/
inductive Visible (s : State) (name : String) (c : ClassId) : ClassId → Prop where
  | here : Visible s name c c
  | up {d p : ClassId} (h : (s.classAt d).parent = some p) (free : s.defines name d = false)
    (rest : Visible s name c p) : Visible s name c d

/-! ## Finding methods -/

/-- Nothing is seen but on the way up. -/
theorem Visible.le (older : s.ParentsOlder) (h : s.Visible name c d) : c ≤ d := by
  induction h with
  | here => exact Nat.le_refl c
  | up h _ _ ih => exact Nat.le_trans ih (Nat.le_of_lt (older h))

/-- **A class is within sight if nothing before it on the way up defines the name.** -/
theorem visible_iff (older : s.ParentsOlder) :
    s.Visible name c d ↔ ∃ before after, s.ancestors d = before ++ c :: after ∧
      ∀ b ∈ before, s.defines name b = false := by
  constructor
  · intro h
    induction h with
    | here => exact ⟨[], _, older.ancestors_eq c, List.forall_mem_nil _⟩
    | @up d p h free _ ih =>
      obtain ⟨before, after, way, hidden⟩ := ih
      refine ⟨d :: before, after, ?_, List.forall_mem_cons.2 ⟨free, hidden⟩⟩
      rw [older.ancestors_eq, h, Option.map_some, Option.getD_some, way, List.cons_append]
  · rintro ⟨before, after, way, hidden⟩
    induction before generalizing d with
    | nil =>
      obtain rfl := (List.cons.inj ((older.ancestors_eq d).symm.trans way)).1
      exact .here
    | cons b before ih =>
      obtain ⟨rfl, rest⟩ := List.cons.inj ((older.ancestors_eq d).symm.trans way)
      obtain ⟨free, others⟩ := List.forall_mem_cons.1 hidden
      cases hp : (s.classAt d).parent with
      | none =>
        -- the way up from `d` is `d` alone
        rw [hp] at rest
        exact nomatch (List.append_eq_nil_iff.1 rest.symm).2
      | some p =>
        rw [hp] at rest
        exact .up hp free (ih rest others)

/-- **A method is found in the class that defines it within sight.** -/
theorem findMethod?_eq_some_iff_visible (older : s.ParentsOlder) :
    s.findMethod? d name = some (o, m) ↔
      (s.classAt o).methods[name]? = some m ∧ s.Visible name o d := by
  rw [findMethod?_eq_some_iff, visible_iff older]

/-! ## Defining a method -/

theorem parent_defineMethod (s : State) (c : ClassId) (m : Method) (a : ClassId) :
    ((s.defineMethod c m).classAt a).parent = (s.classAt a).parent :=
  s.classAt_modifyClass_of_keeps fun _ _ => rfl

theorem ParentsOlder.defineMethod (older : s.ParentsOlder) (c : ClassId) (m : Method) :
    (s.defineMethod c m).ParentsOlder :=
  fun a _ h => older ((s.parent_defineMethod c m a).symm.trans h)

/-- No other entry is defined, and none is lost. -/
theorem defines_defineMethod_of_ne (h : ¬(name = m.name ∧ d = c)) :
    (s.defineMethod c m).defines name d = s.defines name d := by
  rw [defines, method_defineMethod_of_ne h, defines]

/-- The class defines the method. -/
theorem defines_defineMethod_self (hc : c < s.classes.size) :
    (s.defineMethod c m).defines m.name c = true := by
  rw [defines, method_defineMethod_self hc, Option.isSome_some]

/-- What is within sight of a class that defines a method was so before. -/
theorem Visible.of_defineMethod (hc : c < s.classes.size)
    (h : (s.defineMethod c m).Visible name o d) : s.Visible name o d := by
  induction h with
  | here => exact .here
  | @up d p h free _ ih =>
    have other : ¬(name = m.name ∧ d = c) := by
      rintro ⟨rfl, rfl⟩
      rw [defines_defineMethod_self hc] at free
      exact absurd free nofun
    rw [parent_defineMethod] at h
    rw [defines_defineMethod_of_ne other] at free
    exact .up h free ih

/-- What is within sight stays so, unless the method that is defined comes before it. -/
theorem Visible.defineMethod (older : s.ParentsOlder) (h : s.Visible name o d)
    (past : name = m.name → s.Visible name c d → c ≤ o) :
    (s.defineMethod c m).Visible name o d := by
  induction h with
  | here => exact .here
  | @up d p h free rest ih =>
    have other : ¬(name = m.name ∧ d = c) := by
      rintro ⟨hn, rfl⟩
      -- `c` would come after itself on the way up
      exact Nat.not_le_of_lt (older h) (Nat.le_trans (past hn .here) (rest.le older))
    have same : (s.defineMethod c m).defines name d = s.defines name d :=
      defines_defineMethod_of_ne other
    refine .up ((s.parent_defineMethod c m d).trans h) (same.trans free) (ih fun hn hv => ?_)
    exact past hn (.up h free hv)

/-- **The method is found wherever its class is within sight.** -/
theorem findMethod?_defineMethod_of_visible (older : s.ParentsOlder) (hc : c < s.classes.size)
    (h : s.Visible m.name c d) : (s.defineMethod c m).findMethod? d m.name = some (c, m) := by
  refine (findMethod?_eq_some_iff_visible (older.defineMethod c m)).2 ?_
  exact ⟨method_defineMethod_self hc m, h.defineMethod older fun _ _ => Nat.le_refl c⟩

/-- **All else is found as before.** -/
theorem findMethod?_defineMethod_of_not (older : s.ParentsOlder) (hc : c < s.classes.size)
    (h : ¬(name = m.name ∧ s.Visible name c d)) :
    (s.defineMethod c m).findMethod? d name = s.findMethod? d name := by
  have entry {o : ClassId} (seen : s.Visible name o d) :
      ((s.defineMethod c m).classAt o).methods[name]? = (s.classAt o).methods[name]? := by
    refine method_defineMethod_of_ne ?_
    rintro ⟨hn, rfl⟩
    exact h ⟨hn, seen⟩
  refine Option.ext fun (o, m') => ?_
  rw [findMethod?_eq_some_iff_visible older,
    findMethod?_eq_some_iff_visible (older.defineMethod c m)]
  constructor
  · rintro ⟨put, seen⟩
    have before := seen.of_defineMethod hc
    exact ⟨(entry before).symm.trans put, before⟩
  · rintro ⟨put, seen⟩
    refine ⟨(entry seen).trans put, seen.defineMethod older fun hn hv => ?_⟩
    exact absurd ⟨hn, hv⟩ h

/-- **Defining a method changes what is found exactly where inheritance says.**  Where parents are
older and the class `c` is there, a class finds the method in `c` if `c` is within sight of it, and
finds everything else as before, and so it finds the methods of the class itself.  Whatever was
defined, what a class finds is what the one class within sight defines. -/
theorem findMethod?_defineMethod (older : s.ParentsOlder) (hc : c < s.classes.size) (m : Method)
    (d : ClassId) (name : String) :
    (name = m.name ∧ s.Visible name c d →
      (s.defineMethod c m).findMethod? d name = some (c, m)) ∧
    (¬(name = m.name ∧ s.Visible name c d) →
      (s.defineMethod c m).findMethod? d name = s.findMethod? d name) ∧
    (s.defineMethod c m).findClassMethod? d name = s.findClassMethod? d name ∧
    ∀ o m', s.findMethod? d name = some (o, m') ↔
      (s.classAt o).methods[name]? = some m' ∧ s.Visible name o d := by
  refine ⟨?_, findMethod?_defineMethod_of_not older hc, ?_, fun o m' => ?_⟩
  · rintro ⟨rfl, seen⟩
    exact findMethod?_defineMethod_of_visible older hc seen
  · exact findClassMethod?_congr (s.parent_defineMethod c m)
      (fun _ => classMethods_defineMethod m) d name
  · exact findMethod?_eq_some_iff_visible older

/-- A class that speaks, and two below it that have nothing of their own. -/
def lineage : Program :=
  [.defineClass "A" none [.defineMethod "speak" [] []], .defineClass "B" (some "A") [],
    .defineClass "C" (some "B") []]

/-- The class in between, 10, overrides what `A`, 9, says: then `C`, 11, speaks as `B` does, and `A`
as before. -/
theorem findMethod?_defineMethod_between : ∃ s : State, ∃ old : Method, s.Reachable ∧
    s.ParentsOlder ∧ 10 < s.classes.size ∧ s.findMethod? 11 "speak" = some (9, old) ∧
    old.params = [] ∧ s.Visible "speak" 10 11 ∧ ¬s.Visible "speak" 10 9 ∧
    let louder : Method := ⟨"speak", .user ["times"] []⟩
    (s.defineMethod 10 louder).findMethod? 11 "speak" = some (10, louder) ∧
      (s.defineMethod 10 louder).findMethod? 9 "speak" = some (9, old) := by
  let test (s : State) : Bool := 10 < s.classes.size && (s.classAt 11).parent == some 10
    && !s.defines "speak" 11
    && (s.findMethod? 11 "speak").any fun x => x.1 == 9 && x.2.params.isEmpty
  obtain ⟨s, reachable, ht⟩ := exists_reachable_of_run 5 100 lineage test (by decide +kernel)
  simp only [test, Bool.and_eq_true, decide_eq_true_eq, beq_iff_eq, Bool.not_eq_true',
    Option.any_eq_true, List.isEmpty_iff] at ht
  obtain ⟨⟨⟨there, parent⟩, free⟩, ⟨o, old⟩, found, rfl, silent⟩ := ht
  have older : s.ParentsOlder := reachable.tree.parentsOlder
  have below : s.Visible "speak" 10 11 := .up parent free .here
  have above : ¬s.Visible "speak" 10 9 := fun seen => absurd (seen.le older) (by decide)
  let louder : Method := ⟨"speak", .user ["times"] []⟩
  obtain ⟨overridden, -, -, finds⟩ := findMethod?_defineMethod older there louder 11 "speak"
  obtain ⟨-, same, -, finds'⟩ := findMethod?_defineMethod older there louder 9 "speak"
  have own : s.findMethod? 9 "speak" = some (9, old) :=
    (finds' 9 old).2 ⟨((finds 9 old).1 found).1, .here⟩
  exact ⟨s, old, reachable, older, there, found, silent, below, above, overridden ⟨rfl, below⟩,
    (same fun h => above h.2).trans own⟩

end State

end OpenScript
