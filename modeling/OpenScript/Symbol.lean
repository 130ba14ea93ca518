import Std.Data.TreeMap

/-!
# Symbol — names as handles

Equal names get the same handle, and a handle keeps its name for good: the table only grows.
-/

namespace OpenScript

/-- The handle of an interned name: its place in the table. -/
abbrev SymbolId := Nat

/-- The names interned so far, each once: the name of a handle, and the handle of a name. -/
structure SymbolTable where
  names : Array String
  ids : Std.TreeMap String SymbolId
  /-- Both say the same. -/
  inverse : ∀ (name : String) (i : SymbolId), ids[name]? = some i ↔ names[i]? = some name

namespace SymbolTable

instance : EmptyCollection SymbolTable where
  emptyCollection :=
    { names := #[]
      ids := {}
      inverse := fun name i => by
        rw [Std.TreeMap.getElem?_emptyc, Array.getElem?_empty]
        exact iff_of_false nofun nofun }

instance : Inhabited SymbolTable := ⟨∅⟩

/-- What is added on both sides is found on both sides. -/
theorem inverse_push (table : SymbolTable) {new : String} (h : table.ids[new]? = none)
    (name : String) (i : SymbolId) :
    (table.ids.insert new table.names.size)[name]? = some i ↔
      (table.names.push new)[i]? = some name := by
  rw [Std.TreeMap.getElem?_insert, Array.getElem?_push]
  by_cases same : new = name
  · subst same
    rw [if_pos Std.compare_self]
    by_cases last : i = table.names.size
    · rw [if_pos last]
      exact iff_of_true (congrArg some last.symm) rfl
    · rw [if_neg last, ← table.inverse, h]
      exact iff_of_false (fun e => last (Option.some.inj e).symm) nofun
  · rw [if_neg fun e => same (Std.compare_eq_iff_eq.1 e), table.inverse]
    by_cases last : i = table.names.size
    · rw [if_pos last, last, Array.getElem?_eq_none (Nat.le_refl _)]
      exact iff_of_false nofun fun e => same (Option.some.inj e)
    · rw [if_neg last]

/-- The handle of a name, which is added if it is new. -/
def intern (table : SymbolTable) (name : String) : SymbolId × SymbolTable :=
  match h : table.ids[name]? with
  | some i => (i, table)
  | none =>
    let i := table.names.size
    (i, ⟨table.names.push name, table.ids.insert name i, table.inverse_push h⟩)

/-- The name of a handle. -/
def resolve (table : SymbolTable) (i : SymbolId) : String := table.names[i]?.getD ""

/-- How many names there are. -/
def size (table : SymbolTable) : Nat := table.names.size

/-- Whether no name has been interned. -/
def isEmpty (table : SymbolTable) : Bool := table.names.isEmpty

end SymbolTable

end OpenScript
