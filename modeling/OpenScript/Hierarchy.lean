import OpenScript.State

/-!
# Hierarchy — inheritance and method tables

A class inherits from a class made before it, so the chain of ancestors goes down in ids and ends.
A method is found in the nearest ancestor whose table has its name.
-/

namespace OpenScript.State

/-- A class and its ancestors, nearest first. -/
def ancestors (s : State) (c : ClassId) : List ClassId :=
  c :: match (s.classAt c).parent with
    | some p => if p < c then s.ancestors p else []
    | none => []
termination_by c

/-- The instance method of that name, and the class that defines it. -/
def findMethod? (s : State) (c : ClassId) (name : String) : Option (ClassId × Method) :=
  (s.ancestors c).findSome? fun a => (s.classAt a).methods[name]?.map (a, ·)

/-- The method of that name of the class itself, and the class that defines it. -/
def findClassMethod? (s : State) (c : ClassId) (name : String) : Option (ClassId × Method) :=
  (s.ancestors c).findSome? fun a => (s.classAt a).classMethods[name]?.map (a, ·)

/-- Adds an instance method, or replaces the one of the same name. -/
def defineMethod (s : State) (c : ClassId) (m : Method) : State :=
  s.modifyClass c fun x => { x with methods := x.methods.insert m.name m }

/-- Adds a method of the class itself, or replaces the one of the same name. -/
def defineClassMethod (s : State) (c : ClassId) (m : Method) : State :=
  s.modifyClass c fun x => { x with classMethods := x.classMethods.insert m.name m }

end OpenScript.State
