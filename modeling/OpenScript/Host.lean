import OpenScript.Eval.Node
import OpenScript.Program.Decode

/-!
# Host — using an interpreter from outside

What a program that embeds the interpreter can do with it.  Calls from the host run on behalf of the
root namespace.  A source text goes through a parser the host may choose, and whatever goes wrong
comes back as a `Failure` with the state it left.
-/

namespace OpenScript

/-- Turns source text into a program. -/
abbrev Parser := String → Except Failure Program

/-- Reads programs written as JSON. -/
def jsonParser : Parser := fun text =>
  match Program.parse text with
  | some p => .ok p
  | none => .error (.parse "the text is not a program")

/-- Why there is nothing under a path. -/
inductive Absence where
  | noEntry
  /-- The path goes on behind a file. -/
  | notDirectory
  | nameTooLong
  deriving DecidableEq, Repr, Inhabited

/-- The words for it. -/
def Absence.reason : Absence → String
  | .noEntry => "No such file or directory (os error 2)"
  | .notDirectory => "Not a directory (os error 20)"
  | .nameTooLong => "File name too long (os error 36)"

/-- What is found under the path of a file. -/
inductive FileEntry where
  | absent (why : Absence)
  | directory
  | content (bytes : ByteArray)
  deriving Inhabited

namespace FileEntry

/-- The text of a file, or why it cannot be read. -/
def text : FileEntry → Except String String
  | .absent why => .error why.reason
  | .directory => .error "Is a directory (os error 21)"
  | .content bytes =>
    match String.fromUTF8? bytes with
    | some text => .ok text
    | none => .error "stream did not contain valid UTF-8"

/-- The text of the file with the given path, which a failure names. -/
def textAt (path : String) (file : FileEntry) : Except Failure String :=
  file.text.mapError fun reason => .io (path ++ ": " ++ reason)

end FileEntry

namespace Eval

/-- Evaluates a program in a frame. -/
def programIn (p : Program) (f : FrameId) : Eval Value := do return (← statements p f).value

/-- Evaluates a program in the root namespace. -/
def program (p : Program) : Eval Value := programIn p Core.root

/-- Calls a method from the host. -/
def call (receiver : Value) (name : String) (vs : List Value) : Eval Value :=
  send receiver name vs Core.root

end Eval

/-- What a host operation leaves: its result or why it failed, and the state. -/
abbrev HostResult (α : Type) := Except Failure α × State

namespace State

/-- Runs an evaluation for the host. -/
def evaluate (fuel : Nat) (x : Eval α) (s : State) : Option (HostResult α) :=
  (x.run fuel s).map fun (r, s) => (r.mapError .runtime, s)

/-- Parses a source text and evaluates it in the root namespace. -/
def evaluateSource (fuel : Nat) (parse : Parser) (text : String) (s : State) :
    Option (HostResult Value) :=
  match parse text with
  | .ok p => s.evaluate fuel (Eval.program p)
  | .error e => some (.error e, s)

/-- Evaluates the file with the given path.  It is no failure if there is nothing under the path. -/
def load (fuel : Nat) (parse : Parser) (path : String) (file : FileEntry) (s : State) :
    Option (HostResult (Option Value)) :=
  match file with
  | .absent _ => some (.ok none, s)
  | file =>
    match file.textAt path with
    | .ok text => (s.evaluateSource fuel parse text).map fun (r, s) => (r.map some, s)
    | .error e => some (.error e, s)

/-- Takes what has been printed. -/
def takeOutput (s : State) : String × State := (s.output, { s with output := "" })

/-- Installs a probe as a method of the instances of a class, or of the class itself. -/
def defineProbe (s : State) (c : ClassId) (ofClass : Bool) (name : String) (p : Probe) : State :=
  let m : Method := ⟨name, .native (.probe p)⟩
  if ofClass then s.defineClassMethod c m else s.defineMethod c m

end State

end OpenScript
