import OpenScript.Config

/-!
# Command — the command line

`run FILE [--config FILE] [--max-depth N]` evaluates a program, `check FILE` only reads it, and
`--version` names the program.  Options may be written `--name value` or `--name=value` and stand
anywhere behind the command, and everything behind `--` is an argument.  The exit code is 1 for a
failure and 2 for arguments that make no sense.
-/

namespace OpenScript

/-- What the command line asks for. -/
inductive Command where
  | run (file : String) (config : Option String) (maxDepth : Option Nat)
  | check (file : String)
  | version
  deriving DecidableEq, Repr, Inhabited

/-- What a command leaves behind. -/
structure Report where
  code : Nat := 0
  out : String := ""
  error : String := ""
  deriving DecidableEq, Repr, Inhabited

namespace Command

/-! ## Arguments -/

/-- The arguments of a command, as far as they have been read. -/
structure Given where
  /-- The arguments that are no options, the last first. -/
  files : List String := []
  config : Option String := none
  maxDepth : Option Nat := none
  deriving DecidableEq, Repr, Inhabited

/-- A number: decimal digits behind an optional plus sign, of a value that fits in 64 bits. -/
def number? (text : String) : Option Nat :=
  let ds := match text.toList with
    | '+' :: ds => ds
    | ds => ds
  if ds.isEmpty || !ds.all Char.isDigit then none
  else
    let n := Decimal.digitsValue ds
    if n < Decimal.unsignedBound then some n else none

/-- Gives an argument that is no option; an empty one is refused. -/
def Given.addFile? (g : Given) (file : String) : Option Given :=
  if file.isEmpty then none else some { g with files := file :: g.files }

/-- Gives an option a value; each option has at most one. -/
def Given.setOption? (g : Given) (name value : String) : Option Given :=
  match name with
  | "config" =>
    if value.isEmpty || g.config.isSome then none else some { g with config := some value }
  | "max-depth" =>
    if g.maxDepth.isSome then none else (number? value).map fun n => { g with maxDepth := some n }
  | _ => none

/-- A word that is no option: it does not start with a minus sign, or is nothing else. -/
def isPlain (word : String) : Bool := word == "-" || !word.startsWith "-"

/-- The name of a long option and the value behind its equals sign, if it has one. -/
def splitOption? (word : String) : Option (String × Option String) :=
  match word.toList with
  | '-' :: '-' :: cs =>
    let name := String.ofList (cs.takeWhile (· != '='))
    match cs.dropWhile (· != '=') with
    | [] => some (name, none)
    | _ :: value => some (name, some (String.ofList value))
  | _ => none

/-- Reads arguments. -/
def readArguments? (g : Given) : List String → Option Given
  | [] => some g
  | "--" :: words => words.foldlM Given.addFile? g
  | word :: words =>
    if isPlain word then do readArguments? (← g.addFile? word) words
    else
      match splitOption? word, words with
      | some (name, some value), words => do readArguments? (← g.setOption? name value) words
      | some (name, none), value :: words =>
        if isPlain value then do readArguments? (← g.setOption? name value) words else none
      | _, _ => none

/-- The command that a command line asks for.  The short option for the version may have other short
options, which are not looked at, written behind it. -/
def ofArguments? : List String → Option Command
  | "--version" :: _ => some .version
  | "run" :: words => do
    match ← readArguments? {} words with
    | ⟨[file], config, maxDepth⟩ => some (.run file config maxDepth)
    | _ => none
  | "check" :: words => do
    match ← readArguments? {} words with
    | ⟨[file], none, none⟩ => some (.check file)
    | _ => none
  | word :: _ => if word.startsWith "-V" then some .version else none
  | [] => none

/-- The paths of the files that a command reads. -/
def paths : Command → List String
  | .run file config _ => config.toList ++ [file]
  | .check file => [file]
  | .version => []

/-! ## Execution -/

/-- The report of a failure. -/
def failed (out : String) (e : Failure) : Report :=
  { code := 1, out, error := "Error: " ++ e.text ++ "\n" }

/-- The settings that a run asks for. -/
def settings (files : String → FileEntry) (config : Option String) (maxDepth : Option Nat) :
    Except Failure Config := do
  let c ← match config with
    | some path => Config.load path (files path)
    | none => .ok {}
  return { c with maxDepth := maxDepth.getD c.maxDepth }

/-- Evaluates the program in a file. -/
def runFile (fuel : Nat) (files : String → FileEntry) (file : String) (config : Option String)
    (maxDepth : Option Nat) : Option Report :=
  match settings files config maxDepth with
  | .error e => some (failed "" e)
  | .ok c =>
    ((State.initial c.maxDepth).load fuel jsonParser file (files file)).map fun (r, s) =>
      match r with
      | .ok (some _) => { out := s.output }
      | .ok none => failed s.output (.io (file ++ ": no such file"))
      | .error e => failed s.output e

/-- Reads the program in a file. -/
def checkFile (files : String → FileEntry) (file : String) : Report :=
  match (files file).text with
  | .error reason => failed "" (.io reason)
  | .ok text =>
    match jsonParser text with
    | .error e => failed "" e
    | .ok p =>
      { out := "✓ " ++ file ++ " parses (" ++ Nat.repr p.length ++ " top-level statements)\n" }

/-- Carries out a command on files, unless a run takes more steps than the fuel. -/
def execute (fuel : Nat) (files : String → FileEntry) : Command → Option Report
  | .run file config maxDepth => runFile fuel files file config maxDepth
  | .check file => some (checkFile files file)
  | .version => some { out := "ember 0.1.0\n" }

/-- The report on arguments that make no sense. -/
def misused : Report := { code := 2 }

/-- Carries out a command line. -/
def main (fuel : Nat) (files : String → FileEntry) (words : List String) : Option Report :=
  match ofArguments? words with
  | some c => c.execute fuel files
  | none => some misused

end Command

end OpenScript
