/-!
# Error — what can go wrong

A run fails for one of a few causes, each with a kind and a message; the message alone names what
was involved.  A `Failure` is what a host sees: a run that failed, or a file, a program or a
configuration that could not be read.
-/

namespace OpenScript

/-- The kinds of error a run can end with. -/
inductive ErrorKind where
  | undefinedClass
  | noMethod
  | argument
  | type
  | stackOverflow
  | io
  deriving DecidableEq, Repr, Inhabited

/-- The word for a kind of error. -/
def ErrorKind.label : ErrorKind → String
  | .undefinedClass => "UndefinedClassError"
  | .noMethod => "NoMethodError"
  | .argument => "ArgumentError"
  | .type => "TypeError"
  | .stackOverflow => "StackOverflowError"
  | .io => "IOError"

/-- Why a run failed. -/
inductive RuntimeError where
  /-- A class is to extend something that is no class. -/
  | undefinedClass (name : String)
  | noMethod (className method : String)
  /-- A method cannot use its arguments. -/
  | argument (message : String)
  /-- A method is called with the wrong number of arguments. -/
  | arity (method : String) (expected got : Nat)
  | dividedByZero
  /-- A value of one class stands where something else is needed. -/
  | type (expected got : String)
  /-- More methods and lambdas are running than the limit allows. -/
  | stackOverflow (limit : Nat)
  | io (message : String)
  deriving DecidableEq, Repr, Inhabited

namespace RuntimeError

/-- The kind of an error. -/
def kind : RuntimeError → ErrorKind
  | .undefinedClass _ => .undefinedClass
  | .noMethod .. => .noMethod
  | .argument _ | .arity .. | .dividedByZero => .argument
  | .type .. => .type
  | .stackOverflow _ => .stackOverflow
  | .io _ => .io

/-- The message of an error. -/
def message : RuntimeError → String
  | .undefinedClass name => "cannot extend undefined class \"" ++ name ++ "\""
  | .noMethod className method => "undefined method `" ++ method ++ "` for " ++ className
  | .argument message => message
  | .arity method expected got =>
    method ++ " expects " ++ Nat.repr expected ++ " argument(s), got " ++ Nat.repr got
  | .dividedByZero => "divided by 0"
  | .type expected got => "type error: expected " ++ expected ++ ", got " ++ got
  | .stackOverflow limit => "stack overflow: more than " ++ Nat.repr limit ++ " nested calls"
  | .io message => "IO error: " ++ message

/-- The kind and the message of an error. -/
def text (e : RuntimeError) : String := e.kind.label ++ ": " ++ e.message

end RuntimeError

/-- What a host can see go wrong. -/
inductive Failure where
  | io (message : String)
  /-- A text that is no program. -/
  | parse (message : String)
  /-- A text that is no configuration. -/
  | config (message : String)
  | runtime (error : RuntimeError)
  deriving DecidableEq, Repr, Inhabited

namespace Failure

/-- How a failure is shown. -/
def text : Failure → String
  | .io message => "IO error: " ++ message
  | .parse message => "Parse error: " ++ message
  | .config message => "Config error: " ++ message
  | .runtime e => e.text

/-- The error of the run, if it was a run that failed. -/
def runtime? : Failure → Option RuntimeError
  | .runtime e => some e
  | _ => none

end Failure

end OpenScript
