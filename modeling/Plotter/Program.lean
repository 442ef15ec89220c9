import Plotter.Drawing

namespace Plotter

structure Line where
  number : Nat
  text : Text
deriving DecidableEq

namespace Line

/-- The lines that are not blank, when the first of the given ones has number `n`. -/
def numbered (n : Nat) : List Text → List Line
  | [] => []
  | t :: ts => if t.trim = [] then numbered (n + 1) ts else ⟨n, t.trim⟩ :: numbered (n + 1) ts

def ofSource (source : Text) : List Line := numbered 1 (source.splitOn '\n')

end Line

structure ProgramError where
  line : Line
  cause : CommandError
deriving DecidableEq

def ProgramError.message (e : ProgramError) : Text :=
  "error @ line ".toList ++ Text.ofNat e.line.number ++ ": ".toList ++ e.cause.message ++
    " (in \"".toList ++ e.line.text ++ "\")".toList

namespace Line

def error? (l : Line) : Option ProgramError :=
  match Command.read l.text with
  | .ok _ => none
  | .error cause => some ⟨l, cause⟩

end Line

def validate (source : Text) : Except ProgramError Nat :=
  match (Line.ofSource source).findSome? Line.error? with
  | some e => .error e
  | none => .ok (Line.ofSource source).length

namespace Drawing

/-- Executes lines up to the first that is rejected. What was drawn before it stays. -/
def runLines (d : Drawing) : List Line → Drawing × Option ProgramError
  | [] => (d, none)
  | l :: ls =>
    match d.enter l.text with
    | .ok next => next.runLines ls
    | .error cause => (d, some ⟨l, cause⟩)

def run (d : Drawing) (source : Text) : Drawing × Except ProgramError Nat :=
  match d.runLines (Line.ofSource source) with
  | (next, some e) => (next, .error e)
  | (next, none) => (next, .ok (Line.ofSource source).length)

end Drawing

end Plotter
