import Plotter.Text

namespace Plotter

inductive FileCause
  | zeroCharacter
  | tooLong
  | notFound
  | notDirectory
  | isDirectory
  | notText
deriving DecidableEq

def FileCause.message : FileCause → Text
  | zeroCharacter => "file name contained an unexpected NUL byte".toList
  | tooLong => "File name too long (os error 36)".toList
  | notFound => "No such file or directory (os error 2)".toList
  | notDirectory => "Not a directory (os error 20)".toList
  | isDirectory => "Is a directory (os error 21)".toList
  | notText => "stream did not contain valid UTF-8".toList

inductive FileError
  | read (path : Text) (cause : FileCause)
  | write (path : Text) (cause : FileCause)
deriving DecidableEq

def FileError.message : FileError → Text
  | read path cause => "cannot read ".toList ++ path ++ ": ".toList ++ cause.message
  | write path cause => "cannot write ".toList ++ path ++ ": ".toList ++ cause.message

/-- The names that lead to an entry from the working directory. Steps out of it, or the root, come
first and only there. -/
abbrev Location := List Text

namespace Location

def working : Location := []

def root : Location := [['/']]

def up : Text := ['.', '.']

def isAncestor (l : Location) : Bool := l.all (· = up)

def isFixed (l : Location) : Bool := l = root || l.isAncestor

def isInside (l : Location) : Bool := l.head?.any fun name => name ≠ up && name ≠ ['/']

/-- The directory that holds an entry; the root holds itself. -/
def parent (l : Location) : Location :=
  if l = root then root else if l.isAncestor then l ++ [up] else l.dropLast

/-- A name that is empty or a single dot stays, and a double dot leads up. -/
def step (l : Location) (name : Text) : Location :=
  if name = [] ∨ name = ['.'] then l
  else if name = up then l.parent
  else l ++ [name]

end Location

namespace Path

def stepLimit : Nat := 255

def limit : Nat := 4095

def fault? (path : Text) : Option FileCause :=
  if '\x00' ∈ path then some .zeroCharacter
  else if path = [] then some .notFound
  else if limit < path.encode.length then some .tooLong
  else none

def start (path : Text) : Location := if path.head? = some '/' then .root else .working

def steps (path : Text) : List Text := path.splitOn '/'

/-- All steps but the last that is not empty, and an empty one that asks for a directory there. -/
def stepsToParent (path : Text) : List Text :=
  ((steps path).reverse.dropWhile (· = [])).tail.reverse ++ [[]]

end Path

end Plotter
