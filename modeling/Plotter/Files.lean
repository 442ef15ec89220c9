import Plotter.Files.Path

namespace Plotter

inductive Entry
  | file (bytes : Bytes)
  | directory
deriving DecidableEq

structure Files where
  entries : List (Location × Entry)
deriving DecidableEq

namespace Files

def find? : List (Location × Entry) → Location → Option Entry
  | [], _ => none
  | (l, e) :: rest, location => if l = location then some e else find? rest location

def lookup? (f : Files) (location : Location) : Option Entry :=
  if location.isFixed then some .directory else find? f.entries location

def replace : List (Location × Entry) → Location → Entry → List (Location × Entry)
  | [], location, entry => [(location, entry)]
  | (l, e) :: rest, location, entry =>
    if l = location then (l, entry) :: rest else (l, e) :: replace rest location entry

def put (f : Files) (location : Location) (entry : Entry) : Files := ⟨replace f.entries location entry⟩

def inside (f : Files) : List (Location × Entry) := f.entries.filter fun p => p.1.isInside

/-- Takes the steps from a location. Each one starts in a directory; what it leads to need not exist. -/
def follow (f : Files) (location : Location) : List Text → Except FileCause Location
  | [] => .ok location
  | name :: names =>
    match f.lookup? location with
    | none => .error .notFound
    | some (.file _) => .error .notDirectory
    | some .directory =>
      if Path.stepLimit < name.encode.length then .error .tooLong
      else f.follow (location.step name) names

def walk (f : Files) (path : Text) (steps : List Text) : Except FileCause Location :=
  match Path.fault? path with
  | some cause => .error cause
  | none => f.follow (Path.start path) steps

def resolve (f : Files) (path : Text) : Except FileCause Location := f.walk path (Path.steps path)

/-- Where to write. A path that ends in a slash can only mean a directory, so its last name is not
looked at. -/
def target (f : Files) (path : Text) : Except FileCause Location :=
  if path.getLast? = some '/' then
    match f.walk path (Path.stepsToParent path) with
    | .error cause => .error cause
    | .ok _ => .error .isDirectory
  else f.resolve path

def contents (f : Files) (location : Location) : Except FileCause Text :=
  match f.lookup? location with
  | none => .error .notFound
  | some .directory => .error .isDirectory
  | some (.file bytes) =>
    match Text.decode? bytes with
    | none => .error .notText
    | some text => .ok text

def read (f : Files) (path : Text) : Except FileError Text :=
  ((f.resolve path).bind f.contents).mapError (.read path)

def store (f : Files) (text : Text) (location : Location) : Except FileCause Files :=
  match f.lookup? location with
  | some .directory => .error .isDirectory
  | some (.file _) | none => .ok (f.put location (.file text.encode))

def write (f : Files) (path text : Text) : Except FileError Files :=
  ((f.target path).bind (f.store text)).mapError (.write path)

end Files

end Plotter
