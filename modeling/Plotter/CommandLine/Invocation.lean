import Plotter.CommandLine.Value
import Plotter.Drawing.Sheet

namespace Plotter

structure Options where
  svg : Option Text
  size : Size
  background : Color
  verbose : Bool
deriving DecidableEq

def Options.default : Options := ⟨none, ⟨640, 480⟩, .white, false⟩

inductive Invocation
  | check (file : Text)
  | run (file : Text) (options : Options)
  | repl (options : Options)
deriving DecidableEq

/-- Why nothing is done: the usage is wrong, or help or the version is asked for. -/
inductive Refusal
  | nothingAsked
  | help
  | version
  | unknownActivity
  | missingFile
  | unknownArgument
  /-- An option lacks its value, or a path is empty. -/
  | missingValue
  | unwantedValue
  | badValue (error : ValueError)
  | repeated
deriving DecidableEq

inductive Activity
  | check
  | run
  | repl
deriving DecidableEq

namespace Activity

def named? (word : Text) : Option Activity :=
  if word = "check".toList then some check
  else if word = "run".toList then some run
  else if word = "repl".toList then some repl
  else none

def takesFile : Activity → Bool
  | check | run => true
  | repl => false

def takesOptions : Activity → Bool
  | check => false
  | run | repl => true

end Activity

inductive Argument
  /-- Two dashes: all that follows is plain. -/
  | escape
  | long (name : Text) (value : Option Text)
  | short (flags : Text)
  | plain (text : Text)

def Argument.read : Text → Argument
  | ['-', '-'] => escape
  | '-' :: '-' :: rest =>
    match rest.span (· ≠ '=') with
    | (name, []) => long name none
    | (name, _ :: value) => long name (some value)
  | '-' :: c :: rest => short (c :: rest)
  | t => plain t

inductive Setting
  | svg
  | width
  | height
  | background
deriving DecidableEq

def Setting.named? (word : Text) : Option Setting :=
  if word = "svg".toList then some svg
  else if word = "width".toList then some width
  else if word = "height".toList then some height
  else if word = "background".toList then some background
  else none

structure Given where
  file : Option Text
  svg : Option Text
  width : Option UInt32
  height : Option UInt32
  background : Option Color
  verbose : Bool

namespace Given

def nothing : Given := ⟨none, none, none, none, none, false⟩

def isSet (g : Given) : Setting → Bool
  | .svg => g.svg.isSome
  | .width => g.width.isSome
  | .height => g.height.isSome
  | .background => g.background.isSome

def set (g : Given) (setting : Setting) (value : Text) : Except Refusal Given :=
  if g.isSet setting then .error .repeated
  else
    match setting with
    | .svg => if value = [] then .error .missingValue else .ok { g with svg := some value }
    | .width => ((Value.readDimension value).map fun n => { g with width := some n }).mapError .badValue
    | .height => ((Value.readDimension value).map fun n => { g with height := some n }).mapError .badValue
    | .background => ((Value.readColor value).map fun c => { g with background := some c }).mapError .badValue

def setFile (g : Given) (path : Text) : Except Refusal Given :=
  if path = [] then .error .missingValue else .ok { g with file := some path }

def setVerbose (g : Given) : Except Refusal Given :=
  if g.verbose then .error .repeated else .ok { g with verbose := true }

def options (g : Given) : Options :=
  ⟨g.svg, ⟨g.width.getD Options.default.size.width, g.height.getD Options.default.size.height⟩,
    g.background.getD Options.default.background, g.verbose⟩

def invocation (g : Given) : Activity → Except Refusal Invocation
  | .check => (g.file.elim (.error .missingFile)) fun file => .ok (.check file)
  | .run => (g.file.elim (.error .missingFile)) fun file => .ok (.run file g.options)
  | .repl => .ok (.repl g.options)

end Given

inductive Pending
  | nothing
  | setting (setting : Setting) (value : Option Text)
  | file (path : Text)

structure Scan where
  given : Given
  pending : Pending
  escaped : Bool

namespace Scan

def start : Scan := ⟨.nothing, .nothing, false⟩

def settle (s : Scan) : Except Refusal Given :=
  match s.pending with
  | .nothing => .ok s.given
  | .setting _ none => .error .missingValue
  | .setting setting (some value) => s.given.set setting value
  | .file path => s.given.setFile path

def hasFile (s : Scan) : Bool :=
  match s.pending with
  | .file _ => true
  | .nothing | .setting _ _ => s.given.file.isSome

def takePlain (s : Scan) (activity : Activity) (t : Text) : Except Refusal Scan :=
  if activity.takesFile && !s.hasFile then s.settle.map fun given => { s with given, pending := .file t }
  else .error .unknownArgument

def takeVerbose (s : Scan) : Except Refusal Scan :=
  (s.settle.bind Given.setVerbose).map fun given => { s with given, pending := .nothing }

def takeHelp (s : Scan) : Except Refusal Scan := s.settle.bind fun _ => .error .help

def takeFlags (s : Scan) (activity : Activity) : Text → Except Refusal Scan
  | [] => .ok s
  | flag :: flags =>
    if flag = 'h' then s.takeHelp
    else if flag = 'v' ∧ activity.takesOptions then s.takeVerbose.bind fun next => next.takeFlags activity flags
    else .error .unknownArgument

def takeSetting (s : Scan) (setting : Setting) : Option Text → Except Refusal Scan
  | none => s.settle.map fun given => { s with given, pending := .setting setting none }
  | some value =>
    (s.settle.bind fun given => given.set setting value).map fun given => { s with given, pending := .nothing }

def takeLong (s : Scan) (activity : Activity) (name : Text) (value : Option Text) : Except Refusal Scan :=
  match if activity.takesOptions then Setting.named? name else none with
  | some setting => s.takeSetting setting value
  | none =>
    if name = "help".toList then
      if value.isSome then .error .unwantedValue else s.takeHelp
    else if name = "verbose".toList ∧ activity.takesOptions then
      if value.isSome then .error .unwantedValue else s.takeVerbose
    else .error .unknownArgument

def take (activity : Activity) (s : Scan) (t : Text) : Except Refusal Scan :=
  if s.escaped then s.takePlain activity t
  else
    match Argument.read t with
    | .escape => .ok { s with escaped := true }
    | .long name value => s.takeLong activity name value
    | .short flags => s.takeFlags activity flags
    | .plain t =>
      match s.pending with
      | .setting setting none => .ok { s with pending := .setting setting (some t) }
      | .nothing | .setting _ (some _) | .file _ => s.takePlain activity t

end Scan

namespace Invocation

def paths : Invocation → List Text
  | check file => [file]
  | run file options => file :: options.svg.toList
  | repl _ => []

def readFor (activity : Activity) (arguments : List Text) : Except Refusal Invocation :=
  ((arguments.foldlM (Scan.take activity) Scan.start).bind Scan.settle).bind fun given => given.invocation activity

def isKnown (word : Text) : Bool := (Activity.named? word).isSome || word = "help".toList

def readHelp : List Text → Refusal
  | [] => .help
  | [word] => if isKnown word then .help else .unknownActivity
  | _ :: _ :: _ => .unknownActivity

def readWord (word : Text) (arguments : List Text) : Except Refusal Invocation :=
  match Activity.named? word with
  | some activity => readFor activity arguments
  | none => .error (if word = "help".toList then readHelp arguments else .unknownActivity)

def readLong (name : Text) (value : Option Text) : Refusal :=
  if name = "help".toList then if value.isSome then .unwantedValue else .help
  else if name = "version".toList then if value.isSome then .unwantedValue else .version
  else .unknownArgument

def readFlag (flag : Option Char) : Refusal :=
  if flag = some 'h' then .help else if flag = some 'V' then .version else .unknownArgument

def readEscaped : List Text → Refusal
  | [] => .nothingAsked
  | word :: _ => if isKnown word then .unknownArgument else .unknownActivity

def read : List Text → Except Refusal Invocation
  | [] => .error .nothingAsked
  | first :: arguments =>
    match Argument.read first with
    | .escape => .error (readEscaped arguments)
    | .long name value => .error (readLong name value)
    | .short flags => .error (readFlag flags.head?)
    | .plain word => readWord word arguments

end Invocation

end Plotter
