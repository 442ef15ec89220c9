import Plotter.CommandLine

namespace Plotter

namespace Disk

def entry? (name : String) : IO (Option Entry) := do
  try
    if ← (← IO.FS.realPath name).isDir then return some .directory
    return some (.file (← IO.FS.readBinFile name).toList)
  catch _ => return none

def fetch (files : Files) (path : Text) : IO Files := do
  let mut location := Path.start path
  let mut fetched := files
  for name in Path.steps path do
    location := location.step name
    match ← entry? (String.ofList (Text.join '/' location)) with
    | some entry => fetched := fetched.put location entry
    | none => pure ()
  return fetched

def putBack (before after : Files) (path : Text) : IO Unit := do
  match after.resolve path with
  | .error _ => pure ()
  | .ok location =>
    match after.lookup? location with
    | some (.file bytes) =>
      if before.lookup? location ≠ some (.file bytes) then
        IO.FS.writeBinFile (String.ofList path) bytes.toByteArray
    | some .directory | none => pure ()

end Disk

namespace Terminal

def print (t : Text) : IO Unit := do
  let out ← IO.getStdout
  out.putStr (String.ofList t)
  out.flush

def printAside (t : Text) : IO Unit := IO.eprint (String.ofList t)

partial def chunk (input : IO.FS.Stream) (read : ByteArray) : IO ByteArray := do
  let next ← input.read 1
  if next.isEmpty then return read
  if next.toList = [10] then return read ++ next
  chunk input (read ++ next)

def failed (failure : Option Text) : IO UInt32 := do
  match failure with
  | some message =>
    printAside (Text.line message)
    return 1
  | none => return 0

partial def converse (options : Options) (s : Session) : IO UInt32 := do
  print Conversation.prompt
  let bytes := (← chunk (← IO.getStdin) ByteArray.empty).toList
  if bytes = [] then return 0
  let path? := (Text.decode? bytes).bind fun typed => (Input.read typed).path?
  let files ← path?.elim (pure ⟨[]⟩) (Disk.fetch ⟨[]⟩)
  match Conversation.hear s files bytes with
  | .over _ _ failure => failed failure
  | .goesOn output next written =>
    path?.forM (Disk.putBack files written)
    if options.verbose then printAside ((next.drawing.log.drop s.drawing.log.length).flatMap Text.line)
    print output
    converse options next

end Terminal

def usage : Text :=
  "usage: plotter check FILE | plotter run FILE [OPTION]... | plotter repl [OPTION]...\noptions: --svg FILE, --width N, --height N, --background COLOR, -v".toList

def perform (invocation : Invocation) : IO UInt32 := do
  match invocation with
  | .repl options =>
    Terminal.print (Text.line Request.helpText)
    Terminal.converse options (.blank options.size options.background)
  | .check _ | .run _ _ =>
    let files ← invocation.paths.foldlM Disk.fetch ⟨[]⟩
    let transcript := CommandLine.perform files [] invocation
    invocation.paths.forM (Disk.putBack files transcript.files)
    Terminal.printAside transcript.aside
    Terminal.print transcript.output
    Terminal.failed transcript.failure

end Plotter

def main (arguments : List String) : IO UInt32 := do
  match Plotter.Invocation.read (arguments.map String.toList) with
  | .ok invocation => Plotter.perform invocation
  | .error _ =>
    Plotter.Terminal.printAside (Plotter.Text.line Plotter.usage)
    return 2
