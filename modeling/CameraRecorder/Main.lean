import CameraRecorder.CommandLine.Outcome

/-!
# The program

Looks at the files that the command line names, works out what it comes to, and makes it so.
-/

open CameraRecorder

namespace CameraRecorder.CommandLine

/-- The paths that a command line reads or writes. -/
def pathsOf (arguments : List String) : List Path :=
  match Command.parse arguments with
  | .ok command => command.paths.map Path.ofString
  | .error _ => []

/-- Adds what stands at a path and on the way to it, as far as it can be read. A directory is known
by the dot inside it. -/
def observe (d : Disk) (p : Path) : IO Disk := do
  let mut seen := d
  for count in List.range (p.segments.length + 1) do
    let here := Path.ofSegments (p.segments.take count)
    if let some name := here.toString? then
      if let .ok content ← (IO.FS.readBinFile name).toBaseIO then
        seen := seen.store here content.toList
      else if let .ok _ ← (IO.FS.realPath (name ++ "/.")).toBaseIO then
        seen := (seen.createDirectories here).1
  return seen

/-- The disk as a command line sees it. -/
def observeAll (paths : List Path) : IO Disk := do
  let home := Path.ofString (toString (← IO.currentDir))
  paths.foldlM observe (Disk.withHome {} home.names)

/-- Brings about what has changed on a disk. -/
def commit (before after : Disk) : IO Unit := do
  let old := before.listing .root
  for (p, content) in after.listing .root do
    if (p, content) ∉ old then
      if let some name := p.toString? then
        match content with
        | none => IO.FS.createDirAll ("/" ++ name)
        | some bytes => IO.FS.writeBinFile ("/" ++ name) bytes.toByteArray

end CameraRecorder.CommandLine

def main (arguments : List String) : IO UInt32 := do
  let before ← CommandLine.observeAll (CommandLine.pathsOf arguments)
  let outcome := CommandLine.run arguments before
  CommandLine.commit before outcome.disk
  IO.print outcome.printed
  if let some complaint := outcome.exit.complaint? then IO.eprintln complaint
  return outcome.exit.code
