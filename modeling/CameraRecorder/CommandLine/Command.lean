import CameraRecorder.CommandLine.Arguments

/-!
# Commands

The program records synthetic streams, inspects a recorded file, or prints settings to begin with.
-/

namespace CameraRecorder.CommandLine

/-- What there is help about. -/
inductive Topic where
  | overview
  | record
  | inspect
  | sampleConfig
  | help
deriving DecidableEq, Repr

/-- What the program is asked to do. -/
inductive Command where
  /-- Record into a directory, with settings from a file or with sample settings. -/
  | record (config : Option String) (output : String) (seconds : Nat)
  /-- Show the snapshot at the end of a file. -/
  | inspect (file : String)
  /-- Print sample settings. -/
  | sampleConfig (cameraId : UInt32)
  | help (topic : Topic)
deriving DecidableEq, Repr

namespace Command

/-- How long the program records unless it is told. -/
def usualSeconds : Nat := 5

/-- Reads the arguments of a command, or gives help about it. -/
def read (topic : Topic) (signature : Signature) (arguments : List String)
    (make : Given → Except UsageError Command) : Except UsageError Command := do
  match ← readArguments signature arguments [] with
  | none => return .help topic
  | some given => make given

def readRecord (arguments : List String) : Except UsageError Command :=
  read .record ⟨[("config", .path), ("output", .path), ("seconds", .word64)], []⟩ arguments
    fun given => do
      return .record (given.value? "config") (← given.require "output")
        ((given.number? "seconds" .word64).getD usualSeconds)

def readInspect (arguments : List String) : Except UsageError Command :=
  read .inspect ⟨[], [("FILE", .path)]⟩ arguments fun given => do
    return .inspect (← given.require "FILE")

def readSampleConfig (arguments : List String) : Except UsageError Command :=
  read .sampleConfig ⟨[("camera-id", .word32)], []⟩ arguments fun given => do
    return .sampleConfig (.ofNat ((given.number? "camera-id" .word32).getD 0))

/-- Reads what there should be help about. -/
def readHelp : List String → Except UsageError Command
  | [] => .ok (.help .overview)
  | ["record"] => .ok (.help .record)
  | ["inspect"] => .ok (.help .inspect)
  | ["sample-config"] => .ok (.help .sampleConfig)
  | ["help"] => .ok (.help .help)
  | name :: names =>
    .error (.unknownCommand
      (if name ∈ ["record", "inspect", "sample-config", "help"] then names.headD name else name))

/-- Reads a command line. -/
def parse : List String → Except UsageError Command
  | [] => .error .missingCommand
  | "record" :: rest => readRecord rest
  | "inspect" :: rest => readInspect rest
  | "sample-config" :: rest => readSampleConfig rest
  | "help" :: rest => readHelp rest
  | argument :: _ =>
    if callsForHelp argument then .ok (.help .overview)
    else match lookOf argument with
      | .plain => .error (.unknownCommand argument)
      | .separator => .error .missingCommand
      | _ => .error (.unknownArgument argument)

/-- The paths that a command reads or writes. -/
def paths : Command → List String
  | record config output _ => config.toList ++ [output]
  | inspect file => [file]
  | sampleConfig _ => []
  | help _ => []

end Command

def Topic.lines : Topic → List String
  | overview => [
    "Record synthetic camera streams through the muxer",
    "",
    "Usage: camrec <COMMAND>",
    "",
    "Commands:",
    "  record         Record synthetic frames into split output files",
    "  inspect        Show the thumbnail box embedded at the end of a recorded file",
    "  sample-config  Print a session config for a single 1080p camera",
    "  help           Print this message or the help of the given subcommand(s)",
    "",
    "Options:",
    "  -h, --help  Print help"]
  | record => [
    "Record synthetic frames into split output files",
    "",
    "Usage: camrec record [OPTIONS] --output <OUTPUT>",
    "",
    "Options:",
    "      --config <CONFIG>    Session config as JSON. Uses the sample config when omitted",
    "      --output <OUTPUT>    Directory to write recordings to",
    "      --seconds <SECONDS>  How long to record for [default: 5]",
    "  -h, --help               Print help"]
  | inspect => [
    "Show the thumbnail box embedded at the end of a recorded file",
    "",
    "Usage: camrec inspect <FILE>",
    "",
    "Arguments:",
    "  <FILE>  ",
    "",
    "Options:",
    "  -h, --help  Print help"]
  | sampleConfig => [
    "Print a session config for a single 1080p camera",
    "",
    "Usage: camrec sample-config [OPTIONS]",
    "",
    "Options:",
    "      --camera-id <CAMERA_ID>  [default: 0]",
    "  -h, --help                   Print help"]
  | help => [
    "Print this message or the help of the given subcommand(s)",
    "",
    "Usage: camrec help [COMMAND]...",
    "",
    "Arguments:",
    "  [COMMAND]...  Print help for the subcommand(s)"]

def Topic.page (topic : Topic) : String := String.join (topic.lines.map (· ++ "\n"))

end CameraRecorder.CommandLine
