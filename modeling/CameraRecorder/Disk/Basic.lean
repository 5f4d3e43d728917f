import CameraRecorder.Path

/-!
# Disks

A disk is a tree of directories and files below a root, with a home in it where relative paths
begin. The content of a file is kept apart from its name: a file that was opened stays the same file
when it is renamed or when its name is given away.
-/

namespace CameraRecorder

/-- What a name stands for. -/
inductive Node where
  | directory
  | file (id : Nat)
deriving DecidableEq, Repr

/-- A place in the tree: the names on the way to it, the innermost first. Their number is kept
beside them, so that places of different depth are told apart at once. -/
structure Location where
  depth : Nat
  names : List Bytes
  depth_eq : depth = names.length
deriving DecidableEq, Repr

namespace Location

/-- The place of the tree's root. -/
def root : Location := ⟨0, [], rfl⟩

/-- The place of a name in the directory at `loc`. -/
def inside (loc : Location) (name : Bytes) : Location :=
  ⟨loc.depth + 1, name :: loc.names, by simp [loc.depth_eq]⟩

/-- The place of the directory above. The root is above itself. -/
def parent (loc : Location) : Location :=
  ⟨loc.depth - 1, loc.names.tail, by simp [loc.depth_eq]⟩

/-- The names on the way from `top` to a place below it. -/
def below? (loc top : Location) : Option (List Bytes) :=
  let extra := loc.depth - top.depth
  if 0 < extra && loc.names.drop extra = top.names then some (loc.names.take extra).reverse
  else none

/-- The names alone make a place. -/
theorem ext_names {a b : Location} (h : a.names = b.names) : a = b := by
  cases a with | mk m x hm =>
  cases b with | mk n y hn =>
  cases h
  cases hm
  cases hn
  rfl

@[simp] theorem parent_inside (loc : Location) (name : Bytes) :
    (loc.inside name).parent = loc := ext_names rfl

@[simp] theorem below?_inside (loc : Location) (name : Bytes) :
    (loc.inside name).below? loc = some [name] := by
  simp [below?, inside]

end Location

/-- The named nodes, and the contents of all files ever created, by number. -/
structure Disk where
  nodes : List (Location × Node) := []
  contents : List Bytes := []
  /-- The directory where relative paths begin. -/
  home : Location := .root
deriving DecidableEq, Repr

namespace Disk

/-- The longest name that a directory can hold, in bytes. -/
def maxNameLength : Nat := 255

/-- Whether a directory can hold a name. -/
def isUsable (name : Bytes) : Bool := name.length ≤ maxNameLength

/-- What stands at a place. -/
def node? (d : Disk) (loc : Location) : Option Node :=
  if loc = .root then some .directory else d.nodes.lookup loc

/-- Gives a free place a node. -/
def add (d : Disk) (loc : Location) (node : Node) : Disk :=
  { d with nodes := (loc, node) :: d.nodes }

/-- Takes the node away from a place. -/
def erase (d : Disk) (loc : Location) : Disk :=
  { d with nodes := d.nodes.filter (·.1 ≠ loc) }

/-- Gives a place a new node. -/
def put (d : Disk) (loc : Location) (node : Node) : Disk := (d.erase loc).add loc node

def content (d : Disk) (id : Nat) : Bytes := d.contents.getD id []

/-- The directory that is reached from `loc` through a name. -/
def enter? (d : Disk) (loc : Location) (name : Bytes) : Option Location :=
  if name = Path.above then some loc.parent
  else match d.node? (loc.inside name) with
    | some .directory => some (loc.inside name)
    | _ => none

/-- The directory where a path begins. -/
def startOf (d : Disk) (p : Path) : Location := if p.isAbsolute then .root else d.home

/-- The directory that is reached from `loc` through names. -/
def walk? (d : Disk) (loc : Location) (names : List Bytes) : Option Location :=
  names.foldlM d.enter? loc

/-- The longest path that can be followed, in bytes. -/
def maxPathLength : Nat := 4095

/-- Whether a path can be followed: it is not too long, and no byte of it is zero, which no name may
contain. -/
def isSpellable (p : Path) : Bool := p.bytes.length ≤ maxPathLength && !p.bytes.contains 0

/-- The place that a path gives to a file. The directory has to exist, and the path must end in the
file's name. -/
def place? (d : Disk) (p : Path) : Option Location :=
  match p.segments.getLast? with
  | none => none
  | some name =>
    if Path.isIdle name || name = Path.above || !isUsable name || !isSpellable p then none
    else (d.walk? (d.startOf p) p.names.dropLast).map (·.inside name)

/-- What a path leads to. -/
def lookup? (d : Disk) (p : Path) : Option Node :=
  if p.bytes.isEmpty || !isSpellable p then none
  else match d.walk? (d.startOf p) p.names with
    | some _ => some .directory
    | none => (d.place? p).bind d.node?

def contains (d : Disk) (p : Path) : Bool := (d.lookup? p).isSome

/-- The content of the file that a path leads to. -/
def read? (d : Disk) (p : Path) : Option Bytes :=
  match d.lookup? p with
  | some (.file id) => some (d.content id)
  | _ => none

/-- Enters a directory as `enter?` does, and creates it first if the name is free. -/
def enterOrCreate (d : Disk) (loc : Location) (name : Bytes) : Disk × Option Location :=
  if name = Path.above then (d, some loc.parent)
  else match d.node? (loc.inside name) with
    | some .directory => (d, some (loc.inside name))
    | some (.file _) => (d, none)
    | none =>
      if isUsable name then (d.add (loc.inside name) .directory, some (loc.inside name))
      else (d, none)

/-- Creates the missing directories on the way through names, up to the first that cannot be
entered. The second result is the directory that was reached. -/
def createAlong (d : Disk) (loc : Location) : List Bytes → Disk × Option Location
  | [] => (d, some loc)
  | name :: names =>
    match d.enterOrCreate loc name with
    | (d, some next) => d.createAlong next names
    | (d, none) => (d, none)

/-- Creates a directory and those above it. The second result says whether it exists now. A
directory that is spelled with a single dot behind its name is not created, but those above it
are. -/
def createDirectories (d : Disk) (p : Path) : Disk × Bool :=
  if !isSpellable p then (d, false)
  else if p.endsHere then
    let (d, _) := d.createAlong (d.startOf p) p.names.dropLast
    (d, (d.walk? (d.startOf p) p.names).isSome)
  else
    let (d, reached) := d.createAlong (d.startOf p) p.names
    (d, reached.isSome)

/-- The disk with its home in the directory that names lead to from the root, which is created if it
is missing. -/
def withHome (d : Disk) (names : List Bytes) : Disk :=
  match d.createAlong .root names with
  | (d, some home) => { d with home }
  | (d, none) => d

/-- Creates the directory that a file is in, and those above it, unless it fails when it has come
past the first `limit` of their names. The second result says whether the directory exists now. -/
def createParents (d : Disk) (p : Path) (limit : Option Nat := none) : Disk × Bool :=
  let names := p.parent.names
  match limit.filter (· < names.length) with
  | none => d.createDirectories p.parent
  | some count =>
    if isSpellable p.parent then ((d.createAlong (d.startOf p.parent) (names.take count)).1, false)
    else (d, false)

/-- Opens a file for writing from its start: a file of that name loses its content, and a free name
is given to a new file. -/
def create? (d : Disk) (p : Path) : Option (Nat × Disk) :=
  match d.place? p with
  | none => none
  | some loc =>
    match d.node? loc with
    | some .directory => none
    | some (.file id) => some (id, { d with contents := d.contents.set id [] })
    | none =>
      let id := d.contents.length
      some (id, { d.add loc (.file id) with contents := d.contents ++ [[]] })

/-- A content with bytes written over it from an offset on. A gap before them is filled with zeros,
but writing nothing fills no gap. -/
def overwrite (old : Bytes) (offset : Nat) (data : Bytes) : Bytes :=
  if data.isEmpty then old
  else old.take offset ++ List.replicate (offset - old.length) 0 ++ data ++
    old.drop (offset + data.length)

/-- Writes bytes into a file, over what stands there. -/
def writeAt (d : Disk) (id offset : Nat) (data : Bytes) : Disk :=
  { d with contents := d.contents.set id (overwrite (d.content id) offset data) }

/-- Stores a file with all its content, and creates the directories it is in. A path that cannot
name a file is ignored. -/
def store (d : Disk) (p : Path) (data : Bytes) : Disk :=
  let d := (d.createParents p).1
  match d.create? p with
  | none => d
  | some (id, d) => d.writeAt id 0 data

/-- Gives a file a new name, which another file may lose. -/
def rename? (d : Disk) (source target : Path) : Option Disk :=
  match d.place? source, d.place? target with
  | some old, some new =>
    match d.node? old, d.node? new with
    | some (.file _), some .directory => none
    | some (.file id), _ => some ((d.erase old).put new (.file id))
    | _, _ => none
  | _, _ => none

/-- Every file and directory below a place with its path from there, in ascending order. The path of
a directory ends in a slash, and a directory has no content. -/
def listing (d : Disk) (top : Location) : List (Path × Option Bytes) :=
  let entries := d.nodes.filterMap fun (loc, node) =>
    (loc.below? top).map fun names =>
      match node with
      | .directory => (Path.ofSegments (names ++ [[]]), none)
      | .file id => (Path.ofSegments names, some (d.content id))
  entries.mergeSort fun a b => a.1.bytes ≤ b.1.bytes

end Disk

end CameraRecorder
