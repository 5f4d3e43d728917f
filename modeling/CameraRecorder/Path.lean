import CameraRecorder.Bytes

/-!
# Paths

A path is a string of bytes, cut into segments by slashes. Empty segments and single dots stand for
nothing; two dots stand for the directory above. The last segment that stands for something names
the file, and its extension begins at its last dot, unless that dot is its first byte.
-/

namespace CameraRecorder

/-- The name of a place in a directory tree. -/
structure Path where
  bytes : Bytes
deriving DecidableEq, Repr

namespace Path

def slash : UInt8 := 0x2f

def dot : UInt8 := 0x2e

/-- The segment that stands for the directory itself. -/
def here : Bytes := [dot]

/-- The segment that stands for the directory above. -/
def above : Bytes := [dot, dot]

/-- The path that a text spells. -/
def ofString (s : String) : Path := ⟨Bytes.ofString s⟩

/-- The text that spells the path, if there is one. -/
def toString? (p : Path) : Option String := p.bytes.toString?

/-- The pieces between slashes, empty ones included. -/
def split : Bytes → List Bytes
  | [] => [[]]
  | b :: rest =>
    if b = slash then [] :: split rest
    else match split rest with
      | [] => [[b]]
      | segment :: segments => (b :: segment) :: segments

def segments (p : Path) : List Bytes := split p.bytes

/-- Pieces with a slash between each two. -/
def glue : List Bytes → Bytes
  | [] => []
  | [segment] => segment
  | segment :: segments => segment ++ slash :: glue segments

/-- The path with the given pieces. -/
def ofSegments (segments : List Bytes) : Path := ⟨glue segments⟩

/-- Whether a segment stands for nothing. -/
def isIdle (segment : Bytes) : Bool := segment.isEmpty || segment = here

/-- The segments that stand for something. -/
def names (p : Path) : List Bytes := p.segments.filter (!isIdle ·)

/-- Segments without the last ones that stand for nothing. -/
def trimIdle (segments : List Bytes) : List Bytes := (segments.reverse.dropWhile isIdle).reverse

/-- Whether the path ends in a single dot, slashes behind it aside. -/
def endsHere (p : Path) : Bool :=
  (p.segments.reverse.dropWhile (·.isEmpty)).head? = some here

/-- The path without its last name, and without what stands for nothing beside it. -/
def parent (p : Path) : Path :=
  match trimIdle (trimIdle p.segments).dropLast with
  | [] => ⟨p.bytes.takeWhile (· = slash)⟩
  | segments => ofSegments segments

/-- The name of the file, unless the path ends in a directory above or names nothing. -/
def fileName? (p : Path) : Option Bytes :=
  p.names.getLast?.filter (· ≠ above)

/-- A file name up to its extension, and the extension without its dot. -/
def splitName (name : Bytes) : Bytes × Option Bytes :=
  match name.reverse.dropWhile (· ≠ dot) with
  | _ :: b :: stem => ((b :: stem).reverse, some (name.reverse.takeWhile (· ≠ dot)).reverse)
  | _ => (name, none)

/-- The extension of the file name. -/
def fileExtension? (p : Path) : Option Bytes := p.fileName?.bind fun name => (splitName name).2

/-- The path with another extension, or with none if the new one is empty. Nothing is left behind
the file name. A path that names no file stays as it is. -/
def withExtension (p : Path) (extension : Bytes) : Path :=
  match p.fileName? with
  | none => p
  | some name =>
    let ending := if extension.isEmpty then [] else dot :: extension
    ofSegments ((trimIdle p.segments).dropLast ++ [(splitName name).1 ++ ending])

/-- The path with more bytes at its end. -/
def append (p : Path) (more : Bytes) : Path := ⟨p.bytes ++ more⟩

/-- Whether the path begins at the root. -/
def isAbsolute (p : Path) : Bool := p.bytes.head? = some slash

/-- A relative path without what stands for nothing at either end. An absolute path stays as it
is. -/
def trimmed (p : Path) : Path :=
  if p.isAbsolute then p else ofSegments (trimIdle (p.segments.dropWhile isIdle))

/-- The place that `p` names as seen from the directory `d`. -/
def join (d p : Path) : Path :=
  if p.isAbsolute then p
  else if d.bytes.isEmpty ∨ d.bytes.getLast? = some slash then ⟨d.bytes ++ p.bytes⟩
  else ⟨d.bytes ++ slash :: p.bytes⟩

theorem split_ne_nil (bytes : Bytes) : split bytes ≠ [] := by
  cases bytes with
  | nil => simp [split]
  | cons b rest =>
    simp only [split]
    split
    · simp
    · split <;> simp

/-- Cutting a path loses nothing. -/
theorem glue_split (bytes : Bytes) : glue (split bytes) = bytes := by
  induction bytes with
  | nil => rfl
  | cons b rest ih =>
    simp only [split]
    split
    · rename_i hb
      subst hb
      cases h : split rest with
      | nil => exact absurd h (split_ne_nil rest)
      | cons s ss => simp [glue, ← h, ih]
    · cases h : split rest with
      | nil => exact absurd h (split_ne_nil rest)
      | cons s ss =>
        rw [h] at ih
        cases ss with
        | nil => simpa [glue] using ih
        | cons t ts => simpa [glue] using ih

theorem ofSegments_segments (p : Path) : ofSegments p.segments = p := by
  simp [ofSegments, segments, glue_split]

end Path

end CameraRecorder
