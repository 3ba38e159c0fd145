import StutterProof.DurableDisk

/-! # Recorded artifacts on disk

`write_json` and `write_json_stream` sync the content of each file; the directory that got the
file's name is synced through a tracker that the writers of one recording share, once for each
directory. -/
namespace Stutter.Recorder

open DurableDisk (Disk createFile rename syncDir syncFile visit writeAll)
open Fallible (Op)

/-- A path by its components. -/
abbrev Path := List String

def Path.parent (path : Path) : Option Path := if path.isEmpty then none else some path.dropLast

/-- `file_name`: none for the empty path and where it ends in `..`. -/
def Path.fileName (path : Path) : Option String := path.getLast?.filter (· ≠ "..")

def Path.withFileName (path : Path) (name : String) : Path := path.dropLast ++ [name]

def Path.display (path : Path) : String := "/".intercalate path

/-- The directories that were synced. -/
structure SyncTracker where
  syncedDirs : List Path := []

/-- The disk and the tracker that the writers share. -/
structure Session where
  disk : Disk Path String UInt8
  tracker : SyncTracker

abbrev Write (α : Type) := Op Session String α

def onDisk {α : Type} (call : Op (Disk Path String UInt8) String α) : Write α :=
  call.zoom Session.disk fun disk session => { session with disk := disk }

/-! ## SyncTracker -/

/-- `BTreeSet::insert`, which says whether the value is new. -/
def insertDir (parent : Path) : Write Bool :=
  .act fun session =>
    if parent ∈ session.tracker.syncedDirs then (.ok false, session)
    else (.ok true, { session with tracker := ⟨parent :: session.tracker.syncedDirs⟩ })

def syncParentOnce (path : Path) : Write Unit :=
  match path.parent with
  | none => .ret ()
  | some parent => do
    if ← insertDir parent then
      onDisk (visit (some s!"failed to open parent directory {Path.display parent} for sync"))
      onDisk (syncDir parent (some s!"failed to sync parent directory {Path.display parent}"))

/-! ## The writers -/

/-- A value: what `to_vec_pretty` gives, and what `to_writer` writes before it returns. -/
structure Value where
  pretty : Except String (List UInt8)
  compact : List UInt8
  failure : Option String

def newline : UInt8 := 10

/-- `write_json` before it comes to the directory. -/
def writeJsonFile (path : Path) (value : Value) : Write Unit :=
  match path.fileName with
  | none => .fail s!"JSON destination has no file name: {path.display}"
  | some fileName => do
    let tmpName := fileName ++ ".tmp"
    let tmpPath := Path.display (path.withFileName tmpName)
    let file ← onDisk (createFile path.dropLast tmpName
        (some s!"failed to create temp JSON {tmpPath}"))
    let bytes ← Op.ofExcept value.pretty
    onDisk (writeAll file bytes (some s!"failed to write temp JSON {tmpPath}"))
    onDisk (writeAll file [newline] (some s!"failed to finalize temp JSON {tmpPath}"))
    onDisk (syncFile file (some s!"failed to sync temp JSON {tmpPath}"))
    onDisk (rename path.dropLast tmpName fileName (some s!"failed to rename temp JSON {tmpPath}"))

def writeJson (path : Path) (value : Value) : Write Unit := do
  writeJsonFile path value
  syncParentOnce path

namespace NdjsonWriter

variable (path : Path)

def create (fileName : String) : Write Nat := do
  onDisk (visit none)
  onDisk (createFile path.dropLast fileName
    (some s!"failed to create NDJSON stream {path.display}"))

def push (file : Nat) (value : Value) : Write Unit := do
  onDisk (writeAll file value.compact (some s!"failed to write NDJSON stream {path.display}"))
  match value.failure with
  | some _ => Op.fail s!"failed to write NDJSON stream {path.display}"
  | none => onDisk (writeAll file [newline] none)

def finish (file : Nat) : Write Unit :=
  onDisk (syncFile file (some s!"failed to sync NDJSON stream {path.display}"))

end NdjsonWriter

/-- `write_json_stream` before it comes to the directory.  A writer that is dropped before it has
finished is finished then, whatever comes of it. -/
def writeJsonStreamFile (path : Path) (values : List Value) : Write Unit :=
  match path.fileName with
  | none => .fail s!"NDJSON stream destination has no file name: {path.display}"
  | some fileName => do
    let file ← NdjsonWriter.create path fileName
    let written ← Op.attempt (do
      Op.forEach (NdjsonWriter.push path file) values
      NdjsonWriter.finish path file : Write Unit)
    match written with
    | .error error => do
      let _ : Except String Unit ← Op.attempt (NdjsonWriter.finish path file)
      Op.fail error
    | .ok () => .ret ()

def writeJsonStream (path : Path) (values : List Value) : Write Unit := do
  writeJsonStreamFile path values
  syncParentOnce path

/-! ## Calls -/

/-- A call that writes an artifact. -/
inductive Call where
  | json (path : Path) (value : Value)
  | stream (path : Path) (values : List Value)

namespace Call

def path : Call → Path
  | .json path _ => path
  | .stream path _ => path

def perform : Call → Write Unit
  | .json path value => writeJson path value
  | .stream path values => writeJsonStream path values

def writeFile : Call → Write Unit
  | .json path value => writeJsonFile path value
  | .stream path values => writeJsonStreamFile path values

/-- The content of the file that a call is to write. -/
def bytes : Call → List UInt8
  | .json _ value => (value.pretty.toOption.getD []) ++ [newline]
  | .stream _ values => values.flatMap fun value => value.compact ++ [newline]

def result (call : Call) (session : Session) : Except String Unit :=
  (call.perform.run session).result
def after (call : Call) (session : Session) : Session := (call.perform.run session).state

/-- The call writes its file and comes to the directory. -/
def ReachesSync (call : Call) (session : Session) : Prop :=
  (call.writeFile.run session).result = .ok ()

end Call

/-- The session after so many calls, each made whatever became of the ones before. -/
def sessionAfter (calls : List Call) (start : Session) : Session :=
  calls.foldl (fun session call => call.after session) start

/-! ## Durable -/

/-- The file of a path is there and its content is synced. -/
def ContentSynced (disk : Disk Path String UInt8) (path : Path) (bytes : List UInt8) : Prop :=
  ∃ name inode, path.fileName = some name ∧ disk.entries path.dropLast name = some inode ∧
    disk.syncedContent inode = bytes

/-- The name of a path is synced. -/
def EntrySynced (disk : Disk Path String UInt8) (path : Path) : Prop :=
  ∀ name, path.fileName = some name →
    disk.syncedEntries path.dropLast name = disk.entries path.dropLast name

/-- What a path reads as after a loss of power; that its directory is still there is taken for
granted. -/
def Survives (disk : Disk Path String UInt8) (path : Path) (bytes : List UInt8) : Prop :=
  ∀ name, path.fileName = some name → disk.afterLoss.read path.dropLast name = some bytes

end Stutter.Recorder
