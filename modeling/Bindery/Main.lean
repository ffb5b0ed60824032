import Bindery.Command.Needs
import Bindery.Files.Changes

/-!
# The program

The outer layer: it reads the files that a run needs to see, runs, and writes what the run has changed.
-/

namespace Bindery

/-- The octets of a file, none if it cannot be read. -/
def readOctets (path : String) : IO (Option Octets) := do
  try
    return some (← IO.FS.readBinFile path).toList
  catch _ => return none

/-- Reads a directory and what is below it, as deep as `depth`, into a tree. -/
def readTree : (depth : Nat) → (path : String) → (place : List String) → Node → IO Node
  | 0, _, _, root => return root
  | depth + 1, path, place, root => do
    try
      let mut root := root.insert place ((root.at? place).getD (.directory []))
      for entry in ← (← IO.FS.realPath path).readDir do
        let below := path ++ "/" ++ entry.fileName
        let here := place ++ [entry.fileName]
        if ← entry.path.isDir then root ← readTree depth below here root
        else if let some content ← readOctets below then root := root.insert here (.file content)
      return root
    catch _ => return root

/-- How deep directories are read. -/
def readDepth : Nat := 40

/-- Reads a file into a tree. -/
def readInto (store : Store) (path : String) : IO Store := do
  match ← readOctets path with
  | none => return store
  | some content =>
    return { store with root := store.root.insert (Path.names (store.absolute path)) (.file content) }

/-- The variables that are named in the files of the configuration. -/
def readEnvironment (store : Store) (paths : List String) : IO Environment := do
  let texts := paths.filterMap fun path => (store.read path).toOption.map Octets.lossy
  (texts.flatMap variablesIn).filterMapM fun name => do
    return (← IO.getEnv name).map (name, ·)

/-- There is no network. -/
def unreachable : Transport := fun _ => .error "network is unreachable"

/-- Reads what a run needs to see. -/
def readWorld (arguments : List String) : IO World := do
  let directory := (← IO.currentDir).toString
  let current := Path.names directory
  let mut store : Store := ⟨← readTree readDepth directory current (.directory []), current⟩
  let paths := configPaths directory arguments
  for path in paths do store ← readInto store path
  let seed ← IO.rand 0 (UInt32.size - 1)
  let draws : Draws := fun index => UInt32.ofNat (seed + index)
  let world : World := ⟨store, ← readEnvironment store paths, unreachable, draws⟩
  for outer in world.directories arguments do
    let place := Path.names (store.absolute outer)
    if !current.isPrefixOf place then
      store := { store with root := ← readTree readDepth (Path.text true place) place store.root }
  return { world with store }

/-- Writes a file that a run has changed, by way of another file next to it. -/
def writeChange (path : List String) (content : Octets) : IO Unit := do
  let directory := Path.text true path.dropLast
  IO.FS.createDirAll directory
  let draft := directory ++ "/." ++ path.getLastD "" ++ ".new"
  IO.FS.writeBinFile draft ⟨content.toArray⟩
  IO.FS.rename draft (Path.text true path)

/-- Words an error of JSON by its kind and place. -/
def faultText (f : Json.Fault) : String :=
  (match f.kind with
    | .form => "malformed JSON"
    | .meaning => "unexpected JSON value") ++ " at " ++ quoted (Json.Pointer.text f.pointer)

end Bindery

open Bindery in
/-- Runs the program. -/
def main (arguments : List String) : IO UInt32 := do
  let world ← readWorld arguments
  let outcome := world.run arguments
  for (path, content) in world.store.changes outcome.store do writeChange path content
  IO.print outcome.printed
  IO.eprint outcome.logText
  match outcome.result with
  | .ok _ => return 0
  | .error e =>
    IO.eprintln (e.message faultText).lossy
    return 1
