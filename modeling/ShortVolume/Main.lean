import ShortVolume.Command
import ShortVolume.Yaml.Excerpt
set_option autoImplicit false

/-!
The program: reads the files that a command line names, runs the command on them as values, and
writes back what it changed.

Links are loaded as links, so what a scan passes over stays as it is. Directories are taken as open: the
system is asked whether one is locked only when something is written.
-/

namespace ShortVolume.Main

/-- The text that a link leads on with: the path of what is there, or one of nothing. -/
def target (place : Path) : IO String := do
  try
    return (← IO.FS.realPath ((← IO.currentDir) / place.text)).toString
  catch _ => return "/\x00"

/-- The entry at a place, with everything below it. -/
partial def load (t : Tree) (place : Path) : IO Tree := do
  let file := (← IO.currentDir) / place.text
  match (← file.symlinkMetadata).type with
  | .symlink => return t.put place (.link (← target place))
  | .dir =>
    let mut t := t.put place .directory
    for e in ← file.readDir do
      t ← load t (place ++ [e.fileName])
    return t
  | .file => return t.put place (.file (← IO.FS.readBinFile file).toList)
  | .other => return t

/-- The files that a task works on: a directory, or the one that a file is in. A path that leads over
links is a link to the place where it ends. -/
def snapshotOf (current : Path) (task : Command.Task) : IO Tree := do
  let t := Tree.empty.makeDirectories current
  let asked := (t.resolve current task.path).getD current
  let file := (← IO.currentDir) / asked.text
  if !(← file.pathExists) then return t.makeDirectories asked.parent
  let text ← target asked
  let real : Path := (Path.names text).filter (· != "")
  let place := if ← file.isDir then real else real.parent
  let t ← load (t.makeDirectories place) place
  if asked = real then return t
  else return (t.makeDirectories asked.parent).put asked (.link text)

def snapshot (current : Path) : Command.Request → IO Tree
  | .task asked => snapshotOf current asked
  | _ => return Tree.empty.makeDirectories current

/-- The entries of a tree that are gone, or others, in another one. -/
def lost (t u : Tree) : List (Path × Entry) := t.entries.filter (fun e => u.get? e.1 != some e.2)

/-- Moves the links that were moved, writes the files that differ and takes away what is gone. -/
def restore (before after : Tree) : IO Unit := do
  let root ← IO.currentDir
  let new := lost after before
  let old := lost before after
  for (place, e) in new do
    if let .link _ := e then
      if let some (source, _) := old.find? (·.2 == e) then
        IO.FS.rename (root / source.text) (root / place.text)
  for (place, e) in new do
    if let .file bytes := e then IO.FS.writeBinFile (root / place.text) ⟨bytes.toArray⟩
  for (place, e) in old do
    let isMoved := e matches .link _ && new.any (·.2 == e)
    if (after.get? place).isNone && !isMoved then IO.FS.removeFile (root / place.text)

def report : Except Mishap Command.Ending → IO UInt32
  | .ok e => do
    IO.print e.output
    e.console.forM IO.println
    return e.exit.toUInt32
  | .error m => do
    IO.eprintln m.message
    return 1

end ShortVolume.Main

/-- Runs the command line. -/
def main (arguments : List String) : IO UInt32 := do
  let current := (ShortVolume.Path.names (← IO.currentDir).toString).filter (· != "")
  let request := ShortVolume.Command.request arguments
  let before ← ShortVolume.Main.snapshot current request
  let (after, ending) := request.run ShortVolume.Yaml.Error.report before current
  ShortVolume.Main.restore before after
  ShortVolume.Main.report ending
