import NodeLint.CommandLine

/-!
# The program

Reads the part of the disk that a call can depend on into a file tree, makes the call, and writes
what comes of it. The tree holds the directories on the way to the working directory with the
documents of settings in them, and all that is below the places that the arguments name. Links are
not followed.
-/

namespace NodeLint.Disk

open NodeLint

/-- The path on disk of a place. -/
def onDisk (place : Place) : String := (Path.absolute place).text

/-- The tree after a change, or as it was if the change cannot be made. -/
def orUnchanged (t : FileTree) (changed : Except FileFault FileTree) : FileTree :=
  changed.toOption.getD t

/-- Read one file into a tree. -/
def addFile (t : FileTree) (place : Place) : IO FileTree := do
  let bytes ← IO.FS.readBinFile (onDisk place)
  return orUnchanged t (t.write place bytes.toList)

/-- Read all that is at or below a place into a tree. -/
partial def addAll (t : FileTree) (place : Place) : IO FileTree := do
  let path := System.mkFilePath [onDisk place]
  match (← path.symlinkMetadata).type with
  | .file => addFile t place
  | .dir =>
    let mut t := orUnchanged t (t.makeDirectory place)
    for entry in ← path.readDir do
      t ← addAll t (place ++ [entry.fileName])
    return t
  | _ => return t

/-- Read what a place holds, if there is anything. -/
def addPlace (t : FileTree) (place : Place) : IO FileTree := do
  if ← (System.mkFilePath [onDisk place]).pathExists then addAll t place else return t

/-- Read a directory without what is in it, except for a document of settings. -/
def addStation (t : FileTree) (place : Place) : IO FileTree := do
  let t := orUnchanged t (t.makeDirectory place)
  let document := place ++ [Settings.documentName]
  let path := System.mkFilePath [onDisk document]
  if (← path.pathExists) && !(← path.isDir) then addFile t document else return t

/-- The words of the arguments that may name a place. -/
def mentioned (args : List String) : List String :=
  args.flatMap fun arg =>
    if CommandLine.Arguments.isOption arg then (CommandLine.Arguments.nameAndValue arg).2.toList
    else [arg]

/-- The part of the disk that a call can depend on. -/
def snapshot (cwd : Path) (args : List String) : IO FileTree := do
  let mut t := FileTree.empty
  for place in Path.fronts cwd.parts do
    t ← addStation t place
  if args.contains "lint" then
    t ← addPlace t cwd.parts
  for word in mentioned args do
    t ← addPlace t (Path.resolve cwd (Path.ofString word)).parts
  return t

/-- Thousandths of a second, in seconds. -/
def seconds (thousandths : Nat) : String :=
  let digits := toString (1000 + thousandths % 1000)
  toString (thousandths / 1000) ++ "." ++ String.ofList (digits.toList.drop 1)

end NodeLint.Disk

open NodeLint

/-- Make a call and write what comes of it. The time reported is the time it took to read the
files. -/
def main (args : List String) : IO UInt32 := do
  let started ← IO.monoMsNow
  let cwd := Path.ofString (← IO.currentDir).toString
  let tree ← Disk.snapshot cwd args
  let time := Disk.seconds ((← IO.monoMsNow) - started)
  match CommandLine.run ⟨tree, cwd, Settings.toolName, time⟩ args with
  | .exit o =>
    (← IO.getStdout).putStr o.out
    (← IO.getStderr).putStr o.err
    return UInt32.ofNat o.exitCode
  | .brokenOff e =>
    (← IO.getStderr).putStrLn e.message
    return 1
