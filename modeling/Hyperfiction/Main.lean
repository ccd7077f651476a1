import Hyperfiction.CommandLine.Lint
import Hyperfiction.CommandLine.Play

/-! # The programs

    The first argument names the program, `play` or `story_linter`; those after it
    are the program's own. The programs work on file trees: here the few files that
    they look at are read into a tree, and what they change is written back.
-/

namespace Hyperfiction.Main

open CommandLine

/-! ## Files -/

/-- The tree with a file at the place of a path. -/
def withFile (path text : String) (tree : FileTree) : FileTree :=
  let place := Path.ofText path
  match tree.makeFolders place.dropLast >>= FileTree.write place text with
  | .ok tree => tree
  | .error _ => tree

/-- The tree with the file at a path, if it can be read. -/
def fetch (path : String) (tree : FileTree) : IO FileTree := do
  try
    let text ← IO.FS.readFile path
    return withFile path text tree
  catch _ => return tree

/-- The tree once a folder has been made; what cannot be made a folder stands in the
    tree as a file. -/
def makeFolder (path : String) (tree : FileTree) : IO FileTree := do
  try
    IO.FS.createDirAll path
    return tree
  catch _ => return withFile path "" tree

/-- Brings a file from how it is in one tree to how it is in another. -/
def deliver (path : String) (before after : FileTree) : IO Unit := do
  let place := Path.ofText path
  try
    match before.read place, after.read place with
    | .ok old, .ok new => if old ≠ new then IO.FS.writeFile path new
    | .error _, .ok new => IO.FS.writeFile path new
    | .ok _, .error _ => IO.FS.removeFile path
    | .error _, .error _ => return
  catch e => IO.eprintln s!"ERROR: {e}"

/-! ## Linting -/

/-- Prints an outcome and gives its exit code. -/
def conclude (outcome : Outcome) : IO UInt32 := do
  IO.print outcome.output
  IO.eprint outcome.errors
  return outcome.exitCode.toUInt32

/-- Checks a story. -/
def runLint (arguments : List String) : IO UInt32 := do
  let tree ← match arguments with
    | path :: _ => fetch path {}
    | [] => pure {}
  conclude (lint arguments tree)

/-! ## Playing -/

/-- The path of a story's saved game. -/
def savePath (options : PlayOptions) (story : Story) : String :=
  options.savesFolder ++ "/" ++ SaveKey.ofName story.name

/-- The files that a game looks at, and the path of the one that it may write. -/
def gather (arguments : List String) : IO (FileTree × Option String) := do
  match PlayOptions.ofArguments arguments with
  | .error _ => return ({}, none)
  | .ok options =>
    let tree ← fetch options.storyPath {}
    match loadStory (.ofText options.storyPath) options.seed tree with
    | .error _ => return (tree, none)
    | .ok edition =>
      let path := savePath options edition.story
      return (← fetch path (← makeFolder options.savesFolder tree), some path)

/-- Prints what stands on the terminal and has not been printed yet. -/
def display (game : Game) : IO Game := do
  let output ← IO.getStdout
  output.putStr game.display.printed
  output.flush
  return { game with display := { game.display with printed := "" } }

/-- Asks for lines and answers them until the game is over or there are no more. -/
partial def converse (path : Option String) (game : Game) : IO Unit := do
  let game ← display game.prompt
  let line ← (← IO.getStdin).getLine
  if line.isEmpty then return
  let turn := game.answer line.toList
  let (next, isOver) := match turn with
    | .goesOn next => (next, false)
    | .over next => (next, true)
  if let some path := path then deliver path game.store.tree next.store.tree
  let next ← display next
  if !isOver then converse path next

/-- Plays a story. -/
def runPlay (arguments : List String) : IO UInt32 := do
  let (tree, path) ← gather arguments
  match openGame arguments tree with
  | .error outcome => conclude outcome
  | .ok game =>
    let game ← display game
    converse path game
    return 0

end Hyperfiction.Main

/-- Runs the program that the first argument names. -/
def main (arguments : List String) : IO UInt32 :=
  match arguments with
  | "play" :: rest => Hyperfiction.Main.runPlay rest
  | "story_linter" :: rest => Hyperfiction.Main.runLint rest
  | _ => do
    IO.println Hyperfiction.CommandLine.playUsage
    IO.println Hyperfiction.CommandLine.lintUsage
    return 0
