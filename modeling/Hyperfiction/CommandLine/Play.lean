import Hyperfiction.CommandLine.Outcome
import Hyperfiction.Player.Game
import Hyperfiction.Player.Options
import Hyperfiction.Script.Evaluator
import Hyperfiction.Storage.Folder
import Hyperfiction.StoryFile

/-! # Playing from the command line

    The program that plays a story: it reads the arguments, loads the story, opens
    the folder of saved games, and starts a game at a terminal.
-/

namespace Hyperfiction.CommandLine

/-- A game over a folder of saved games. -/
abbrev Game : Type :=
  Engine Random.Generator FolderStore MemoryHistory Terminal

/-- How the program is used. -/
def playUsage : String :=
  "Usage: play <story.ron|story.json> [--save-dir <dir>] [--seed <n>]"

/-- The story in a file, with the seed that is asked for. -/
def loadStory (path : Path) (seed : Option UInt64) (tree : FileTree) :
    Except StoryError Edition :=
  match StoryFile.read path tree with
  | .error e => .error e
  | .ok draft => { draft with seed := seed.getD draft.seed }.build

/-- A game that has not been started: passages are shown without markup. -/
def newGame (edition : Edition) (store : FolderStore) : Game :=
  let story := edition.story
  { story, store
    renderer := { evaluator := Script.evaluator edition.helpers, markup := Markup.plain }
    memory := edition.generator
    browser := .fresh
    display :=
      ({} : Terminal).printLines
        [story.name ++ " (" ++ toString story.size ++ " passages)", "Type 'help' for commands."] }

/-- The game that arguments ask for, started; or the outcome if it comes to none. -/
def openGame (arguments : List String) (tree : FileTree) : Except Outcome Game :=
  if asksForUsage arguments then .error { output := textOfLines [playUsage], tree }
  else
    match PlayOptions.ofArguments arguments with
    | .error e =>
      .error {
        exitCode := 1, output := textOfLines [playUsage], errors := textOfLines [e.message], tree }
    | .ok options =>
      match loadStory (.ofText options.storyPath) options.seed tree with
      | .error e => .error (.unloaded e.message tree)
      | .ok edition =>
        match FolderStore.open? (.ofText options.savesFolder) tree with
        | .error e =>
          let line :=
            "ERROR: Cannot open save directory '" ++ options.savesFolder ++ "': " ++ e.message
          .error { exitCode := 1, errors := textOfLines [line], tree }
        | .ok store =>
          match (newGame edition store).play with
          | (.error e, game) =>
            .error
              { exitCode := 1, output := game.display.printed
                errors := textOfLines ["ERROR: " ++ e.message], tree := game.store.tree }
          | (.ok _, game) => .ok game.listLinks

/-- Plays a story with all that is typed. -/
def play (arguments : List String) (typed : String) (tree : FileTree) : Outcome :=
  match openGame arguments tree with
  | .error outcome => outcome
  | .ok game =>
    let game := game.converse (Text.lines typed.toList)
    { output := game.display.printed, tree := game.store.tree }

end Hyperfiction.CommandLine
