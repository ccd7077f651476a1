import Hyperfiction.Text.Numeral

/-! # Options of a game

    A game is asked for by the path of the story, followed by any number of options
    in any order: the folder for saved games, and the seed of the story's dice. Each
    option takes the argument after it as its value, whatever that looks like, and
    the last one of a kind counts.
-/

namespace Hyperfiction

/-- What a game is asked for with. -/
structure PlayOptions where
  storyPath : String
  /-- The folder that saved games are kept in. -/
  savesFolder : String := ".saves"
  seed : Option UInt64 := none
deriving DecidableEq, Repr, Inhabited

/-- Why arguments ask for no game. -/
inductive OptionError where
  | missingPath
  /-- Nothing is known by this argument, or its value is missing. -/
  | unknown (argument : String)
  /-- The seed is no number of 64 bits. -/
  | invalidSeed (text : String)
deriving DecidableEq, Repr, Inhabited

/-- The text of an error. -/
def OptionError.message : OptionError → String
  | .missingPath => "Missing story path"
  | .unknown argument => "Unknown argument: " ++ argument
  | .invalidSeed text => "Invalid seed: " ++ text

namespace PlayOptions

/-- The names of the options. -/
def savesFolderFlag : String := "--save-dir"
def seedFlag : String := "--seed"

/-- Reads options, each a flag and its value, over those read before. -/
def readFrom (options : PlayOptions) : List String → Except OptionError PlayOptions
  | [] => .ok options
  | [argument] => .error (.unknown argument)
  | flag :: value :: rest =>
    if flag = savesFolderFlag then readFrom { options with savesFolder := value } rest
    else if flag = seedFlag then
      match Text.word64? value.toList with
      | some seed => readFrom { options with seed := some seed } rest
      | none => .error (.invalidSeed value)
    else .error (.unknown flag)

/-- Reads the arguments. -/
def ofArguments : List String → Except OptionError PlayOptions
  | [] => .error .missingPath
  | path :: rest => readFrom { storyPath := path } rest

end PlayOptions

end Hyperfiction
