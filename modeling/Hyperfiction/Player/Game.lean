import Hyperfiction.Engine
import Hyperfiction.Json.Printer
import Hyperfiction.Player.Command
import Hyperfiction.Player.Terminal

/-! # Games at a terminal

    A reader at a terminal types a line, the engine does what it asks for, and the
    links on screen are listed for the next choice. A game goes on until the reader
    quits or there are no more lines.
-/

namespace Hyperfiction

namespace Engine

variable {σ S H : Type}

/-! ## Printing -/

/-- Prints a line on the terminal. -/
def say (line : String) (e : Engine σ S H Terminal) : Engine σ S H Terminal :=
  { e with display := e.display.printLine line }

/-- Prints lines on the terminal. -/
def sayAll (lines : List String) (e : Engine σ S H Terminal) : Engine σ S H Terminal :=
  { e with display := e.display.printLines lines }

/-- Lists the links on screen. -/
def listLinks (e : Engine σ S H Terminal) : Engine σ S H Terminal :=
  { e with display := e.display.printLinks }

/-- Asks for the next line. -/
def prompt (e : Engine σ S H Terminal) : Engine σ S H Terminal :=
  { e with display := e.display.print "play> " }

/-- The passages visited, one a line. -/
def historyLines (e : Engine σ S H Terminal) : List String :=
  e.place.history.map fun id =>
    let name := match e.story.passage? id with
      | some p => p.name
      | none => "?"
    "  " ++ toString id.toNat ++ " " ++ name

/-! ## Commands -/

/-- Prints a line once an operation has succeeded. -/
def saying (line : String) :
    Except EngineError Unit × Engine σ S H Terminal →
      Except EngineError Unit × Engine σ S H Terminal
  | (.ok _, e) => (.ok (), e.say line)
  | (.error err, e) => (.error err, e)

/-- Goes where the browser history went, or says that there is nothing there. -/
def travelTo [BrowserHistory H] (moved : Option (Option Progress × H)) (nothing : String)
    (e : Engine σ S H Terminal) : Except EngineError Unit × Engine σ S H Terminal :=
  match moved with
  | some (entry, browser) => { e with browser }.handlePop entry
  | none => (.ok (), e.say nothing)

/-- Follows the link with a number, if there is one. -/
def followNumber [BrowserHistory H] (number : Nat) (e : Engine σ S H Terminal) :
    Except EngineError Unit × Engine σ S H Terminal :=
  match e.display.link? number with
  | some link => e.followLink link.target
  | none => (.ok (), e.say "No link with that number.")

/-- Carries a command out. -/
def obey [Storage S] [BrowserHistory H] [Travel H] (command : Command)
    (e : Engine σ S H Terminal) : Except EngineError Unit × Engine σ S H Terminal :=
  match command with
  | .follow number => e.followNumber number.toNat
  | .back => e.travelTo (Travel.back? e.browser) "Nothing to go back to."
  | .forward => e.travelTo (Travel.forward? e.browser) "Nothing to go forward to."
  | .save => saying ("Saved to " ++ e.saveKey ++ ".") e.save
  | .restore => e.restore
  | .reset => saying "Save data cleared." e.reset
  | .history => (.ok (), e.sayAll e.historyLines)
  | .state => (.ok (), e.say (Json.indentedText (.obj e.state)))
  | .help => (.ok (), e.sayAll Command.guide)
  | .quit => (.ok (), e.say "Goodbye.")
  | .unknown word =>
    (.ok (), e.say ("Unknown command: " ++ word ++ ". Type 'help' for commands."))

/-- Lists the links after an operation that succeeded, and reports one that did not. -/
def conclude : Except EngineError Unit × Engine σ S H Terminal → Engine σ S H Terminal
  | (.ok _, e) => e.listLinks
  | (.error err, e) => e.say ("ERROR: " ++ err.message)

/-! ## Lines -/

/-- What a line makes of a game. -/
inductive Turn (σ S H : Type) where
  | goesOn (e : Engine σ S H Terminal)
  | over (e : Engine σ S H Terminal)

/-- Answers a line. -/
def answer [Storage S] [BrowserHistory H] [Travel H] (line : List Char)
    (e : Engine σ S H Terminal) : Turn σ S H :=
  match Command.ofLine line with
  | none => .goesOn e
  | some .quit => .over (e.obey .quit).2
  | some command => .goesOn (conclude (e.obey command))

/-- Asks for lines and answers them until the game is over or there are no more. -/
def converse [Storage S] [BrowserHistory H] [Travel H] :
    List (List Char) → Engine σ S H Terminal → Engine σ S H Terminal
  | [], e => e.prompt
  | line :: rest, e =>
    match e.prompt.answer line with
    | .goesOn e => converse rest e
    | .over e => e

end Engine

end Hyperfiction
