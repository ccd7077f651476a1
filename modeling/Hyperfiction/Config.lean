import Hyperfiction.Toml.Parser

/-! # Story configuration

    A story may carry a configuration document in TOML. Two of its keys mean
    something to the engine; the others are kept for templates and hosts. A
    document is laid over a configuration key by key, as a whole or not at all.
-/

namespace Hyperfiction

/-- The effective configuration of a story. -/
structure Config where
  darkTheme : Bool := false
  stylesheets : List String := []
  /-- The keys that mean nothing to the engine. -/
  extra : Fields Value := []
deriving Inhabited

/-- Why a configuration document is refused. -/
inductive ConfigError where
  /-- The text is not TOML. -/
  | malformed
  /-- A key that the engine reads has a value of another type. -/
  | wrongType (key : String)
deriving DecidableEq, Repr, Inhabited

/-- The text of an error. -/
def ConfigError.message : ConfigError → String
  | .malformed => "TOML parse error: the text is not a TOML document"
  | .wrongType key => "TOML parse error: the value of " ++ key ++ " has the wrong type"

namespace Config

/-- The keys that the engine reads. -/
def darkThemeKey : String := "darkTheme"
def stylesheetsKey : String := "stylesheets"

/-- What a document sets: keys that it does not set are without a value. -/
structure Overrides where
  darkTheme : Option Bool
  stylesheets : Option (List String)
  extra : Fields Value

/-- The text of a value that is one. -/
def text? : Value → Option String
  | .str s => some s
  | _ => none

/-- What a table sets. -/
def Overrides.ofTable (table : Fields Value) : Except ConfigError Overrides := do
  let darkTheme ← match Table.get? darkThemeKey table with
    | none => pure none
    | some (.bool b) => pure (some b)
    | some _ => throw (.wrongType darkThemeKey)
  let stylesheets ← match Table.get? stylesheetsKey table with
    | none => pure none
    | some (.arr items) =>
      match items.mapM text? with
      | some sheets => pure (some sheets)
      | none => throw (.wrongType stylesheetsKey)
    | some _ => throw (.wrongType stylesheetsKey)
  let extra := Table.erase stylesheetsKey (Table.erase darkThemeKey table)
  return { darkTheme, stylesheets, extra }

/-- What a document sets. -/
def Overrides.parse (source : String) : Except ConfigError Overrides :=
  match Toml.parse? source with
  | none => .error .malformed
  | some table => ofTable table

/-- Sets what overrides set, one key after the other. -/
def apply (o : Overrides) : StateM Config Unit := do
  if let some dark := o.darkTheme then
    modify fun c => { c with darkTheme := dark }
  if let some sheets := o.stylesheets then
    modify fun c => { c with stylesheets := sheets }
  o.extra.forM fun e => modify fun c => { c with extra := Table.insert e.1 e.2 c.extra }

/-- Lays a document over the configuration at hand, which is there afterwards whether or not
    the document is refused. -/
def lay (source : String) : ExceptT ConfigError (StateM Config) Unit :=
  match Overrides.parse source with
  | .error e => throw e
  | .ok o => apply o

/-- Lays a document over a configuration: whether it is refused, and the configuration
    after it. -/
def merge (c : Config) (source : String) : Except ConfigError Unit × Config :=
  (lay source).run.run c

/-- The configuration of a document: what it sets, and the defaults. -/
def ofToml (source : String) : Except ConfigError Config :=
  match merge {} source with
  | (.error e, _) => .error e
  | (.ok (), c) => .ok c

/-- The configuration with what overrides set. -/
def override (c : Config) (o : Overrides) : Config :=
  { darkTheme := o.darkTheme.getD c.darkTheme
    stylesheets := o.stylesheets.getD c.stylesheets
    extra := Table.merge c.extra o.extra }

theorem run_forM_insert (fs : Fields Value) (c : Config) :
    (fs.forM fun e => (modify fun c : Config =>
        { c with extra := Table.insert e.1 e.2 c.extra } : StateM Config Unit)).run c
      = ((), { c with extra := Table.merge c.extra fs }) := by
  induction fs generalizing c with
  | nil => rfl
  | cons e fs ih => exact ih { c with extra := Table.insert e.1 e.2 c.extra }

theorem run_apply (o : Overrides) (c : Config) : (apply o).run c = ((), c.override o) := by
  obtain ⟨dark, sheets, extra⟩ := o
  cases dark <;> cases sheets <;> exact run_forM_insert extra _

/-- A document is read as a whole before anything of it is set. -/
theorem merge_eq (c : Config) (source : String) :
    c.merge source = match Overrides.parse source with
      | .error e => (.error e, c)
      | .ok o => (.ok (), c.override o) := by
  unfold merge lay
  cases Overrides.parse source with
  | error e => rfl
  | ok o => exact congrArg (fun r => (Except.ok r.1, r.2)) (run_apply o c)

/-- The configuration as an object. -/
def toValue (c : Config) : Value :=
  .obj (Table.insert darkThemeKey (.bool c.darkTheme)
    (Table.insert stylesheetsKey (.arr (c.stylesheets.map .str)) c.extra))

end Config

end Hyperfiction
