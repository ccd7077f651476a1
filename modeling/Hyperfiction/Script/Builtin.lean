import Hyperfiction.Script.Builtin.Collection
import Hyperfiction.Script.Builtin.Number
import Hyperfiction.Script.Builtin.Text
import Hyperfiction.Script.Token

/-! # Built-in functions of scripts

    The functions that every script can call, chosen by their name and by the
    types of their arguments, and what they come to. Those of texts, numbers,
    arrays and maps are in modules of their own; here are those that take any
    datum or none, and the choice between all.

    There are no functions here for bytes, for points in time and pauses, for
    scripts in texts, and for asking what a script defines. What a script prints
    is no part of its run.
-/

namespace Hyperfiction.Script.Builtin

/-- The functions that take nothing. -/
def ofNothing : String → Option Plan
  | "print" | "debug" => some (.value .unit)
  | "exit" => some (.stop (.exited .unit))
  | "PI" => some (.value (.float pi))
  | "E" => some (.value (.float euler))
  | _ => none

/-- The function that a text names. -/
def functionNamed (name : String) : Plan :=
  match Token.ofWord name.toList with
  | .name _ => .value (.function name)
  | _ => .stop (.fault (.unknownFunction name))

/-- The functions that take any datum. -/
def ofAny (name : String) (d : Datum) (args : List Datum) : Option Plan :=
  match name, args with
  | "type_of", [] => some (.value (.str d.typeName))
  | "to_string", [] => some (.value (text d.chars))
  | "to_debug", [] => some (.value (text d.literalChars))
  | "print", [] | "debug", [] => some (.value .unit)
  | "exit", [] => some (.stop (.exited d))
  | "take", [] => some (.done { value := d, changed := some .unit })
  | "min", [e] => (extreme false d e).map .value
  | "max", [e] => (extreme true d e).map .value
  | "range", args => newRange? (d :: args)
  | _, _ => none

/-- The functions of functions; `call` is none of them, since a plan cannot be the call of
    just any function. -/
def ofFunction (name : String) (f : Datum) (args : List Datum) : Option Plan :=
  match name, args with
  | "curry", [] => some (.value f)
  | "curry", args => some (.value (.curried f args))
  | "is_anonymous", [] => some (.value (.bool (f matches .closure ..)))
  | "name", [] => match f with
    | .function name => some (.value (.str name))
    | _ => none
  | "Fn", [] => some (.value f)
  | _, _ => none

/-- The functions of a type. -/
def ofType (name : String) (d : Datum) (args : List Datum) : Option Plan :=
  match d with
  | .str s =>
    if name = "Fn" ∧ args.isEmpty then some (functionNamed s)
    else (readText name s.toList args).orElse fun _ => changeText name s.toList args
  | .char c => ofChar name c args
  | .int n => ofInteger name n args
  | .float x => ofReal name x args
  | .arr items => ofArray name items args
  | .map fields => ofMap name fields args
  | .range first last closed => ofRange name first last closed args
  | .function _ | .closure .. | .curried .. => ofFunction name d args
  | _ => none

/-- The plan of the built-in function of a name for some arguments, if there is one. -/
def plan? (name : String) : List Datum → Option Plan
  | [] => ofNothing name
  | d :: args => (ofAny name d args).orElse fun _ => ofType name d args

/-- The functions without arguments that are properties too. -/
def properties : Datum → List String
  | .str _ => ["len", "bytes", "is_empty", "chars"]
  | .int _ => ["is_zero", "is_odd", "is_even", "bits"]
  | .float _ =>
    ["is_zero", "is_nan", "is_finite", "is_infinite", "floor", "ceiling", "round", "int", "fraction"]
  | .arr _ => ["len", "is_empty"]
  | .range .. => ["start", "end", "is_inclusive", "is_exclusive", "is_empty"]
  | .function _ | .closure .. | .curried .. => ["name", "is_anonymous"]
  | _ => []

/-- The property of a datum that is no map. -/
def property? (name : String) (d : Datum) : Option Datum :=
  if (properties d).contains name then
    match plan? name [d] with
    | some (.done o) => some o.value
    | _ => none
  else none

/-- The functions that may be called on a constant although their calls can change its items,
    which they are asked not to do. -/
def forConstants : List String :=
  ["map", "filter", "find", "find_map", "some", "all", "index_of", "reduce", "reduce_rev"]

end Hyperfiction.Script.Builtin
