import Hyperfiction.Json.Printer

/-! # Displayed values

    The text a value contributes where a template interpolates it.
-/

namespace Hyperfiction.Value

mutual

/-- The text a value contributes: nothing for `null`, the items of an array
    joined by commas, an object as compact JSON. -/
def displayChars : Value → List Char
  | .null => []
  | .bool true => ['t', 'r', 'u', 'e']
  | .bool false => ['f', 'a', 'l', 's', 'e']
  | .int n => Decimal.ofInt n
  | .float x => displayFloat x
  | .str s => s.toList
  | .arr [] => []
  | .arr (v :: vs) => displayChars v ++ displayRest vs
  | .obj fs => Json.write (.obj fs)

/-- The items that follow the first, each after a comma. -/
def displayRest : List Value → List Char
  | [] => []
  | v :: vs => ',' :: (displayChars v ++ displayRest vs)

end

/-- The text a value contributes where it is interpolated. -/
def display (v : Value) : String :=
  String.ofList (displayChars v)

end Hyperfiction.Value
