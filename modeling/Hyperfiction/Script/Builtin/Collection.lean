import Hyperfiction.Script.Builtin.Place
import Hyperfiction.Script.Builtin.Plan

/-! # Built-in functions of arrays and maps -/

namespace Hyperfiction.Script.Builtin

/-! ## Arrays as they are -/

/-- The place of the first item from an index on that is equal to a datum. -/
def sameFrom? (d : Datum) (start : Int) (xs : List Datum) : Option Nat :=
  let n := clampedPlace xs.length start
  ((xs.drop n).findIdx? d.same).map (n + ·)

/-- The item at an index, which is moved to the start if it is before that. -/
def itemAt (xs : List Datum) (i : Int) : Datum :=
  xs.getD (clampedPlace xs.length i) .unit

/-- The functions of arrays that leave them as they are. -/
def readArray (name : String) (xs : List Datum) (args : List Datum) : Option Plan :=
  match name, args with
  | "len", [] => some (.value (.int xs.length))
  | "is_empty", [] => some (.value (.bool xs.isEmpty))
  | "get", [.int i] => some (.value (itemAt xs i))
  | "contains", [d] => some (.value (.bool (xs.any d.same)))
  | "index_of", [d] => some (.value (placeDatum (sameFrom? d 0 xs)))
  | "index_of", [d, .int start] => some (.value (placeDatum (sameFrom? d start xs)))
  | "extract", args =>
    (tailArgs? xs.length args).map fun (start, count) => .value (.arr (part xs start count))
  | _, _ => none

/-! ## Sorting -/

/-- Whether a datum comes before another one of its type; only numbers, truth values,
    characters and texts have an order. -/
def comesBefore : Datum → Datum → Bool
  | .int x, .int y => x < y
  | .float x, .float y => x < y
  | .bool x, .bool y => !x && y
  | .char x, .char y => x < y
  | .str x, .str y => x < y
  | _, _ => false

/-- The items in order, the greatest last or first; all have to be of one type. -/
def sorted? (descending : Bool) (xs : List Datum) : Option (List Datum) :=
  match xs with
  | [] => some []
  | d :: _ =>
    if xs.all fun e => e.typeName == d.typeName then
      some (xs.mergeSort fun x y => if descending then !comesBefore x y else !comesBefore y x)
    else none

/-- Goes on with items in order; those of several types cannot be sorted. -/
def withSorted (descending : Bool) (xs : List Datum) (next : List Datum → Plan) : Plan :=
  match sorted? descending xs with
  | some xs => next xs
  | none => .stop (.fault (.unknownFunction "sort"))

/-- The items without those that are equal to the one kept before them; those kept are in
    reverse. -/
def dedup (kept : List Datum) : List Datum → List Datum
  | [] => kept.reverse
  | d :: ds => dedup (if kept.head?.any (·.same d) then kept else d :: kept) ds

/-! ## Arrays that change -/

/-- Takes a part out of an array: what is left, and the part. -/
def takeOut (xs : List Datum) (s : Span) : Plan :=
  .done { value := .arr (s.of xs), changed := some (.arr (s.without xs)) }

/-- Keeps a part of an array: the part, and what is taken out. -/
def keepOnly (xs : List Datum) (s : Span) : Plan :=
  .done { value := .arr (s.without xs), changed := some (.arr (s.of xs)) }

/-- Goes on with the part of an array that arguments name, if it is to have any items. -/
def withPart (xs : List Datum) (args : List Datum) (next : List Datum → Span → Plan) :
    Option Plan :=
  (partArgs? args).map fun (start, count) =>
    if xs.isEmpty ∨ count ≤ 0 then .done { value := .arr [], changed := some (.arr xs) }
    else next xs (Span.ofIndex xs.length start count)

/-- Takes the item at a place out of an array. -/
def removeAt (xs : List Datum) (place : Option Nat) : Plan :=
  match place with
  | some n => .done { value := xs.getD n .unit, changed := some (.arr (xs.eraseIdx n)) }
  | none => .done { value := .unit, changed := some (.arr xs) }

/-- The functions that change an array. -/
def changeArray (name : String) (xs : List Datum) (args : List Datum) : Option Plan :=
  match name, args with
  | "push", [d] => some (.change (.arr (xs ++ [d])))
  | "append", [.arr ys] => some (.change (.arr (xs ++ ys)))
  | "insert", [.int i, d] => some (.change (.arr (xs.insertIdx (clampedPlace xs.length i) d)))
  | "set", [.int i, d] => some (.change (.arr (xs.set (clampedPlace xs.length i) d)))
  | "pad", [.int size, d] =>
    some (.change (.arr (xs ++ List.replicate (size.toNat - xs.length) d)))
  | "pop", [] => some (removeAt xs (if xs.isEmpty then none else some (xs.length - 1)))
  | "shift", [] => some (removeAt xs (if xs.isEmpty then none else some 0))
  | "remove", [.int i] => some (removeAt xs (place? xs.length i))
  | "reverse", [] => some (.change (.arr xs.reverse))
  | "clear", [] => some (.change (.arr []))
  | "truncate", [.int size] => some (.change (.arr (xs.take size.toNat)))
  | "chop", [.int size] => some (.change (.arr (xs.drop (xs.length - size.toNat))))
  | "splice", [.int start, .int count, .arr ys] =>
    let s := Span.ofIndex xs.length start count
    some (.change (.arr (xs.take s.start ++ ys ++ xs.drop (s.start + s.count))))
  | "splice", [d, .arr ys] =>
    (partArgs? [d]).map fun (start, count) =>
      let s := Span.ofIndex xs.length start count
      .change (.arr (xs.take s.start ++ ys ++ xs.drop (s.start + s.count)))
  | "split", [.int i] =>
    let n := clampedPlace xs.length i
    some (.done { value := .arr (xs.drop n), changed := some (.arr (xs.take n)) })
  | "drain", args => withPart xs args takeOut
  | "retain", args => withPart xs args keepOnly
  | "dedup", [] => some (.change (.arr (dedup [] xs)))
  | "sort", [] => some (withSorted false xs fun ys => .change (.arr ys))
  | "sort_desc", [] => some (withSorted true xs fun ys => .change (.arr ys))
  | "order", [] => some (withSorted false xs fun ys => .value (.arr ys))
  | "order_desc", [] => some (withSorted true xs fun ys => .value (.arr ys))
  | _, _ => none

/-! ## Functions on the items of arrays -/

/-- An array, if its items were receivers. -/
def arrayAfter (seen : List (Plan.Visited Datum)) (left : List Datum) : Option Datum :=
  (Plan.after seen left).map .arr

/-- Calls `f` on the items of an array and goes on with what that comes to. -/
def eachItem (f : Datum) (xs : List Datum) (next : List (Plan.Visited Datum) → Datum) : Plan :=
  .visit .items f (fun seen left => .done { value := next seen, changed := arrayAfter seen left })
    .unit [] 0 xs

/-- Calls `f` on the items of an array from an index on, until one of its values is enough. The
    places of the items are counted from there. -/
def eachUntil (enough : Datum → Bool) (f : Datum) (start : Int) (xs : List Datum)
    (next : (from_ : Nat) → List (Plan.Visited Datum) → Datum) : Plan :=
  let n := clampedPlace xs.length start
  .visit (.items enough) f
    (fun seen left => .done
      { value := next n seen
        changed := (Plan.after seen left).map fun ys => .arr (xs.take n ++ ys) })
    .unit [] n (xs.drop n)

/-- Calls `f` on the items of an array and parts those that it finds true from the others:
    which are kept, and which are the value. -/
def parted (kept : Bool) (f : Datum) (xs : List Datum) : Plan :=
  .visit .items f
    (fun seen _ => .done
      { value := .arr (Plan.chosen (!kept) seen)
        changed := some (.arr (Plan.chosen kept seen)) })
    .unit [] 0 xs

/-- Folds an array from its start or from its end, the first value given. -/
def foldItems (backward : Bool) (f initial : Datum) (xs : List Datum) : Plan :=
  let last (seen : List (Plan.Visited Datum)) : Datum := (seen.getLast?.map (·.value)).getD initial
  if backward then
    .visit (.folded fun n => xs.length - 1 - n) f
      (fun seen left => .done
        { value := last seen
          changed := (Plan.after seen left).map fun ys => .arr ys.reverse })
      initial [] 0 xs.reverse
  else
    .visit (.folded id) f
      (fun seen left => .done { value := last seen, changed := arrayAfter seen left })
      initial [] 0 xs

/-- The functions of arrays that call a function. -/
def overArray (name : String) (xs : List Datum) (f : Datum) (args : List Datum) : Option Plan :=
  match name, args with
  | "map", [] => some (eachItem f xs fun seen => .arr (seen.map (·.value)))
  | "filter", [] => some (eachItem f xs fun seen => .arr (Plan.chosen true seen))
  | "for_each", [] =>
    some (.visit .methods f
      (fun seen left => .done { value := .unit, changed := some (.arr (seen.map (·.item) ++ left)) })
      .unit [] 0 xs)
  | "find", [] => some (findFrom 0)
  | "find", [.int start] => some (findFrom start)
  | "index_of", [] => some (placeFrom 0)
  | "index_of", [.int start] => some (placeFrom start)
  | "find_map", [] => some (firstValueFrom 0)
  | "find_map", [.int start] => some (firstValueFrom start)
  | "some", [] =>
    some (eachUntil Plan.isTrue f 0 xs fun _ seen => .bool (Plan.found? seen).isSome)
  | "all", [] =>
    some (eachUntil (!Plan.isTrue ·) f 0 xs fun _ seen => .bool (seen.all (Plan.isTrue ·.value)))
  | "reduce", [] => some (foldItems false f .unit xs)
  | "reduce", [initial] => some (foldItems false f initial xs)
  | "reduce_rev", [] => some (foldItems true f .unit xs)
  | "reduce_rev", [initial] => some (foldItems true f initial xs)
  | "retain", [] => some (parted true f xs)
  | "drain", [] => some (parted false f xs)
  | "sort", [] => some (.sortBy f (fun ys => .change (.arr ys)) [] xs)
  | "dedup", [] => some (.dedupBy f (fun ys => .change (.arr ys)) [] xs)
  | _, _ => none
where
  findFrom (start : Int) : Plan :=
    eachUntil Plan.isTrue f start xs fun _ seen => ((Plan.found? seen).map Prod.snd).getD .unit
  placeFrom (start : Int) : Plan :=
    eachUntil Plan.isTrue f start xs fun n seen =>
      placeDatum ((Plan.found? seen).map fun p => n + p.1)
  firstValueFrom (start : Int) : Plan :=
    eachUntil (!·.same .unit) f start xs fun _ seen => (seen.getLast?.map (·.value)).getD .unit

/-- The functions of arrays: those that are given a function call it. -/
def ofArray (name : String) (xs : List Datum) (args : List Datum) : Option Plan :=
  let calling : Option Plan := match name, args with
    | "zip", [.arr ys, f] =>
      if f.isCallable then
        some (.visit .pairs f (fun seen _ => .value (.arr (seen.map (·.value)))) .unit [] 0
          (xs.zip ys))
      else none
    | name, f :: args => if f.isCallable then overArray name xs f args else none
    | _, [] => none
  calling.orElse fun _ => (readArray name xs args).orElse fun _ => changeArray name xs args

/-! ## Maps -/

/-- Calls `f` on the fields of a map and goes on with those that it finds true, the others, and
    what has become of all. -/
def eachField (f : Datum) (fs : Fields Datum)
    (next : (chosen others : Fields Datum) → (after : Option (Fields Datum)) → Outcome) : Plan :=
  .visit .fields f
    (fun seen left => .done (next (Plan.chosen true seen) (Plan.chosen false seen)
      (Plan.after seen left)))
    .unit [] 0 fs

/-- The functions of maps. -/
def ofMap (name : String) (fs : Fields Datum) (args : List Datum) : Option Plan :=
  match name, args with
  | "len", [] => some (.value (.int fs.length))
  | "is_empty", [] => some (.value (.bool fs.isEmpty))
  | "contains", [.str key] => some (.value (.bool (Table.contains key fs)))
  | "get", [.str key] => some (.value ((Table.get? key fs).getD .unit))
  | "keys", [] => some (.value (.arr ((Table.keys fs).map .str)))
  | "values", [] => some (.value (.arr (fs.map Prod.snd)))
  | "set", [.str key, d] => some (.change (.map (Table.insert key d fs)))
  | "remove", [.str key] =>
    some (.done
      { value := (Table.get? key fs).getD .unit, changed := some (.map (Table.erase key fs)) })
  | "clear", [] => some (.change (.map []))
  | "mixin", [.map upper] => some (.change (.map (Table.merge fs upper)))
  | "fill_with", [.map lower] => some (.change (.map (Table.merge lower fs)))
  | "filter", [f] =>
    if f.isCallable then
      some (eachField f fs fun chosen _ after =>
        { value := .map chosen, changed := after.map .map })
    else none
  | "retain", [f] =>
    if f.isCallable then
      some (eachField f fs fun chosen others _ =>
        { value := .map others, changed := some (.map chosen) })
    else none
  | "drain", [f] =>
    if f.isCallable then
      some (eachField f fs fun chosen others _ =>
        { value := .map chosen, changed := some (.map others) })
    else none
  | _, _ => none

end Hyperfiction.Script.Builtin
