/-! # Character entities

    Stored passage text and attribute values hold five characters as entities:
    `&`, `<`, `>`, the double quote and the apostrophe. `escape` writes them,
    `unescape` reads them back in one pass from left to right, so that the
    characters it produces are never read as part of another entity.
-/

namespace Hyperfiction.Entity

/-- A character as it is written: its entity if it has one. -/
def encodeChar : Char → List Char
  | '&' => ['&', 'a', 'm', 'p', ';']
  | '<' => ['&', 'l', 't', ';']
  | '>' => ['&', 'g', 't', ';']
  | '\"' => ['&', 'q', 'u', 'o', 't', ';']
  | '\'' => ['&', '#', '3', '9', ';']
  | c => [c]

/-- Every character as it is written. -/
def encode (cs : List Char) : List Char :=
  cs.flatMap encodeChar

/-- Reads the five entities back; any other ampersand stands for itself. -/
def decode : List Char → List Char
  | [] => []
  | '&' :: 'a' :: 'm' :: 'p' :: ';' :: cs => '&' :: decode cs
  | '&' :: 'l' :: 't' :: ';' :: cs => '<' :: decode cs
  | '&' :: 'g' :: 't' :: ';' :: cs => '>' :: decode cs
  | '&' :: 'q' :: 'u' :: 'o' :: 't' :: ';' :: cs => '\"' :: decode cs
  | '&' :: '#' :: '3' :: '9' :: ';' :: cs => '\'' :: decode cs
  | c :: cs => c :: decode cs

/-- The text with the five special characters written as entities. -/
def escape (s : String) : String :=
  String.ofList (encode s.toList)

/-- The text with the five entities replaced by their characters. -/
def unescape (s : String) : String :=
  String.ofList (decode s.toList)

@[simp] theorem toList_escape (s : String) : (escape s).toList = encode s.toList :=
  String.toList_ofList

@[simp] theorem toList_unescape (s : String) : (unescape s).toList = decode s.toList :=
  String.toList_ofList

end Hyperfiction.Entity
