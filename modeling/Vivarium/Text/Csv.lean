/-!
# Comma-separated rows

A row is its fields between commas, ended by a carriage return and a line feed. A field that holds a
comma, a quote or one of these two is written between quotes, its own quotes twice.
-/

namespace Vivarium.Text

/-- Whether a character makes quotes around its field necessary. -/
def needsQuotes (c : Char) : Bool := c == ',' || c == '"' || c == '\r' || c == '\n'

def csvField (s : String) : List Char :=
  let cs := s.toList
  if cs.any needsQuotes then
    '"' :: cs.flatMap (fun c => if c = '"' then ['"', '"'] else [c]) ++ ['"']
  else cs

/-- The fields of a row between commas. -/
def csvFields : List String → List Char
  | [] => []
  | [field] => csvField field
  | field :: rest => csvField field ++ ',' :: csvFields rest

def csvRow (fields : List String) : String := String.ofList (csvFields fields ++ ['\r', '\n'])

end Vivarium.Text
