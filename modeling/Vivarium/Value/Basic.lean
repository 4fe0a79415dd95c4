import Vivarium.Calendar
import Vivarium.Decimal.Notation
import Vivarium.Text.Quoted

/-!
# Values of any kind

Settings and messages hold values whose kind is not known beforehand: nothing, a truth value, a
whole number, a double, a text, a list, or a map. A document may also hold dates, moments, bytes,
sets and pairs. A map keeps its entries in order, each key once.

A list or a map of a document may hold itself. It stands then under a label, and inside it the
label stands for the whole again; `Value.opened` puts the whole there.
-/

namespace Vivarium

inductive Value where
  | null
  | bool (b : Bool)
  | int (n : Int)
  | float (x : Float)
  | text (s : String)
  | date (d : Date)
  | moment (m : Moment)
  | bytes (content : List UInt8)
  | list (items : List Value)
  | pair (first second : Value)
  | set (members : List Value)
  | map (entries : List (Value × Value))
  /-- A value that holds itself. -/
  | named (label : Nat) (content : Value)
  /-- The value around this place that has the label. -/
  | again (label : Nat)
deriving Inhabited

namespace Value

/-- The name of a value's kind, as it stands in messages. -/
def kind : Value → String
  | null => "NoneType"
  | bool _ => "bool"
  | int _ => "int"
  | float _ => "float"
  | text _ => "str"
  | date _ => "datetime.date"
  | moment _ => "datetime.datetime"
  | bytes _ => "bytes"
  | list _ => "list"
  | pair .. => "tuple"
  | set _ => "set"
  | map _ => "dict"
  | named _ content => kind content
  | again _ => "object"

/-- The name of a value's kind without the group that the kind belongs to. -/
def shortKind (v : Value) : String :=
  match v with
  | date _ => "date"
  | moment _ => "datetime"
  | _ => v.kind

/-! ## Values that hold themselves -/

mutual

/-- A value with another one put in wherever a label stands for it. -/
def fill (label : Nat) (whole : Value) : Value → Value
  | again l => if l = label then whole else again l
  | named l content => if l = label then named l content else named l (fill label whole content)
  | list items => list (fillItems label whole items)
  | pair first second => pair (fill label whole first) (fill label whole second)
  | map entries => map (fillEntries label whole entries)
  | v => v

def fillItems (label : Nat) (whole : Value) : List Value → List Value
  | [] => []
  | item :: rest => fill label whole item :: fillItems label whole rest

/-- The entries of a map with a value put in. A key holds no label. -/
def fillEntries (label : Nat) (whole : Value) : List (Value × Value) → List (Value × Value)
  | [] => []
  | (key, value) :: rest => (key, fill label whole value) :: fillEntries label whole rest

end

/-- A value to look into: one that stands under a label is put in where the label stands. -/
def opened : Value → Value
  | named label content => fill label (named label content) content
  | v => v

/-! ## Texts of values -/

/-- What is shown of a value inside itself. -/
def ellipsis : Value → String
  | list _ => "[...]"
  | map _ => "\x7b...\x7d"
  | _ => "..."

mutual

/-- A value as it is shown inside the values with the given labels, whose place is taken by the
texts beside them. -/
def shownInside (labels : List (Nat × String)) : Value → String
  | null => "None"
  | bool b => if b then "True" else "False"
  | int n => toString n
  | float x => Decimal.text x
  | text s => Text.quoted s
  | date d => d.shown
  | moment m => m.shown
  | bytes content => Text.quotedBytes content
  | list items => "[" ++ ", ".intercalate (shownItems labels items) ++ "]"
  | pair first second =>
    "(" ++ shownInside labels first ++ ", " ++ shownInside labels second ++ ")"
  | set [] => "set()"
  | set members => "\x7b" ++ ", ".intercalate (shownItems labels members) ++ "\x7d"
  | map entries => "\x7b" ++ ", ".intercalate (shownEntries labels entries) ++ "\x7d"
  | named label content =>
    match labels.lookup label with
    | some shown => shown
    | none => shownInside ((label, content.ellipsis) :: labels) content
  | again label => (labels.lookup label).getD "..."

def shownItems (labels : List (Nat × String)) : List Value → List String
  | [] => []
  | item :: rest => shownInside labels item :: shownItems labels rest

def shownEntries (labels : List (Nat × String)) : List (Value × Value) → List String
  | [] => []
  | (key, value) :: rest =>
    (shownInside labels key ++ ": " ++ shownInside labels value) :: shownEntries labels rest

end

/-- A value as it is shown inside a message or a collection: a text stands between quotes. -/
def shown (v : Value) : String := shownInside [] v

/-- A value as plain text: a text, a date and a moment are themselves, any other value is as it is
shown. -/
def plain : Value → String
  | text s => s
  | date d => d.text
  | moment m => m.text
  | v => shown v

/-! ## Entries of a map -/

def lookup (key : String) : List (Value × Value) → Option Value
  | [] => none
  | (.text k, v) :: rest => if k = key then some v else lookup key rest
  | _ :: rest => lookup key rest

/-- Whether a value counts as empty: nothing, false, zero, and a text, a list and the like without
content. -/
def isEmpty : Value → Bool
  | null => true
  | bool b => !b
  | int n => n == 0
  | float x => x == 0
  | text s => s.isEmpty
  | bytes content => content.isEmpty
  | list items => items.isEmpty
  | set members => members.isEmpty
  | map entries => entries.isEmpty
  | named _ content => isEmpty content
  | _ => false

/-- The kind of what keeps a value from being the key of a map: lists, sets and maps may be none,
and neither may a pair that holds one. -/
def notKey? : Value → Option String
  | list items => some (list items).kind
  | set members => some (set members).kind
  | map entries => some (map entries).kind
  | pair first second => first.notKey?.orElse fun _ => second.notKey?
  | named _ content => some content.kind
  | _ => none

end Value

end Vivarium
