import Vivarium.Fault
import Vivarium.Text.Numeral

/-!
# Numbers among values

Truth values, whole numbers and doubles are numbers; true is one and false is zero. Numbers are
compared exactly, whatever their kinds, and nothing but an infinity lies past the doubles. A whole
number of more digits than are read is not written either.
-/

namespace Vivarium

inductive Number where
  | whole (n : Int)
  | double (x : Float)

namespace Number

/-! ## Comparison -/

/-- A number's place among all numbers: no place, below or above all, or an exact fraction. -/
inductive Place where
  | nowhere
  | below
  | above
  | point (num : Int) (den : Nat)

def place : Number → Place
  | whole n => .point n 1
  | double x =>
    match Decimal.Parts.ofFloat x with
    | .nan => .nowhere
    | .infinite negative => if negative then .below else .above
    | .finite negative mantissa exponent =>
      let f := Decimal.Fraction.scaled mantissa exponent
      .point (if negative then -(f.num : Int) else f.num) f.den

/-- Whether one place lies before another. -/
def Place.lt : Place → Place → Bool
  | .point n d, .point m e => n * e < m * d
  | .below, .point .. => true
  | .below, .above => true
  | .point .., .above => true
  | _, _ => false

def Place.same : Place → Place → Bool
  | .point n d, .point m e => n * e == m * d
  | .below, .below => true
  | .above, .above => true
  | _, _ => false

def lt (a b : Number) : Bool := a.place.lt b.place

/-- Whether a number is less than another or equal to it. -/
def le (a b : Number) : Bool := a.place.lt b.place || a.place.same b.place

def same (a b : Number) : Bool := a.place.same b.place

def isNowhere (a : Number) : Bool := a.place matches .nowhere

@[simp] theorem lt_whole (n m : Int) : lt (whole n) (whole m) = decide (n < m) := by
  simp [lt, place, Place.lt]

@[simp] theorem le_whole (n m : Int) : le (whole n) (whole m) = decide (n ≤ m) := by
  rw [Bool.eq_iff_iff]
  simp [le, place, Place.lt, Place.same]
  omega

/-! ## Arithmetic and rounding -/

def toDouble : Number → Except Fault Float
  | whole n => (Decimal.ofInt? n).elim (.error .tooLargeForDouble) .ok
  | double x => .ok x

def toValue : Number → Value
  | whole n => .int n
  | double x => .float x

/-- The product of two numbers, whole when both are. -/
def mul : Number → Number → Except Fault Number
  | whole n, whole m => .ok (whole (n * m))
  | a, b => do
    let x ← a.toDouble
    let y ← b.toDouble
    return double (x * y)

/-- The greatest whole number that is not above a number; none for an infinity and for what is not
a number. -/
def floor? (a : Number) : Option Int :=
  match a.place with
  | .point num den => some (num.fdiv den)
  | _ => none

def whole? (a : Number) : Option Int :=
  match a.place with
  | .point num den => some (num.tdiv den)
  | _ => none

/-- The whole part of a number that must have one. -/
def truncate (a : Number) : Except Fault Int :=
  match a.place with
  | .point num den => .ok (num.tdiv den)
  | .nowhere => .error .notANumber
  | _ => .error .infinite

end Number

/-! ## Values as numbers -/

namespace Value

def number? : Value → Option Number
  | bool b => some (.whole (if b then 1 else 0))
  | int n => some (.whole n)
  | float x => some (.double x)
  | _ => none

/-- The whole number that a value is; a double is not whole. -/
def whole? : Value → Option Int
  | bool b => some (if b then 1 else 0)
  | int n => some n
  | _ => none

/-- Compares two values that must be numbers. -/
def compare (relation : String) (holds : Number → Number → Bool) (a b : Value) :
    Except Fault Bool :=
  match a.number?, b.number? with
  | some x, some y => .ok (holds x y)
  | _, _ => .error (.unordered relation a.kind b.kind)

def lt (a b : Value) : Except Fault Bool := compare "<" Number.lt a b

/-- Whether a value is less than another or equal to it. -/
def le (a b : Value) : Except Fault Bool := compare "<=" Number.le a b

def gt (a b : Value) : Except Fault Bool := compare ">" (fun x y => Number.lt y x) a b

/-- Whether a value is greater than another or equal to it. -/
def ge (a b : Value) : Except Fault Bool := compare ">=" (fun x y => Number.le y x) a b

/-- The numbers that can count the items of a list are below this and not below its negative. -/
def countLimit : Int := Nat.pow 2 63

def room : Int := Nat.pow 2 30

/-- The number of items that a row of so many items has when it is repeated. -/
def repeatedLength (length : Nat) (count : Int) : Except Fault Nat :=
  if countLimit ≤ count ∨ count < -countLimit then .error .uncountable
  else if room < length * count then .error .noRoom
  else .ok (length * count.toNat)

def cycled {α : Type} (items : List α) (length : Nat) : List α :=
  ((List.replicate (length / items.length) items).flatten)

/-- A text, bytes, a list or a pair over and over; none for a value of another kind. -/
def repeated? (row : Value) (count : Int) : Option (Except Fault Value) :=
  match row with
  | text s =>
    some ((repeatedLength s.length count).map fun n => .text (String.ofList (cycled s.toList n)))
  | bytes content =>
    some ((repeatedLength content.length count).map fun n => .bytes (cycled content n))
  | list items => some ((repeatedLength items.length count).map fun n => .list (cycled items n))
  | pair a b => some ((repeatedLength 2 count).map fun n => .list (cycled [a, b] n))
  | _ => none

def isRow (v : Value) : Bool := (v.repeated? 0).isSome

/-- The product of two values: of numbers, or of a row and the number of times it is repeated. -/
def mul (a b : Value) : Except Fault Value :=
  match a.number?, b.number? with
  | some x, some y => (Number.mul x y).map Number.toValue
  | _, _ =>
    let (row, count) := if a.isRow then (a, b) else (b, a)
    if row.isRow then
      match count.whole? with
      | some n => (row.repeated? n).getD (.error (.noProduct a.kind b.kind))
      | none => .error (.notRepeatable count.kind)
    else .error (.noProduct a.kind b.kind)

/-- Whether two values are the same key of a map: numbers by value, whatever their kind, and what is
no number like itself. -/
def sameKey : Value → Value → Bool
  | null, null => true
  | text s, text t => s == t
  | date d, date e => d == e
  | moment m, moment n => m.same n
  | bytes b, bytes c => b == c
  | pair a b, pair c d => a.sameKey c && b.sameKey d
  | a, b =>
    match a.number?, b.number? with
    | some x, some y => x.same y || (x.isNowhere && y.isNowhere)
    | _, _ => false

def toCount (v : Value) : Except Fault Int :=
  match v.whole? with
  | some n => .ok n
  | none => .error (.notCount v.kind)

theorem whole?_of_toCount {v : Value} {n : Int} (counted : v.toCount = .ok n) : v.whole? = some n := by
  rw [toCount] at counted
  cases whole : v.whole? with
  | none => rw [whole] at counted; cases counted
  | some m => rw [whole] at counted; cases counted; rfl

/-- A number as it stands in a log entry: its whole part. -/
def truncated (v : Value) : String :=
  match v.number?.bind Number.whole? with
  | some n => toString n
  | none => v.plain

/-- The entries of a map with the value at a key replaced, or with a new entry at the end. -/
def insertEntry (key value : Value) : List (Value × Value) → List (Value × Value)
  | [] => [(key, value)]
  | entry :: rest =>
    if entry.1.sameKey key then (entry.1, value) :: rest else entry :: insertEntry key value rest

/-! ## Whole numbers -/

section Whole

variable {v w : Value} {n m : Int}

theorem number?_of_whole? (whole : v.whole? = some n) : v.number? = some (.whole n) := by
  cases v with
  | bool | int =>
    cases whole
    rfl
  | _ => cases whole

theorem compare_of_whole (whole : v.whole? = some n) (whole' : w.whole? = some m) (relation : String)
    (holds : Number → Number → Bool) :
    v.compare relation holds w = .ok (holds (.whole n) (.whole m)) := by
  rw [compare, number?_of_whole? whole, number?_of_whole? whole']

theorem lt_of_whole (whole : v.whole? = some n) (whole' : w.whole? = some m) :
    v.lt w = .ok (decide (n < m)) := by
  rw [lt, compare_of_whole whole whole', Number.lt_whole]

theorem le_of_whole (whole : v.whole? = some n) (whole' : w.whole? = some m) :
    v.le w = .ok (decide (n ≤ m)) := by
  rw [le, compare_of_whole whole whole', Number.le_whole]

theorem gt_of_whole (whole : v.whole? = some n) (whole' : w.whole? = some m) :
    v.gt w = .ok (decide (m < n)) := by
  rw [gt, compare_of_whole whole whole', Number.lt_whole]

theorem ge_of_whole (whole : v.whole? = some n) (whole' : w.whole? = some m) :
    v.ge w = .ok (decide (m ≤ n)) := by
  rw [ge, compare_of_whole whole whole', Number.le_whole]

theorem mul_of_whole (whole : v.whole? = some n) (whole' : w.whole? = some m) :
    v.mul w = .ok (.int (n * m)) := by
  rw [mul, number?_of_whole? whole, number?_of_whole? whole']
  rfl

end Whole

/-! ## Writing -/

mutual

/-- Whether the whole numbers of a value can be written: they have no more digits than are read. -/
def isWritable : Value → Bool
  | int n => n.natAbs < Nat.pow 10 Text.digitLimit
  | list items => areWritable items
  | pair first second => isWritable first && isWritable second
  | set members => areWritable members
  | map entries => haveWritable entries
  | named _ content => isWritable content
  | _ => true

def areWritable : List Value → Bool
  | [] => true
  | item :: rest => isWritable item && areWritable rest

/-- Whether the whole numbers of all keys and values of a map can be written. -/
def haveWritable : List (Value × Value) → Bool
  | [] => true
  | (key, value) :: rest => isWritable key && isWritable value && haveWritable rest

end

mutual

/-- The first flaw that keeps a value from being written where there is room for so many values, one
inside the other: a whole number of too many digits, or a value that there is no room for. -/
def flaw? : Value → Nat → Option Fault
  | _, 0 => some (.tooDeep " while getting the repr of an object")
  | int n, _ + 1 => if isWritable (int n) then none else some .unwritable
  | list items, room + 1 => firstFlaw? items room
  | pair first second, room + 1 => (flaw? first room).or (flaw? second room)
  | set members, room + 1 => firstFlaw? members room
  | map entries, room + 1 => entryFlaw? entries room
  | named _ content, room + 1 => flaw? content (room + 1)
  | _, _ + 1 => none

def firstFlaw? : List Value → Nat → Option Fault
  | [], _ => none
  | item :: rest, room => (flaw? item room).or (firstFlaw? rest room)

/-- The first flaw of the keys and values of a map. -/
def entryFlaw? : List (Value × Value) → Nat → Option Fault
  | [], _ => none
  | (key, value) :: rest, room =>
    ((flaw? key room).or (flaw? value room)).or (entryFlaw? rest room)

end

/-- How many values, one inside the other, there is room for where settings are read. -/
def roomToRead : Nat := 997

def roomToTell : Nat := 996

/-- What keeps a value from being written as plain text. -/
def unwritten? (v : Value) : Option Fault := v.flaw? roomToRead

/-- A value as plain text, if it can be written. -/
def written (v : Value) : Except Fault String :=
  match v.unwritten? with
  | none => .ok v.plain
  | some fault => .error fault

end Value

/-- What keeps a message from telling of values: the first flaw of them, in this order. -/
def Value.untold? (values : List Value) : Option Fault :=
  values.findSome? fun v => v.flaw? roomToTell

/-- A fault that tells of values; if one of them cannot be written, that is the fault. -/
def Fault.telling (fault : Fault) (values : List Value) : Fault := (Value.untold? values).getD fault

namespace Value

/-! ## Directions -/

def toDirection (v : Value) : Except Fault Direction :=
  let found := [Direction.north, .east, .south, .west].find? fun d =>
    (v.number?.map (Number.same (.whole d.index))).getD false
  found.elim (.error (.telling (.badDirection v) [v])) .ok

theorem toDirection_index (d : Direction) : (Value.int d.index).toDirection = .ok d := by
  cases d <;> rfl

end Value

end Vivarium
