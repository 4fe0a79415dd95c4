import Vivarium.Text.Numeral
import Vivarium.Value.Number

/-!
# Times in a document

A time is written as a date, or as a date and a time of day with an optional fraction of a second
and an optional zone: the letter of universal time, or how far the clock is ahead of it. Only the
form is looked at here; whether the calendar has such a time is said by `Written.toValue`.
-/

namespace Vivarium.Document.Timestamp

/-! ## Form -/

/-- The zone of a time of day as it is written. -/
inductive Zone where
  | unstated
  | universal
  | offset (behind : Bool) (hours minutes : Nat)
deriving DecidableEq, Repr

/-- A time of day as it is written; of the fraction of a second, its digits. -/
structure Clock where
  hour : Nat
  minute : Nat
  second : Nat
  fraction : List Nat
  zone : Zone
deriving DecidableEq, Repr

structure Written where
  year : Nat
  month : Nat
  day : Nat
  /-- Whether the month and the day have two digits each. -/
  isPadded : Bool
  clock : Option Clock
deriving DecidableEq, Repr

def number? (least most : Nat) (cs : List Char) : Option (Nat × List Nat × List Char) :=
  let digits := ((cs.takeWhile Char.isDigit).take most).map fun c => c.toNat - 48
  if digits.length < least then none
  else some (Text.ofDigits 10 digits, digits, cs.drop digits.length)

def after? (mark : Char) : List Char → Option (List Char)
  | [] => none
  | c :: cs => if c = mark then some cs else none

def isBlank (c : Char) : Bool := c == ' ' || c == '\t'

/-- The characters after what stands between a date and a time of day. -/
def afterDate? (cs : List Char) : Option (List Char) :=
  match cs with
  | 'T' :: rest => some rest
  | 't' :: rest => some rest
  | c :: rest => if isBlank c then some (rest.dropWhile isBlank) else none
  | [] => none

/-- The digits of a fraction of a second, if there is one, and the characters after it. -/
def fraction : List Char → List Nat × List Char
  | '.' :: cs =>
    ((cs.takeWhile Char.isDigit).map fun c => c.toNat - 48, cs.dropWhile Char.isDigit)
  | cs => ([], cs)

def offset? (behind : Bool) (cs : List Char) : Option Zone := do
  let (hours, _, rest) ← number? 1 2 cs
  match rest with
  | [] => return .offset behind hours 0
  | _ =>
    let (minutes, _, last) ← number? 2 2 (← after? ':' rest)
    if last.isEmpty then return .offset behind hours minutes else none

def zone? (cs : List Char) : Option Zone :=
  match cs, cs.dropWhile isBlank with
  | [], _ => some .unstated
  | _, ['Z'] => some .universal
  | _, '-' :: rest => offset? true rest
  | _, '+' :: rest => offset? false rest
  | _, _ => none

/-- A time of day up to the end of a text. -/
def clock? (cs : List Char) : Option Clock := do
  let (hour, _, afterHour) ← number? 1 2 cs
  let (minute, _, afterMinute) ← number? 2 2 (← after? ':' afterHour)
  let (second, _, afterSecond) ← number? 2 2 (← after? ':' afterMinute)
  let (digits, rest) := fraction afterSecond
  return ⟨hour, minute, second, digits, ← zone? rest⟩

/-- A text that has the form of a time. -/
def read? (cs : List Char) : Option Written := do
  let (year, _, afterYear) ← number? 4 4 cs
  let (month, monthDigits, afterMonth) ← number? 1 2 (← after? '-' afterYear)
  let (day, dayDigits, rest) ← number? 1 2 (← after? '-' afterMonth)
  let isPadded := monthDigits.length == 2 && dayDigits.length == 2
  if rest.isEmpty then return ⟨year, month, day, isPadded, none⟩
  return ⟨year, month, day, isPadded, some (← clock? (← afterDate? rest))⟩

/-- Whether a plain text with the form of a time is one: a date alone must have all its digits. -/
def Written.isPlain (w : Written) : Bool := w.clock.isSome || w.isPadded

/-! ## Value -/

/-- The millionths of a second that a fraction is; further digits do not count. -/
def millionths (digits : List Nat) : Nat :=
  let kept := digits.take 6
  Text.ofDigits 10 (kept ++ List.replicate (6 - kept.length) 0)

def Zone.minutes : Zone → Except CalendarFault (Option Int)
  | .unstated => .ok none
  | .universal => .ok (some 0)
  | .offset behind hours minutes => do
    let ahead : Int := (60 * hours + minutes : Nat)
    let signed := if behind then -ahead else ahead
    Moment.checkOffset signed
    return some signed

/-- The date or the moment that is written. The zone is looked at first. -/
def Written.make (w : Written) : Except CalendarFault Value :=
  match w.clock with
  | none => (Date.make w.year w.month w.day).map .date
  | some clock => do
    let minutes ← clock.zone.minutes
    let date ← Date.make w.year w.month w.day
    let moment ←
      Moment.make date clock.hour clock.minute clock.second (millionths clock.fraction) minutes
    return .moment moment

def Written.toValue (w : Written) : Except Fault Value := w.make.mapError .calendar

end Vivarium.Document.Timestamp
