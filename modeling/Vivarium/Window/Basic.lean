import Vivarium.Board.Basic
import Vivarium.Window.Palette

/-!
# Windows

A window shows a board square by square. What it does is recorded as the calls it makes to what
draws it; a window of its own also hears events and may be closed by one.
-/

namespace Vivarium

namespace Window

/-! ## Calls and events -/

/-- A rectangle by its upper left corner and its size. -/
structure Rect where
  x : Int
  y : Int
  width : Int
  height : Int
deriving DecidableEq, Repr

/-- The centre of a rectangle, cut down to thirty-two bits. -/
def Rect.center (r : Rect) : Int × Int :=
  ((r.x + r.width.fdiv 2).bmod (Nat.pow 2 32), (r.y + r.height.fdiv 2).bmod (Nat.pow 2 32))

inductive Call where
  | fontInit
  | font (size : Int)
  | displayInit
  | caption (text : String)
  | setMode (width height : Value)
  | flip
  | displayQuit
  /-- Fills a rectangle, or everything. -/
  | fill (color : Color) (area : Option Rect)
  /-- Draws the border of a rectangle. -/
  | rect (color : Color) (area : Rect) (width : Nat)
  | blit (glyph : String) (color : Color) (center : Int × Int)
  | line (color : Color) (start finish : Int × Int) (width : Nat)
  | wait (milliseconds : Int)

inductive Event where
  | quit
  | key
deriving DecidableEq, Repr

end Window

/-- A window: the size of its squares, whether it is one of its own, whether it was closed, the
calls made so far, and the batches of events that it will hear. -/
structure Window where
  cell : Number
  owned : Bool
  closed : Bool
  calls : Array Window.Call
  events : List (List Window.Event)

namespace Window

def call (w : Window) (c : Call) : Window := { w with calls := w.calls.push c }

/-! ## Squares -/

/-- The side of a rectangle that a number gives: whole numbers are cut down to thirty-two bits, and
a number with a fraction that has no such whole part gives the least one. Whole numbers past
sixty-four bits give none. -/
def side? : Number → Option Int
  | .whole n =>
    if -Value.countLimit ≤ n ∧ n < Value.countLimit then some (n.bmod (Nat.pow 2 32)) else none
  | .double x =>
    match Decimal.truncate? x with
    | some n => some (if n.bmod (Nat.pow 2 32) = n then n else -(Nat.pow 2 31))
    | none => some (-(Nat.pow 2 31))

def rectangle? (x y width height : Number) : Option Rect := do
  return ⟨← side? x, ← side? y, ← side? width, ← side? height⟩

def area (w : Window) (p : Position) : Except Fault Rect := do
  let x ← Number.mul (.whole p.x) w.cell
  let y ← Number.mul (.whole p.y) w.cell
  (rectangle? x y w.cell w.cell).elim (.error .badRectangle) .ok

def blankArea (w : Window) (area : Rect) : Window :=
  (w.call (.fill background (some area))).call (.rect lines area 1)

def blank (w : Window) (p : Position) : Except Fault Window := (w.area p).map w.blankArea

/-- A number times a factor, without its fraction. -/
def scale (n : Number) (factor : Float) : Except Fault Int := do
  (← Number.mul n (.double factor)).truncate

/-- Where the mark of a direction begins, as a part of a square from its centre. -/
def tickStart : Float := Decimal.nearest false ⟨30, 100⟩

/-- Where the mark of a direction ends. -/
def tickEnd : Float := Decimal.nearest false ⟨48, 100⟩

/-- The point in a direction from the centre of a square. -/
def tick (w : Window) (center : Int × Int) (d : Direction) (part : Float) :
    Except Fault (Int × Int) := do
  let x ← scale (← Number.mul (.whole d.dx) w.cell) part
  let y ← scale (← Number.mul (.whole d.dy) w.cell) part
  return (center.1 + x, center.2 + y)

def glyph (w : Window) (area : Rect) (glyph color : String) : Window :=
  (w.blankArea area).call (.blit glyph (colorOf color) area.center)

def mark (w : Window) (area : Rect) (d : Direction) (color : String) : Except Fault Window := do
  let start ← w.tick area.center d tickStart
  let finish ← w.tick area.center d tickEnd
  return w.call (.line (colorOf color) start finish 3)

/-- Shows a creature on a square. The direction is looked at last. -/
def square (w : Window) (p : Position) (glyph : String) (direction : Value) (color : String) :
    Except Fault Unit × Window :=
  match w.area p with
  | .error fault => (.error fault, w)
  | .ok area =>
    let drawn := w.glyph area glyph color
    match direction.toDirection.bind fun d => drawn.mark area d color with
    | .error fault => (.error fault, drawn)
    | .ok marked => (.ok (), marked)

/-- The window after a drawing of a board. What cannot be drawn is left out. -/
def paint (w : Window) : Drawing → Window
  | .square p glyph d color => (w.square p (String.singleton glyph) (.int d.index) color).2
  | .blank p => (w.blank p).toOption.getD w

/-! ## Opening -/

/-- The positions of a size, row by row. -/
def positions (width height : Nat) : List Position :=
  (List.range height).flatMap fun (y : Nat) => (List.range width).map fun (x : Nat) => ⟨x, y⟩

/-- The squares of a size of any kind: both must be whole, the width only if there is a row. -/
def squares (width height : Value) : Except Fault (List Position) := do
  let rows ← height.toCount
  if rows ≤ 0 then return []
  let columns ← width.toCount
  return positions columns.toNat rows.toNat

/-- The result of what may fail, and the calls that were made before it did. -/
abbrev Called (α : Type) := Except Fault α × Array Call

def openOwn (width height cell : Value) (made : Array Call) : Called Unit :=
  let named := made ++ #[.displayInit, .caption "Darwin"]
  match width.mul cell, height.mul cell with
  | .error fault, _ => (.error fault, named)
  | _, .error fault => (.error fault, named)
  | .ok wide, .ok high => (.ok (), named.push (.setMode wide high))

def letterPart : Float := Decimal.nearest false ⟨8, 10⟩

/-- The size of squares, which must be a number. -/
def cellNumber (cell : Value) : Except Fault Number :=
  match cell.number?, cell.mul (.float letterPart) with
  | some n, _ => .ok n
  | none, .error fault => .error fault
  | none, .ok _ => .error (.noProduct cell.kind (Value.float letterPart).kind)

def sizes (cell : Value) : Except Fault (Number × Int) := do
  let n ← cellNumber cell
  return (n, ← scale n letterPart)

/-- Empties squares in order, up to the first that cannot be drawn. -/
def blankAll : List Position → Window → Except Fault Unit × Window
  | [], w => (.ok (), w)
  | p :: rest, w =>
    match w.blank p with
    | .error fault => (.error fault, w)
    | .ok after => blankAll rest after

/-- Makes the squares of a window whose surface is there. -/
def furnish (width height cell : Value) (owned : Bool) (events : List (List Event))
    (made : Array Call) : Called Window :=
  match sizes cell with
  | .error fault => (.error fault, made)
  | .ok (side, letter) =>
    let bare : Window :=
      ⟨side, owned, false, made ++ #[.font letter, .fill background none], events⟩
    match squares width height with
    | .error fault => (.error fault, bare.calls)
    | .ok ps =>
      let (result, after) := blankAll ps bare
      (result.map fun _ => after, after.calls)

def create (width height cell : Value) (owned : Bool) (events : List (List Event)) :
    Called Window :=
  let begun : Array Call := #[.fontInit]
  let (opened, made) := if owned then openOwn width height cell begun else (.ok (), begun)
  match opened with
  | .error fault => (.error fault, made)
  | .ok _ => furnish width height cell owned events made

/-! ## Waiting and closing -/

def present (w : Window) : Window := if w.owned then w.call .flip else w

/-- Hears the next batch of events. -/
def listen (w : Window) : Window :=
  if w.owned then
    { w with closed := w.closed || (w.events.headD []).contains .quit, events := w.events.tail }
  else w

def milliseconds (seconds : Value) : Except Fault Int := do
  match (← seconds.mul (.int 1000)).number? with
  | some n => n.truncate
  | none => .error .infinite

/-- Shows what was drawn, hears events and waits. -/
def pause (w : Window) (seconds : Value) : Except Fault Unit × Window :=
  let heard := w.present.listen
  match seconds.gt (.int 0) with
  | .error fault => (.error fault, heard)
  | .ok false => (.ok (), heard)
  | .ok true =>
    match milliseconds seconds with
    | .error fault => (.error fault, heard)
    | .ok n => (.ok (), heard.call (.wait n))

def close (w : Window) : Window := if w.owned then w.call .displayQuit else w

end Window

end Vivarium
