import Vivarium.Geometry
import Vivarium.Value.Basic

/-!
# Faults

Everything that can go wrong, as causes. A fault's text is a function of its cause
(`Fault.message`); which causes are expected of a user's input and are reported rather than let
through is `Fault.isExpected`.
-/

namespace Vivarium

/-! ## Faults of programs -/

inductive ProgramFault.Cause where
  /-- There is no instruction. -/
  | noInstruction
  /-- A species text has fewer than two lines. -/
  | missingHeader
  /-- The name line of a species text is blank. -/
  | blankName
  /-- The colour line of a species text is blank. -/
  | blankColor
  /-- A species is made without a name. -/
  | emptyName
  /-- The first word of a line is no mnemonic. -/
  | unknownMnemonic (word : String)
  /-- A jump stands without its address. -/
  | missingAddress (mnemonic : String)
  /-- The address of a jump is not a number. -/
  | badAddress (mnemonic word : String)
  /-- Further words stand after an instruction. -/
  | extraWords (mnemonic : String) (words : List String)
  /-- A jump is made with a target that is no whole number. -/
  | targetNotWhole (mnemonic : String)
  /-- A jump is made with a target below one. -/
  | targetNotPositive (mnemonic : String) (target : Int)
  /-- An action is made with a target. -/
  | targetOfAction (mnemonic : String) (target : Value)

/-- The kinds of program faults that are told apart. -/
inductive ProgramFault.Kind where
  | unknownMnemonic
  | missingJumpTarget
  | other
deriving DecidableEq, Repr

/-- What is wrong with a program and where: the name of its text and the line, when known. -/
structure ProgramFault where
  cause : ProgramFault.Cause
  source : Option String
  line : Option Nat

namespace ProgramFault

/-- The kind of a cause. A jump without a target and one with a target that is no positive whole
number are of one kind. -/
def Cause.kind : Cause → Kind
  | unknownMnemonic _ => .unknownMnemonic
  | missingAddress _ | badAddress .. | targetNotWhole _ | targetNotPositive .. => .missingJumpTarget
  | _ => .other

def Cause.message : Cause → String
  | noInstruction => "program must contain at least one instruction"
  | missingHeader => "expected a name line and a color line"
  | blankName => "species name is empty"
  | blankColor => "species color is empty"
  | emptyName => "species name must not be empty"
  | unknownMnemonic word => "unknown instruction " ++ Text.quoted word
  | missingAddress mnemonic => mnemonic ++ " is missing its address"
  | badAddress mnemonic word => mnemonic ++ " address " ++ Text.quoted word ++ " is not an integer"
  | extraWords mnemonic words =>
    "unexpected operand(s) after " ++ mnemonic ++ ": " ++ " ".intercalate words
  | targetNotWhole mnemonic => mnemonic ++ " requires an integer jump target"
  | targetNotPositive mnemonic target => s!"{mnemonic} target must be positive, got {target}"
  | targetOfAction mnemonic target => mnemonic ++ " takes no operand, got " ++ target.plain

def message (fault : ProgramFault) : String :=
  match fault.source, fault.line with
  | some source, some line => s!"{source}:{line}: {fault.cause.message}"
  | some source, none => s!"{source}: {fault.cause.message}"
  | none, _ => fault.cause.message

end ProgramFault

/-! ## Faults of settings -/

/-- Why settings cannot be built from a value, before any of their values is looked at. -/
inductive SettingsFault where
  /-- A key that is not a text. -/
  | keyNotText
  /-- A key that the section does not have. -/
  | unknownKey (section_ key : String)
  /-- A section that must be a map and is not. -/
  | sectionNotMap (section_ kind : String)
  /-- A value that has no items. -/
  | notIterable (kind : String)
  /-- An item of a list of pairs that is no pair. -/
  | notSequence (index : Nat)
  /-- A list or a map where a key must stand. -/
  | badKey (kind : String)
  /-- A key that stands for the settings themselves and so is taken already. -/
  | takenKey (section_ key : String)

def SettingsFault.message : SettingsFault → String
  | keyNotText => "keywords must be strings"
  | unknownKey section_ key => s!"{section_}.__init__() got an unexpected keyword argument '{key}'"
  | sectionNotMap section_ kind =>
    s!"darwin.config.{section_}() argument after ** must be a mapping, not {kind}"
  | notIterable kind => s!"'{kind}' object is not iterable"
  | notSequence index =>
    s!"cannot convert dictionary update sequence element #{index} to a sequence"
  | badKey kind => s!"unhashable type: '{kind}'"
  | takenKey section_ key => s!"{section_}.__init__() got multiple values for argument '{key}'"

/-! ## All faults -/

/-- A cause of failure. -/
inductive Fault where
  /-- A value that names no direction. -/
  | badDirection (value : Value)
  /-- A value that names no instruction. -/
  | badOpcode (value : Value)
  /-- A grid without squares. -/
  | emptyGrid (width height : Value)
  /-- A grid with more columns than can be counted. -/
  | uncountable
  /-- A grid with more squares than there is room for. -/
  | noRoom
  /-- A position that is not on the grid. -/
  | outOfBounds (position : Option Position) (width height : Value)
  /-- A creature placed without a species or a position. -/
  | incompletePlacement
  /-- A creature placed outside the grid. -/
  | placedOutside (position : Position)
  /-- A creature placed where another one is. -/
  | placedOnOccupied (position : Position)
  /-- More creatures than free squares. -/
  | crowded (wanted : Value) (free : Int)
  /-- A turn's limit that is not positive. -/
  | badTurnLimit (limit : Value)
  /-- A turn that reached its limit without an action. -/
  | turnLimit (creature : Int) (species : String) (limit : String)
  /-- A turn without limit that never reaches an action. -/
  | endlessTurn
  /-- A random choice without a coin. -/
  | noCoin (creature : Int) (species : String)
  /-- An address that is not in the program. -/
  | badAddress (address : Int) (size : Nat)
  /-- An item that is not in its list. -/
  | noSuchItem
  /-- A draw from no numbers. -/
  | emptyRange
  /-- A draw that never comes below its bound. -/
  | endlessDraw
  /-- A text that is no whole number in a base. -/
  | badInt (base : Nat) (text : String)
  /-- A text that is no fractional number. -/
  | badFloat (text : String)
  /-- A number without a character. -/
  | emptyNumber
  /-- A whole number with too many digits to be read. -/
  | longInt (digits : Nat)
  /-- A whole number with too many digits to be written. -/
  | unwritable
  /-- A date or a time that is not in the calendar. -/
  | calendar (fault : CalendarFault)
  /-- A text that is no time. -/
  | notTime
  /-- A list or the like where a time must be written. -/
  | timeNotText (kind : String)
  /-- A text that is no truth value. -/
  | notTruth (word : String)
  /-- A code point past the last one. -/
  | noCharacter
  /-- A code point that is too large for a code point. -/
  | largeCodePoint
  /-- A document or a value that is nested too deeply; the detail tells where it was left. -/
  | tooDeep (detail : String)
  /-- A seed of a kind that gives no number. -/
  | noSeed
  /-- A pause of so many seconds that no clock counts them. -/
  | longPause (seconds : Value)
  /-- A faulty program or species text. -/
  | program (fault : ProgramFault)
  /-- Settings that are not a map. -/
  | settingsNotMap (kind : String)
  /-- Settings that cannot be built. -/
  | badSettings (fault : SettingsFault)
  /-- An entry of a list of pairs that has not two items. -/
  | notPair (index length : Nat)
  /-- A world without squares in the settings. -/
  | smallWorld (width height : Value)
  /-- A number of rounds that is not positive. -/
  | badRounds (rounds : Value)
  /-- A negative pause. -/
  | badPause (pause : Value)
  /-- A turn's limit in the settings that is not positive. -/
  | badLimitSetting (limit : Value)
  /-- A negative number of creatures. -/
  | badCount (count : Value)
  /-- More creatures than squares. -/
  | overfull (wanted width height : Value)
  /-- A comparison of two kinds without an order. -/
  | unordered (relation left right : String)
  /-- A value that cannot count. -/
  | notCount (kind : String)
  /-- A row that cannot be repeated so many times. -/
  | notRepeatable (kind : String)
  /-- A product of two kinds that have none. -/
  | noProduct (left right : String)
  /-- A whole number past the largest double. -/
  | tooLargeForDouble
  /-- An infinity where a whole number must be. -/
  | infinite
  /-- A double that is no number where a whole number must be. -/
  | notANumber
  /-- A rectangle that cannot be drawn. -/
  | badRectangle
  /-- A file that is not there. -/
  | fileNotFound (path : String)
  /-- A directory where a file must be. -/
  | isDirectory (path : String)
  /-- A path through a file. -/
  | notDirectory (path : String)
  /-- A path, or a name on it, that is too long. -/
  | longName (path : String)
  /-- A path with the character zero in it. -/
  | zeroInPath
  /-- A species that is neither a file nor bundled. -/
  | speciesNotFound (path : String)
  /-- A file that is not text. -/
  | notText
  /-- A document that cannot be read. -/
  | badDocument
  /-- A value without the named member. -/
  | noMember (kind name : String)
  /-- A client that is gone. -/
  | disconnected
  /-- A double without a text in JSON. -/
  | notFinite
  /-- A value of a kind that JSON has no form for. -/
  | notJson (kind : String)
  /-- A key of a kind that JSON has no form for. -/
  | badJsonKey (kind : String)
  /-- A value that holds itself, where it would be written in full. -/
  | circular

namespace Fault

/-- A program fault without a place. -/
def ofCause (cause : ProgramFault.Cause) : Fault :=
  .program ⟨cause, none, none⟩

def message : Fault → String
  | badDirection value => value.shown ++ " is not a valid Direction"
  | badOpcode value => value.shown ++ " is not a valid Opcode"
  | emptyGrid width height =>
    s!"World dimensions must be positive, got {width.plain}x{height.plain}"
  | uncountable => "cannot fit 'int' into an index-sized integer"
  | noRoom => ""
  | outOfBounds position width height =>
    let shown := (position.map Position.text).getD "None"
    s!"Position out of bounds: {shown} not in {width.plain}x{height.plain}"
  | incompletePlacement => "species, world and position are required"
  | placedOutside position => "Position out of bounds: " ++ position.text
  | placedOnOccupied position => "Position already occupied: " ++ position.text
  | crowded wanted free =>
    s!"cannot place {wanted.plain} creatures with only {free} free cells"
  | badTurnLimit limit => "max_steps_per_turn must be positive, got " ++ limit.plain
  | turnLimit creature species limit =>
    s!"creature {creature} ({species}) ran {limit} instructions without reaching an action"
  | endlessTurn => "the turn has no end"
  | noCoin creature species =>
    s!"creature {creature} ({species}) reached ifrandom without a coin source"
  | badAddress address size => s!"address {address} outside 1..{size}"
  | noSuchItem => "list index out of range"
  | emptyRange => "empty range for randrange()"
  | endlessDraw => "the draw has no end"
  | badInt base text =>
    let shown := String.ofList ((Text.quoted text).toList.take 200)
    s!"invalid literal for int() with base {base}: {shown}"
  | badFloat text => "could not convert string to float: " ++ Text.quoted text
  | emptyNumber => "string index out of range"
  | longInt digits =>
    "Exceeds the limit (4300 digits) for integer string conversion: " ++
      s!"value has {digits} digits; " ++
      "use sys.set_int_max_str_digits() to increase the limit"
  | unwritable =>
    "Exceeds the limit (4300 digits) for integer string conversion; " ++
      "use sys.set_int_max_str_digits() to increase the limit"
  | calendar fault => fault.message
  | notTime => "'NoneType' object has no attribute 'groupdict'"
  | timeNotText kind => s!"expected string or bytes-like object, got '{kind}'"
  | notTruth word => Text.quoted word
  | noCharacter => "chr() arg not in range(0x110000)"
  | largeCodePoint => "Python int too large to convert to C int"
  | tooDeep detail => "maximum recursion depth exceeded" ++ detail
  | noSeed =>
    "The only supported seed types are: None,\nint, float, str, bytes, and bytearray."
  | longPause (.float _) => "timestamp out of range for platform time_t"
  | longPause _ => "timestamp too large to convert to C _PyTime_t"
  | program fault => fault.message
  | settingsNotMap kind => "configuration must be a mapping, got " ++ kind
  | badSettings fault => "invalid configuration: " ++ fault.message
  | notPair index length =>
    s!"dictionary update sequence element #{index} has length {length}; 2 is required"
  | smallWorld width height => s!"world must be at least 1x1, got {width.plain}x{height.plain}"
  | badRounds rounds => "rounds must be positive, got " ++ rounds.plain
  | badPause pause => "pause_seconds must not be negative, got " ++ pause.plain
  | badLimitSetting limit => "max_steps_per_turn must be positive, got " ++ limit.plain
  | badCount count => "creatures_per_species must not be negative, got " ++ count.plain
  | overfull wanted width height =>
    s!"{wanted.plain} creatures do not fit on a {width.plain}x{height.plain} world"
  | unordered relation left right =>
    s!"'{relation}' not supported between instances of '{left}' and '{right}'"
  | notCount kind => s!"'{kind}' object cannot be interpreted as an integer"
  | notRepeatable kind => s!"can't multiply sequence by non-int of type '{kind}'"
  | noProduct left right => s!"unsupported operand type(s) for *: '{left}' and '{right}'"
  | tooLargeForDouble => "int too large to convert to float"
  | infinite => "cannot convert float infinity to integer"
  | notANumber => "cannot convert float NaN to integer"
  | badRectangle => "Argument must be rect style object"
  | fileNotFound path => "[Errno 2] No such file or directory: " ++ Text.quoted path
  | isDirectory path => "[Errno 21] Is a directory: " ++ Text.quoted path
  | notDirectory path => "[Errno 20] Not a directory: " ++ Text.quoted path
  | longName path => "[Errno 36] File name too long: " ++ Text.quoted path
  | zeroInPath => "embedded null byte"
  | speciesNotFound path => "species file not found: " ++ path
  | notText => ""
  | badDocument => ""
  | noMember kind name => s!"'{kind}' object has no attribute '{name}'"
  | disconnected => ""
  | notFinite => "Out of range float values are not JSON compliant"
  | notJson kind => s!"Object of type {kind} is not JSON serializable"
  | badJsonKey kind => s!"keys must be str, int, float, bool or None, not {kind}"
  | circular => "Circular reference detected"

/-- Whether a fault is one that a run reports and survives: a fault of this library's own rules, or
a file that is not there. -/
def isExpected : Fault → Bool
  | outOfBounds .. => true
  | incompletePlacement => true
  | placedOutside _ => true
  | placedOnOccupied _ => true
  | crowded .. => true
  | turnLimit .. => true
  | noCoin .. => true
  | program _ => true
  | settingsNotMap _ => true
  | badSettings _ => true
  | smallWorld .. => true
  | badRounds _ => true
  | badPause _ => true
  | badLimitSetting _ => true
  | badCount _ => true
  | overfull .. => true
  | fileNotFound _ => true
  | speciesNotFound _ => true
  | _ => false

/-- A computation in two parts that does not fail fails in neither. -/
theorem exists_of_bind_eq_ok {α β : Type} {first : Except Fault α} {next : α → Except Fault β}
    {result : β} (done : first >>= next = .ok result) :
    ∃ a, first = .ok a ∧ next a = .ok result := by
  cases first with
  | error fault => cases done
  | ok a => exact ⟨a, rfl, done⟩

/-- What is known of the result of a computation is known of it only if there is one. -/
theorem exists_of_toOption_map {α β : Type} {result : Except Fault α} {f : α → β} {b : β}
    (found : result.toOption.map f = some b) : ∃ a, result = .ok a ∧ f a = b := by
  cases result with
  | error fault => cases found
  | ok a => exact ⟨a, rfl, Option.some.inj found⟩

/-- A computation in two parts that fails does so in one of them. -/
theorem cases_of_bind_eq_error {α β : Type} {first : Except Fault α} {next : α → Except Fault β}
    {fault : Fault} (failed : first >>= next = .error fault) :
    first = .error fault ∨ ∃ a, first = .ok a ∧ next a = .error fault := by
  cases first with
  | error fault' =>
    cases failed
    exact .inl rfl
  | ok a => exact .inr ⟨a, rfl, failed⟩

end Fault

end Vivarium
