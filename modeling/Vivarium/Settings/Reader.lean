import Vivarium.Settings.Basic

/-!
# Settings from a value

Settings are read from a map with the two sections `world` and `population`. A key that is missing
leaves its default; a key that is not known is refused. The section `population` may also be given
as a list of pairs.
-/

namespace Vivarium.Settings

/-! ## Keys -/

def worldKeys : List String := ["width", "height"]

def populationKeys : List String := ["creatures_per_species"]

/-- The keys outside the sections. -/
def plainKeys : List String :=
  ["seed", "rounds", "pause_seconds", "max_steps_per_turn", "config_version"]

def isOneOf (names : List String) : Value → Bool
  | .text key => key ∈ names
  | _ => false

/-- The key that stands for the section itself. -/
def takenKey : String := "self"

/-- What is wrong with a key of a section, if it is a text that cannot be one. -/
def keyFault? (section_ : String) (known : List String) : Value → Option SettingsFault
  | .text key =>
    if key = takenKey then some (.takenKey section_ key)
    else if key ∈ known then none
    else some (.unknownKey section_ key)
  | _ => none

/-- Every key must be a text, and then a known one. -/
def checkKeys (section_ : String) (known : List String) (entries : List (Value × Value)) :
    Except Fault Unit :=
  if entries.any fun entry => !(entry.1 matches .text _) then .error (.badSettings .keyNotText)
  else
    match entries.findSome? fun entry => keyFault? section_ known entry.1 with
    | some fault => .error (.badSettings fault)
    | none => .ok ()

/-! ## Items and pairs -/

/-- The items of a value: of a list, a pair or a set, the characters of a text, the numbers of
bytes, the keys of a map. -/
def itemsOf (v : Value) : Except Fault (List Value) :=
  match v.opened with
  | .list items => .ok items
  | .pair first second => .ok [first, second]
  | .set members => .ok members
  | .text s => .ok (s.toList.map fun c => .text (String.singleton c))
  | .bytes content => .ok (content.map fun byte => .int byte.toNat)
  | .map entries => .ok (entries.map (·.1))
  | _ => .error (.badSettings (.notIterable v.kind))

def pairOf (index : Nat) (item : Value) : Except Fault (Value × Value) :=
  match itemsOf item with
  | .error _ => .error (.badSettings (.notSequence index))
  | .ok [key, value] =>
    match key.notKey? with
    | none => .ok (key, value)
    | some kind => .error (.badSettings (.badKey kind))
  | .ok items => .error (.notPair index items.length)

def entriesOfPairs (index : Nat) (before : List (Value × Value)) :
    List Value → Except Fault (List (Value × Value))
  | [] => .ok before
  | item :: rest => do
    let (key, value) ← pairOf index item
    entriesOfPairs (index + 1) (Value.insertEntry key value before) rest

def entriesOf (v : Value) : Except Fault (List (Value × Value)) :=
  match v.opened with
  | .map entries => .ok entries
  | _ => do entriesOfPairs 0 [] (← itemsOf v)

/-! ## Reading -/

/-- The section of a key; an empty one when the key is missing. -/
def section? (key : String) (entries : List (Value × Value)) : Value :=
  (Value.lookup key entries).getD (.map [])

/-- The entries of the section `world`, which must be a map. -/
def worldEntries (v : Value) : Except Fault (List (Value × Value)) :=
  match v.opened with
  | .map entries => do
    checkKeys "WorldConfig" worldKeys entries
    return entries
  | _ => .error (.badSettings (.sectionNotMap "WorldConfig" v.kind))

def populationEntries (v : Value) : Except Fault (List String × List (Value × Value)) := do
  let entries ← entriesOf v
  let items ← itemsOf ((Value.lookup "species_files" entries).getD (.list []))
  let files ← items.mapM Value.written
  let rest := entries.filter fun entry => !isOneOf ["species_files"] entry.1
  checkKeys "PopulationConfig" populationKeys rest
  return (files, rest)

/-- The settings that entries give, before validation. -/
def ofEntries (entries : List (Value × Value)) : Except Fault Settings := do
  let world ← worldEntries (section? "world" entries)
  let (files, population) ← populationEntries (section? "population" entries)
  let plain := entries.filter fun entry => !isOneOf ["world", "population"] entry.1
  checkKeys "SimulationConfig" plainKeys plain
  let value (source : List (Value × Value)) (key : String) (usual : Value) : Value :=
    (Value.lookup key source).getD usual
  return {
    seed := value plain "seed" default.seed
    rounds := value plain "rounds" default.rounds
    pause := value plain "pause_seconds" default.pause
    turnLimit := value plain "max_steps_per_turn" default.turnLimit
    version := value plain "config_version" default.version
    width := value world "width" default.width
    height := value world "height" default.height
    count := value population "creatures_per_species" default.count
    speciesFiles := files }

/-- The settings that a value gives; they are valid. -/
def ofValue (v : Value) : Except Fault Settings :=
  match v.opened with
  | .map entries => do
    let settings ← ofEntries entries
    settings.validate
    return settings
  | _ => .error (.settingsNotMap v.shortKind)

end Vivarium.Settings
