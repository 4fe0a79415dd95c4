import Vivarium.Fault
import Vivarium.Text.Digit
import Vivarium.Text.Lines

/-!
# Command lines

A command takes options and one group of plain words. Before any word is acted on each is classified
(`classify`): an option with what follows its equality sign, or a plain word. An option may be
written with the first letters of its name as long as no other name begins with them.
-/

namespace Vivarium.Options

/-! ## Commands -/

inductive Reading where
  /-- It shows the help text. -/
  | help
  /-- It stands alone. -/
  | switch
  /-- It takes a word. -/
  | word
  /-- It takes a whole number. -/
  | whole
  /-- It takes a fractional number. -/
  | fraction
deriving DecidableEq, Repr

/-- An option: its names with their dashes, the last of which is the name of its value. -/
structure Option_ where
  names : List String
  reading : Reading
deriving DecidableEq, Repr

namespace Option_

def title (o : Option_) : String := "/".intercalate o.names

def key (o : Option_) : String := o.names.getLast?.getD ""

def takesWord (o : Option_) : Bool := o.reading != .help && o.reading != .switch

end Option_

/-- A command: its name, how it is used, what its help says besides, and its options. -/
structure Command where
  name : String
  usage : String
  details : String
  options : List Option_

namespace Command

def names (c : Command) : List (String × Option_) :=
  c.options.flatMap fun o => o.names.map fun name => (name, o)

def option? (c : Command) (name : String) : Option Option_ := c.names.lookup name

def help (c : Command) : String := c.usage ++ "\n" ++ c.details

/-- What is shown when a command is used wrongly. -/
def complaint (c : Command) (message : String) : String :=
  c.usage ++ s!"{c.name}: error: {message}\n"

end Command

/-! ## Classifying words -/

/-- A word that looks like an option: the option it names, if any, the name it was written with, and
what follows its equality sign or its letter. -/
structure Mention where
  option : Option Option_
  name : String
  attached : Option String
deriving Repr

inductive Word where
  | plain (text : String)
  /-- Two dashes, after which all words are plain. -/
  | dashes
  | mention (text : String) (m : Mention)
deriving Repr

def Word.text : Word → String
  | plain text => text
  | dashes => "--"
  | mention text _ => text

/-- A text before its first equality sign and the text after it, if there is one. -/
def splitAtEquals : List Char → List Char × Option (List Char)
  | [] => ([], none)
  | '=' :: cs => ([], some cs)
  | c :: cs => (c :: (splitAtEquals cs).1, (splitAtEquals cs).2)

/-- Whether a text is a negative number: a minus and digits, or digits around a point. A line break
at the end does not count. -/
def isNegativeNumber : List Char → Bool
  | '-' :: cs =>
    let isDigit (c : Char) : Bool := (Text.digitValue? c).isSome
    let body := Text.dropBreak cs
    match body.dropWhile isDigit with
    | [] => !body.isEmpty
    | '.' :: fraction => !fraction.isEmpty && fraction.all isDigit
    | _ => false
  | _ => false

/-- The options that a word with dashes may name by its first letters, in the order of their
definition. -/
def candidates (c : Command) (word : String) : List Mention :=
  match word.toList with
  | '-' :: '-' :: _ =>
    let (letters, attached) := splitAtEquals word.toList
    let start := String.ofList letters
    (c.names.filter fun entry => start.isPrefixOf entry.1).map fun (name, o) =>
      ⟨some o, name, attached.map String.ofList⟩
  | '-' :: letter :: more =>
    c.names.filterMap fun (name, o) =>
      if name = String.ofList ['-', letter] then some ⟨some o, name, some (String.ofList more)⟩
      else if word.isPrefixOf name then some ⟨some o, name, none⟩
      else none
  | _ => []

/-- The message of a word that names several options. -/
def ambiguity (word : String) (found : List Mention) : String :=
  let names := ", ".intercalate (found.map Mention.name)
  s!"ambiguous option: {word} could match {names}"

/-- The option that a word names in full, with or without something attached. -/
def exactMention? (c : Command) (word : String) : Option Mention :=
  match c.option? word with
  | some o => some ⟨some o, word, none⟩
  | none =>
    match splitAtEquals word.toList with
    | (name, some attached) =>
      (c.option? (String.ofList name)).map fun o =>
        ⟨some o, String.ofList name, some (String.ofList attached)⟩
    | (_, none) => none

/-- What a word is; the message of one that names several options. -/
def classifyWord (c : Command) (word : String) : Except String Word :=
  let cs := word.toList
  if cs.head? ≠ some '-' then .ok (.plain word)
  else
    match exactMention? c word with
    | some m => .ok (.mention word m)
    | none =>
      if cs.length = 1 then .ok (.plain word)
      else
        match candidates c word with
        | [m] => .ok (.mention word m)
        | [] =>
          if isNegativeNumber cs || cs.contains ' ' then .ok (.plain word)
          else .ok (.mention word ⟨none, word, none⟩)
        | found => .error (ambiguity word found)

def classify (c : Command) : List String → Except String (List Word)
  | [] => .ok []
  | "--" :: rest => .ok (.dashes :: rest.map .plain)
  | word :: rest => do
    let first ← classifyWord c word
    return first :: (← classify c rest)

end Vivarium.Options
