import Vivarium.Options.Basic
import Vivarium.Table
import Vivarium.Text.Numeral

/-!
# Reading a command line

The classified words are read in order. The first group of plain words belongs to the command, the
words of a later group to nothing; an option takes the word after it. What belongs to nothing is
complained about at the end, unless the reading stopped before.
-/

namespace Vivarium.Options

/-- What a command line gives: the values of the options by name, and the plain words. -/
structure Arguments where
  values : Table String Value
  words : List String

/-- How reading a command line ends. -/
inductive Outcome where
  /-- The arguments are complete. -/
  | given (arguments : Arguments)
  /-- The help text was asked for. -/
  | helpAsked
  /-- The command was used wrongly. -/
  | misused (message : String)

structure Progress where
  arguments : Arguments
  /-- Whether the command's own group of words has been read. -/
  grouped : Bool
  /-- The words that belong to nothing. -/
  extra : List String

def Progress.start : Progress := ⟨⟨Table.empty, []⟩, false, []⟩

/-! ## Values -/

def about (o : Option_) (message : String) : Outcome :=
  .misused s!"argument {o.title}: {message}"

/-- The complaint about something attached to an option that stands alone. -/
def ignored (o : Option_) (attached : String) : Outcome :=
  about o ("ignored explicit argument " ++ Text.quoted attached)

def valueOf (o : Option_) (word : String) : Except Outcome Value :=
  match o.reading with
  | .whole =>
    match Text.readInt word.toList with
    | .ok n => .ok (.int n)
    | .error _ => .error (about o ("invalid int value: " ++ Text.quoted word))
  | .fraction =>
    match Text.readFloat? word.toList with
    | some x => .ok (.float x)
    | none => .error (about o ("invalid float value: " ++ Text.quoted word))
  | _ => .ok (.text word)

def Progress.set (p : Progress) (o : Option_) (value : Value) : Progress :=
  { p with arguments := { p.arguments with values := p.arguments.values.insert o.key value } }

def Progress.setWord (p : Progress) (o : Option_) (word : String) : Except Outcome Progress :=
  (valueOf o word).map (p.set o)

/-- Notes options that stand alone; one that asks for help ends the reading. -/
def Progress.setAlone (p : Progress) : List Option_ → Except Outcome Progress
  | [] => .ok p
  | o :: rest =>
    if o.reading = .help then .error .helpAsked else (p.set o (.bool true)).setAlone rest

/-! ## Options -/

/-- Reads what is attached to an option. To an option of one letter that stands alone further such
letters may be attached, of which `before` have been read. The second result tells whether the last
of the letters takes the next word. -/
def readAttached (c : Command) (before : List Option_) (o : Option_) (name : String) :
    List Char → Nat → Except Outcome (List Option_ × Option (Option_ × Option String))
  | _, 0 => .error (ignored o "")
  | attached, fuel + 1 =>
    if o.takesWord then .ok (before, some (o, some (String.ofList attached)))
    else if "--".isPrefixOf name then .error (ignored o (String.ofList attached))
    else
      match attached with
      | [] => .error (ignored o "")
      | letter :: more =>
        let next := String.ofList ['-', letter]
        match c.option? next with
        | none => .error (ignored o (String.ofList attached))
        | some following =>
          match more with
          | [] =>
            if following.takesWord then .ok (before ++ [o], some (following, none))
            else .ok (before ++ [o, following], none)
          | _ => readAttached c (before ++ [o]) following next more fuel

/-- Gives an option the word attached to it. Two dashes are no word: the option is left with an
empty list of words. -/
def Progress.setAttached (p : Progress) (o : Option_) (word : String) : Except Outcome Progress :=
  if word = "--" then .ok (p.set o (.list [])) else p.setWord o word

/-- Gives an option the next word, which must be a plain one. -/
def Progress.setNext (p : Progress) (o : Option_) :
    List Word → Except Outcome (Progress × List Word)
  | .plain word :: rest => do return (← p.setWord o word, rest)
  | _ => .error (about o "expected one argument")

/-- Reads an option, given the words after it; the words that are left are given back. -/
def Progress.readMention (p : Progress) (c : Command) (text : String) (m : Mention)
    (rest : List Word) : Except Outcome (Progress × List Word) :=
  match m.option, m.attached with
  | none, _ => .ok ({ p with extra := p.extra ++ [text] }, rest)
  | some o, none =>
    if o.takesWord then p.setNext o rest
    else do return (← p.setAlone [o], rest)
  | some o, some attached => do
    let (alone, last) ← readAttached c [] o m.name attached.toList (attached.length + 1)
    match last with
    | none => return (← p.setAlone alone, rest)
    | some (o, some word) => return (← (← p.setAlone alone).setAttached o word, rest)
    | some (o, none) =>
      match rest with
      | .plain _ :: _ => (← p.setAlone alone).setNext o rest
      | _ => .error (about o "expected one argument")

/-! ## Groups of words -/

def splitGroup : List Word → List Word × List Word
  | [] => ([], [])
  | .mention text m :: rest => ([], .mention text m :: rest)
  | word :: rest => (word :: (splitGroup rest).1, (splitGroup rest).2)

/-- The texts of a group without the first pair of dashes. -/
def groupTexts (group : List Word) : List String :=
  (group.map Word.text).erase "--"

def Progress.readGroup (p : Progress) (group : List Word) : Progress :=
  if group.isEmpty then p
  else if p.grouped then { p with extra := p.extra ++ group.map Word.text }
  else
    { p with
      arguments := { p.arguments with words := groupTexts group }
      grouped := true }

def Progress.readWords (c : Command) : Nat → List Word → Progress → Outcome
  | 0, _, p => .given p.arguments
  | fuel + 1, words, p =>
    let (group, rest) := splitGroup words
    let p := p.readGroup group
    match rest with
    | .mention text m :: rest =>
      match p.readMention c text m rest with
      | .error outcome => outcome
      | .ok (p, rest) => readWords c fuel rest p
    | _ =>
      if p.extra.isEmpty then .given p.arguments
      else .misused ("unrecognized arguments: " ++ " ".intercalate p.extra)

def read (c : Command) (line : List String) : Outcome :=
  match classify c line with
  | .error message => .misused message
  | .ok words => Progress.start.readWords c (words.length + 1) words

end Vivarium.Options
