/-!
# Tokens of a document

A document is read as a list of tokens. Besides the marks and texts that are written there are
tokens for what only indentation shows: where a list or a map over several lines begins and ends,
and that what comes is a key.
-/

namespace Vivarium.Document

inductive Token where
  /-- A directive that gives the version of the format. -/
  | version (major minor : Nat)
  /-- A directive that gives a handle for the start of tags. -/
  | handle (handle start : String)
  /-- Any other directive. -/
  | reserved
  | documentStart
  | documentEnd
  | streamEnd
  | blockSequenceStart
  | blockMappingStart
  | blockEnd
  | flowSequenceStart
  | flowSequenceEnd
  | flowMappingStart
  | flowMappingEnd
  | flowEntry
  | blockEntry
  | key
  | value
  | alias (name : String)
  | anchor (name : String)
  | tag (handle : Option String) (suffix : String)
  /-- A text; a plain one stands without quotes on its lines. -/
  | scalar (text : String) (plain : Bool)
deriving DecidableEq, Repr

def Token.isDirective : Token → Bool
  | version .. => true
  | handle .. => true
  | reserved => true
  | _ => false

end Vivarium.Document
