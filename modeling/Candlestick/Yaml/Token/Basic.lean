/-!
# Tokens of a document

A document is first cut into tokens. Besides what is written there are tokens for what the
indentation says: where a collection in block style starts and where it ends.
-/

namespace Candlestick.Yaml

/-- Why a document gives no value. -/
inductive Fault where
  /-- The text does not follow the grammar, or asks for what does not exist. -/
  | malformed
  /-- An escape names a number behind the last character. -/
  | noSuchCharacter
  | oversizedCharacter
  | emptyNumber
  /-- A whole number is asked for and the text is none in its base. -/
  | malformedInteger (base : Nat) (text : String)
  | tooManyDigits (digits : Nat)
  | malformedDecimal (text : String)
  /-- A truth value is asked for and the word is none. -/
  | unknownBoolean (word : String)
  | notMoment
  | noSuchMoment (reason : String)
deriving DecidableEq, Repr

/-- What a line that starts with a percent sign says. -/
inductive Directive where
  | version (major : Nat)
  | handle (handle meaning : String)
  | unknown
deriving DecidableEq, Repr

/-- A token. A tag comes with its handle, or without one if it is written in full. -/
inductive Token where
  | directive (d : Directive)
  | documentStart
  | documentEnd
  | blockSequenceStart
  | blockMappingStart
  | blockEnd
  | flowSequenceStart
  | flowSequenceEnd
  | flowMappingStart
  | flowMappingEnd
  | blockEntry
  | flowEntry
  | key
  | value
  | alias (name : String)
  | anchor (name : String)
  | tag (handle : Option String) (suffix : String)
  | scalar (text : String) (plain : Bool)
deriving DecidableEq, Repr

end Candlestick.Yaml
