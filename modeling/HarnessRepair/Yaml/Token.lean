/-!
# YAML tokens

The words and marks that a YAML document is made of.  Where block collections start
and end is told by indentation alone, and there are tokens for it all the same.

## Main definitions

* `Token` — the tokens.
-/

namespace HarnessRepair.Yaml

/-- A token of a YAML text. -/
inductive Token where
  /-- The version of YAML that a document asks for. -/
  | version (major minor : Nat)
  /-- What a handle in front of tags stands for; a character is a byte. -/
  | handle (name expansion : String)
  | documentStart
  | documentEnd
  | blockSequenceStart
  | blockMappingStart
  /-- The end of a block collection. -/
  | blockEnd
  | flowSequenceStart
  | flowSequenceEnd
  | flowMappingStart
  | flowMappingEnd
  /-- The hyphen in front of an item. -/
  | blockEntry
  /-- The comma between the parts of a flow collection. -/
  | flowEntry
  /-- What is in front of a key, written or not. -/
  | key
  /-- The colon in front of a value. -/
  | value
  | alias (name : String)
  | anchor (name : String)
  /-- A tag; a character behind its handle is a byte. -/
  | tag (handle suffix : String)
  /-- A text; a plain one has neither quotes nor an indicator of a block. -/
  | scalar (plain : Bool) (text : String)
  deriving DecidableEq, Repr

end HarnessRepair.Yaml
