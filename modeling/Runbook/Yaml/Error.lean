import Runbook.Fault.Incident
import Runbook.Text.Quoted
import Runbook.Text.Utf8
import Runbook.Text.Base64
import Runbook.Yaml.Mark

/-! What can be wrong with a document: a problem at a place, and what was being read when it came up. -/

namespace Runbook.Yaml

open Text

/-- The level of reading on which a problem is found. -/
inductive Level where
  | tokens
  | grammar
  | nodes
  | values
deriving DecidableEq, Repr

namespace Level

def kind : Level → IncidentKind
  | .tokens => .yamlScanner
  | .grammar => .yamlParser
  | .nodes => .yamlComposer
  | .values => .yamlConstructor

end Level

/-- What was being read. -/
inductive Activity where
  | simpleKey
  | nextToken
  | directive
  | directiveUri
  | reference
  | anchor
  | tag
  | tagUri
  | blockScalar
  | doubleQuoted
  | quotedScalar
  | node
  | blockNode
  | flowNode
  | blockSequence
  | blockMapping
  | flowSequence
  | flowMapping
  | anchorTwice (name : String)
  | document
  | mapping
  | orderedMap
  | pairs
deriving DecidableEq, Repr

namespace Activity

def message : Activity → String
  | .simpleKey => "while scanning a simple key"
  | .nextToken => "while scanning for the next token"
  | .directive => "while scanning a directive"
  | .directiveUri => "while parsing a directive"
  | .reference => "while scanning an alias"
  | .anchor => "while scanning an anchor"
  | .tag => "while scanning a tag"
  | .tagUri => "while parsing a tag"
  | .blockScalar => "while scanning a block scalar"
  | .doubleQuoted => "while scanning a double-quoted scalar"
  | .quotedScalar => "while scanning a quoted scalar"
  | .node => "while parsing a node"
  | .blockNode => "while parsing a block node"
  | .flowNode => "while parsing a flow node"
  | .blockSequence => "while parsing a block collection"
  | .blockMapping => "while parsing a block mapping"
  | .flowSequence => "while parsing a flow sequence"
  | .flowMapping => "while parsing a flow mapping"
  | .anchorTwice name => "found duplicate anchor " ++ quoted name ++ "; first occurrence"
  | .document => "expected a single document in the stream"
  | .mapping => "while constructing a mapping"
  | .orderedMap => "while constructing an ordered map"
  | .pairs => "while constructing pairs"

end Activity

/-- What a character was expected to be. -/
inductive Expected where
  | word
  | digit
  | digitOrPoint
  | digitOrBlank
  | blank
  | commentOrBreak
  | exclamation
  | closingAngle
  | uri
  | uriEscape
  | indicators
  | escapeDigits (count : Nat)
deriving DecidableEq, Repr

namespace Expected

def message : Expected → String
  | .word => "alphabetic or numeric character"
  | .digit => "a digit"
  | .digitOrPoint => "a digit or '.'"
  | .digitOrBlank => "a digit or ' '"
  | .blank => "' '"
  | .commentOrBreak => "a comment or a line break"
  | .exclamation => "'!'"
  | .closingAngle => "'>'"
  | .uri => "URI"
  | .uriEscape => "URI escape sequence of 2 hexadecimal numbers"
  | .indicators => "chomping or indentation indicators"
  | .escapeDigits count => s!"escape sequence of {count} hexadecimal numbers"

end Expected

inductive Problem where
  | keyWithoutColon
  | sequenceEntryNotAllowed
  | keyNotAllowed
  | valueNotAllowed
  | badTokenStart (c : Char)
  | unexpected (expected : Expected) (found : Char)
  | zeroIndent
  | unknownEscape (c : Char)
  | unclosedQuote
  | separatorInQuotes
  | uriText (e : Utf8.Error)
  | notDocumentStart (found : String)
  | versionTwice
  | badVersion
  | tagHandleTwice (handle : String)
  | unknownTagHandle (handle : String)
  | noContent (found : String)
  | notBlockEnd (found : String)
  | notSequenceEnd (found : String)
  | notMappingEnd (found : String)
  | unknownAnchor (name : String)
  | secondAnchor
  | secondDocument
  | unknownTag (tag : String)
  | wrongNode (expected found : String)
  | badMerge (found : String)
  | badMergeItem (found : String)
  | badKey
  | notSingleEntry (count : Nat)
  | notAsciiBase64 (first count : Nat) (c : Char)
  | badBase64 (e : Base64.Error)
deriving DecidableEq, Repr

namespace Problem

/-- The text about characters outside ASCII: a single one is named, of several only their places. -/
def asciiText (first count : Nat) (c : Char) : String :=
  "'ascii' codec can't encode " ++
    (if count = 1 then
      "character '" ++ String.ofList (codeEscape c) ++ s!"' in position {first}"
    else s!"characters in position {first}-{first + count - 1}") ++
    ": ordinal not in range(128)"

def message : Problem → String
  | .keyWithoutColon => "could not find expected ':'"
  | .sequenceEntryNotAllowed => "sequence entries are not allowed here"
  | .keyNotAllowed => "mapping keys are not allowed here"
  | .valueNotAllowed => "mapping values are not allowed here"
  | .badTokenStart c =>
    "found character " ++ quoted (String.singleton c) ++ " that cannot start any token"
  | .unexpected expected found =>
    "expected " ++ expected.message ++ ", but found " ++ quoted (String.singleton found)
  | .zeroIndent => "expected indentation indicator in the range 1-9, but found 0"
  | .unknownEscape c => "found unknown escape character " ++ quoted (String.singleton c)
  | .unclosedQuote => "found unexpected end of stream"
  | .separatorInQuotes => "found unexpected document separator"
  | .uriText e => e.message
  | .notDocumentStart found => "expected '<document start>', but found " ++ quoted found
  | .versionTwice => "found duplicate YAML directive"
  | .badVersion => "found incompatible YAML document (version 1.* is required)"
  | .tagHandleTwice handle => "duplicate tag handle " ++ quoted handle
  | .unknownTagHandle handle => "found undefined tag handle " ++ quoted handle
  | .noContent found => "expected the node content, but found " ++ quoted found
  | .notBlockEnd found => "expected <block end>, but found " ++ quoted found
  | .notSequenceEnd found => "expected ',' or ']', but got " ++ quoted found
  | .notMappingEnd found => "expected ',' or '\x7d', but got " ++ quoted found
  | .unknownAnchor name => "found undefined alias " ++ quoted name
  | .secondAnchor => "second occurrence"
  | .secondDocument => "but found another document"
  | .unknownTag tag => "could not determine a constructor for the tag " ++ quoted tag
  | .wrongNode expected found => "expected a " ++ expected ++ ", but found " ++ found
  | .badMerge found => "expected a mapping or list of mappings for merging, but found " ++ found
  | .badMergeItem found => "expected a mapping for merging, but found " ++ found
  | .badKey => "found unhashable key"
  | .notSingleEntry count => s!"expected a single mapping item, but found {count} items"
  | .notAsciiBase64 first count c => "failed to convert base64 data into ascii: " ++ asciiText first count c
  | .badBase64 e => "failed to decode base64 data: " ++ e.message

end Problem

/-- A character that no document can hold, a problem at a place, or a scalar whose value its type
refuses. -/
inductive Error where
  | badCharacter (c : Char) (position : Nat)
  | problem (level : Level) (activity : Option (Activity × Option Mark)) (what : Problem) (mark : Mark)
  | refused (kind : IncidentKind)
deriving DecidableEq, Repr

namespace Error

def kind : Error → IncidentKind
  | .badCharacter .. => .yamlReader
  | .problem level .. => level.kind
  | .refused kind => kind

/-- Whether the document itself is at fault, and not the value of a scalar. -/
def isOfDocument : Error → Bool
  | .refused _ => false
  | _ => true

/-- The place of the activity, unless the problem is at the same place. -/
def activityLines (text : List Char) (mark : Mark) : Option (Activity × Option Mark) → List String
  | none => []
  | some (a, none) => [a.message]
  | some (a, some m) =>
    if m.line = mark.line ∧ m.column = mark.column then [a.message] else [a.message, m.display text]

def message (text : List Char) : Error → String
  | .badCharacter c position =>
    "unacceptable character #x" ++ String.ofList (hexText 4 c.toNat) ++
      ": special characters are not allowed\n" ++
      s!"  in \"<unicode string>\", position {position}"
  | .problem _ activity what mark =>
    joinWith "\n" (activityLines text mark activity ++ [what.message, mark.display text])
  | .refused kind => kind.label

end Error

end Runbook.Yaml
