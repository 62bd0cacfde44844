import CorpusTally.Yaml.Cursor

/-!
What can be wrong with a YAML text, and the message, which ends with the place.
-/

namespace CorpusTally.Yaml

inductive Cause where
  | reservedSign (sign : Char)
  | nestedTooDeep
  | keyExpected
  | keyWithoutColon
  | keyNotAllowed
  | valueNotAllowed
  | entryNotAllowed
  | entryInFlow
  | plainTab
  | quotedDivider
  | quotedEnd
  | unknownEscape
  | escapeDigits
  | escapeCode
  | blockIndentZero
  | blockHeader
  | blockTab
  | anchorName
  | tagClose
  | tagEnd
  | tagMark
  | tagHandleMark
  | tagUri
  | tagOctet
  | tagLeadingOctet
  | tagTrailingOctet
  | tagCodePoint
  | tagDirectiveEnd
  | directiveName
  | directiveNameEnd
  | directiveEnd
  | versionPoint
  | versionTooLong
  | versionNumber
  | documentStart
  | unknownAnchor
  | nodeContent
  | blockMappingKey
  | flowMappingEnd
  | flowSequenceEnd
  | blockEntry
  | endOfTokens

def Cause.message : Cause → String
  | .reservedSign sign => "unexpected character: \x60" ++ String.singleton sign ++ "'"
  | .nestedTooDeep => "recursion limit exceeded"
  | .keyExpected => "simple key expected"
  | .keyWithoutColon => "simple key expect ':'"
  | .keyNotAllowed => "mapping keys are not allowed in this context"
  | .valueNotAllowed => "mapping values are not allowed in this context"
  | .entryNotAllowed => "block sequence entries are not allowed in this context"
  | .entryInFlow => "\"-\" is only valid inside a block"
  | .plainTab => "while scanning a plain scalar, found a tab"
  | .quotedDivider => "while scanning a quoted scalar, found unexpected document indicator"
  | .quotedEnd => "while scanning a quoted scalar, found unexpected end of stream"
  | .unknownEscape => "while parsing a quoted scalar, found unknown escape character"
  | .escapeDigits => "while parsing a quoted scalar, did not find expected hexdecimal number"
  | .escapeCode => "while parsing a quoted scalar, found invalid Unicode character escape code"
  | .blockIndentZero =>
    "while scanning a block scalar, found an indentation indicator equal to 0"
  | .blockHeader =>
    "while scanning a block scalar, did not find expected comment or line break"
  | .blockTab => "while scanning a block scalar, " ++
    "found a tab character where an indentation space is expected"
  | .anchorName => "while scanning an anchor or alias, " ++
    "did not find expected alphabetic or numeric character"
  | .tagClose => "while scanning a tag, did not find the expected '>'"
  | .tagEnd => "while scanning a tag, did not find expected whitespace or line break"
  | .tagMark => "while scanning a tag, did not find expected '!'"
  | .tagHandleMark => "while parsing a tag directive, did not find expected '!'"
  | .tagUri => "while parsing a tag, did not find expected tag URI"
  | .tagOctet => "while parsing a tag, did not find URI escaped octet"
  | .tagLeadingOctet => "while parsing a tag, found an incorrect leading UTF-8 octet"
  | .tagTrailingOctet => "while parsing a tag, found an incorrect trailing UTF-8 octet"
  | .tagCodePoint => "while parsing a tag, found an invalid UTF-8 codepoint"
  | .tagDirectiveEnd => "while scanning TAG, did not find expected whitespace or line break"
  | .directiveName => "while scanning a directive, could not find expected directive name"
  | .directiveNameEnd =>
    "while scanning a directive, found unexpected non-alphabetical character"
  | .directiveEnd =>
    "while scanning a directive, did not find expected comment or line break"
  | .versionPoint => "while scanning a YAML directive, " ++
    "did not find expected digit or '.' character"
  | .versionTooLong => "while scanning a YAML directive, found extremely long version number"
  | .versionNumber => "while scanning a YAML directive, did not find expected version number"
  | .documentStart => "did not find expected <document start>"
  | .unknownAnchor => "while parsing node, found unknown anchor"
  | .nodeContent => "while parsing a node, did not find expected node content"
  | .blockMappingKey => "while parsing a block mapping, did not find expected key"
  | .flowMappingEnd => "while parsing a flow mapping, did not find expected ',' or '\x7d'"
  | .flowSequenceEnd => "while parsing a flow sequence, expectd ',' or ']'"
  | .blockEntry => "while parsing a block collection, did not find expected '-' indicator"
  | .endOfTokens => "unexpected eof"

structure Error where
  mark : Mark
  cause : Cause

def Error.message (e : Error) : String :=
  s!"{e.cause.message} at line {e.mark.line} column {e.mark.column + 1}"

abbrev Reading (α : Type) := Except Error (α × Cursor)

def fault {α : Type} (mark : Mark) (cause : Cause) : Except Error α := .error ⟨mark, cause⟩

end CorpusTally.Yaml
