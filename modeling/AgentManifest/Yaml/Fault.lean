import AgentManifest.Yaml.Mark

/-! What can be wrong with a YAML text before its values are looked at. A fault names what was
expected or found, where, and in the middle of what. -/

namespace AgentManifest.Yaml

inductive Activity where
  | nextToken
  | simpleKey
  | directive
  | versionDirective
  | tagDirective
  | tagDirectiveHandle
  | tagDirectivePart
  | anchor
  | alias
  | tag
  | tagPart
  | blockScalar
  | quotedScalar
  | quotedEscape
  | plainScalar
  | node
  | blockNode
  | flowNode
  | blockCollection
  | blockMapping
  | flowSequence
  | flowMapping
  deriving DecidableEq, Repr

def Activity.text : Activity → String
  | .nextToken => "while scanning for the next token"
  | .simpleKey => "while scanning a simple key"
  | .directive => "while scanning a directive"
  | .versionDirective => "while scanning a %YAML directive"
  | .tagDirective => "while scanning a %TAG directive"
  | .tagDirectiveHandle => "while parsing a tag directive"
  | .tagDirectivePart => "while parsing a %TAG directive"
  | .anchor => "while scanning an anchor"
  | .alias => "while scanning an alias"
  | .tag => "while scanning a tag"
  | .tagPart => "while parsing a tag"
  | .blockScalar => "while scanning a block scalar"
  | .quotedScalar => "while scanning a quoted scalar"
  | .quotedEscape => "while parsing a quoted scalar"
  | .plainScalar => "while scanning a plain scalar"
  | .node => "while parsing a node"
  | .blockNode => "while parsing a block node"
  | .flowNode => "while parsing a flow node"
  | .blockCollection => "while parsing a block collection"
  | .blockMapping => "while parsing a block mapping"
  | .flowSequence => "while parsing a flow sequence"
  | .flowMapping => "while parsing a flow mapping"

inductive Problem where
  | noToken
  | keyWithoutColon
  | entryNotAllowed
  | keyNotAllowed
  | valueNotAllowed
  | unknownDirective
  | directiveNameMissing
  | directiveNameEnd
  | commentOrBreakExpected
  | versionPointExpected
  | versionTooLong
  | versionNumberExpected
  | blankExpected
  | blankOrBreakExpected
  | wordCharExpected
  | tagCloseExpected
  | tagMarkExpected
  | tagTextExpected
  | tagEscapeExpected
  | tagLeadingByte
  | tagTrailingByte
  | zeroIndentation
  | tabInIndentation
  | tabBelowIndentation
  | documentMarkInQuotes
  | endInQuotes
  | unknownEscape
  | hexExpected
  | invalidCodePoint
  | colonInFlow
  | documentStartExpected
  | repeatedVersion
  | repeatedTagDirective
  | incompatibleVersion
  | undefinedTagHandle
  | nodeExpected
  | dashExpected
  | keyExpected
  | flowSequenceSeparator
  | flowMappingSeparator
  deriving DecidableEq, Repr

def Problem.text : Problem → String
  | .noToken => "found character that cannot start any token"
  | .keyWithoutColon => "could not find expected ':'"
  | .entryNotAllowed => "block sequence entries are not allowed in this context"
  | .keyNotAllowed => "mapping keys are not allowed in this context"
  | .valueNotAllowed => "mapping values are not allowed in this context"
  | .unknownDirective => "found unknown directive name"
  | .directiveNameMissing => "could not find expected directive name"
  | .directiveNameEnd => "found unexpected non-alphabetical character"
  | .commentOrBreakExpected => "did not find expected comment or line break"
  | .versionPointExpected => "did not find expected digit or '.' character"
  | .versionTooLong => "found extremely long version number"
  | .versionNumberExpected => "did not find expected version number"
  | .blankExpected => "did not find expected whitespace"
  | .blankOrBreakExpected => "did not find expected whitespace or line break"
  | .wordCharExpected => "did not find expected alphabetic or numeric character"
  | .tagCloseExpected => "did not find the expected '>'"
  | .tagMarkExpected => "did not find expected '!'"
  | .tagTextExpected => "did not find expected tag URI"
  | .tagEscapeExpected => "did not find URI escaped octet"
  | .tagLeadingByte => "found an incorrect leading UTF-8 octet"
  | .tagTrailingByte => "found an incorrect trailing UTF-8 octet"
  | .zeroIndentation => "found an indentation indicator equal to 0"
  | .tabInIndentation => "found a tab character where an indentation space is expected"
  | .tabBelowIndentation => "found a tab character that violates indentation"
  | .documentMarkInQuotes => "found unexpected document indicator"
  | .endInQuotes => "found unexpected end of stream"
  | .unknownEscape => "found unknown escape character"
  | .hexExpected => "did not find expected hexadecimal number"
  | .invalidCodePoint => "found invalid Unicode character escape code"
  | .colonInFlow => "found unexpected ':'"
  | .documentStartExpected => "did not find expected <document start>"
  | .repeatedVersion => "found duplicate %YAML directive"
  | .repeatedTagDirective => "found duplicate %TAG directive"
  | .incompatibleVersion => "found incompatible YAML document"
  | .undefinedTagHandle => "found undefined tag handle"
  | .nodeExpected => "did not find expected node content"
  | .dashExpected => "did not find expected '-' indicator"
  | .keyExpected => "did not find expected key"
  | .flowSequenceSeparator => "did not find expected ',' or ']'"
  | .flowMappingSeparator => "did not find expected ',' or '\x7d'"

/-- A problem at a place, and the activity it interrupted with the place where that began. -/
structure SyntaxFault where
  problem : Problem
  mark : Mark
  context : Option (Activity × Mark)
  deriving DecidableEq, Repr

/-- The sentence for a fault. A place at the start of the text is not spelled out, nor is that of
the activity when it is the place of the problem. -/
def SyntaxFault.text (f : SyntaxFault) : String :=
  let place := if f.mark.isOrigin then "" else s!" at {f.mark.text}"
  let context := match f.context with
    | none => ""
    | some (activity, start) =>
      let elsewhere := start.line ≠ f.mark.line ∨ start.column ≠ f.mark.column
      if !start.isOrigin ∧ elsewhere then s!", {activity.text} at {start.text}"
      else s!", {activity.text}"
  f.problem.text ++ place ++ context

end AgentManifest.Yaml
