/-! What can be wrong with a TOML text. A fault says what was found wrong, what was expected in its
place where that is known, and at which byte. -/

namespace AgentManifest.Toml

inductive StringForm where
  | basic
  | literal
  | multiBasic
  | multiLiteral
  deriving DecidableEq, Repr

def StringForm.text : StringForm → String
  | .basic => "basic string"
  | .literal => "literal string"
  | .multiBasic => "multi-line basic string"
  | .multiLiteral => "multi-line literal string"

def StringForm.quote : StringForm → Char
  | .basic | .multiBasic => '"'
  | .literal | .multiLiteral => '\''

inductive Radix where
  | decimal
  | hexadecimal
  | octal
  | binary
  deriving DecidableEq, Repr

def Radix.text : Radix → String
  | .decimal => "integer"
  | .hexadecimal => "hexadecimal"
  | .octal => "octal"
  | .binary => "binary"

def Radix.base : Radix → Nat
  | .decimal => 10
  | .hexadecimal => 16
  | .octal => 8
  | .binary => 2

def Radix.letter : Radix → Char
  | .decimal => 'd'
  | .hexadecimal => 'x'
  | .octal => 'o'
  | .binary => 'b'

inductive Word where
  | true
  | false
  | infinite
  | notANumber
  deriving DecidableEq, Repr

def Word.text : Word → String
  | .true => "true"
  | .false => "false"
  | .infinite => "inf"
  | .notANumber => "nan"

def Word.sort : Word → String
  | .true | .false => "boolean"
  | .infinite | .notANumber => "float"

inductive FloatPart where
  | mantissa
  | fraction
  | exponent
  deriving DecidableEq, Repr

def FloatPart.text : FloatPart → String
  | .mantissa => "mantissa"
  | .fraction => "fraction"
  | .exponent => "exponent"

inductive ValueSort where
  | string
  | integer
  | float
  | boolean
  | dateTime
  | array
  | inlineTable
  deriving DecidableEq, Repr

def ValueSort.text : ValueSort → String
  | .string => "string"
  | .integer => "integer"
  | .float => "float"
  | .boolean => "boolean"
  | .dateTime => "datetime"
  | .array => "array"
  | .inlineTable => "inline table"

inductive DateTimePart where
  | whole
  | date
  | time
  | dateAndTime
  | offset
  deriving DecidableEq, Repr

def DateTimePart.text : DateTimePart → String
  | .whole => "datetime"
  | .date => "date"
  | .time => "time"
  | .dateAndTime => "date-time"
  | .offset => "offset"

inductive Problem where
  | invalidPair
  | keyWithoutValue
  | unexpectedRest
  | unclosedTable
  | unclosedArrayTable (double : Bool)
  | missingTableOpening
  | extraEquals
  | missingArrayOpening
  | missingInlineTableOpening
  | extraCommaInArray
  | equalsInArray
  | missingCommaInArray
  | unclosedArray
  | extraCommaInInlineTable
  | extraAssignment
  | missingInlineKey
  | missingAssignment
  | missingCommaInInlineTable
  | unclosedInlineTable
  | nestedTooDeep
  | loneCarriageReturn
  | invalidComment
  | emptyKey
  | invalidKey
  | multiLineKey (form : StringForm)
  | stringQuote (form : StringForm)
  | basicChar (form : StringForm)
  | literalChar (form : StringForm)
  | missingEscape
  | tooFewHexDigits
  | invalidCodePoint
  | unquotedString
  | repeatedSign
  | signedRadix
  | upperRadix (radix : Radix)
  | redundantRadix
  | invalidDigit (radix : Radix)
  | leadingZero
  | misplacedUnderscore
  | missingDigits (part : FloatPart)
  | invalidFloat
  | wrongWord (word : Word)
  | dateTime (part : DateTimePart) (expected : Option String)
  | repeatedKey
  | notExtendable (found : ValueSort)
  | keyTooLong
  | integerOverflow
  | floatOverflow
  | outOfRange
  deriving DecidableEq, Repr

def Problem.description : Problem → String
  | .invalidPair => "invalid key-value pair"
  | .keyWithoutValue => "key with no value"
  | .unexpectedRest => "unexpected key or value"
  | .unclosedTable => "unclosed table"
  | .unclosedArrayTable _ => "unclosed array table"
  | .missingTableOpening => "missing table open"
  | .extraEquals => "extra `=`"
  | .missingArrayOpening => "missing array opening"
  | .missingInlineTableOpening => "missing inline table opening"
  | .extraCommaInArray => "extra comma in array"
  | .equalsInArray => "unexpected `=` in array"
  | .missingCommaInArray => "missing comma between array elements"
  | .unclosedArray => "unclosed array"
  | .extraCommaInInlineTable => "extra comma in inline table"
  | .extraAssignment => "extra assignment between key-value pairs"
  | .missingInlineKey => "missing key for inline table element"
  | .missingAssignment => "missing assignment between key-value pairs"
  | .missingCommaInInlineTable => "missing comma between key-value pairs"
  | .unclosedInlineTable => "unclosed inline table"
  | .nestedTooDeep => "cannot recurse further; max recursion depth met"
  | .loneCarriageReturn => "carriage return must be followed by newline"
  | .invalidComment => "invalid comment character"
  | .emptyKey => "unquoted keys cannot be empty"
  | .invalidKey => "invalid unquoted key"
  | .multiLineKey form => s!"keys cannot be {form.text}s"
  | .stringQuote form => s!"invalid {form.text}"
  | .basicChar form => s!"invalid {form.text}"
  | .literalChar form => s!"invalid {form.text}"
  | .missingEscape => "missing escaped value"
  | .tooFewHexDigits => "too few unicode value digits"
  | .invalidCodePoint => "invalid value"
  | .unquotedString => "string values must be quoted"
  | .repeatedSign => "redundant numeric sign"
  | .signedRadix => "integers with a radix cannot be signed"
  | .upperRadix _ => "radix must be lowercase"
  | .redundantRadix => "redundant integer number prefix"
  | .invalidDigit radix => s!"invalid {radix.text} number"
  | .leadingZero => "unexpected leading zero"
  | .misplacedUnderscore => "`_` may only go between digits"
  | .missingDigits part => s!"invalid {part.text}"
  | .invalidFloat => "invalid float"
  | .wrongWord word => s!"invalid {word.sort}"
  | .dateTime part _ => s!"invalid {part.text}"
  | .repeatedKey => "duplicate key"
  | .notExtendable found => s!"cannot extend value of type {found.text} with a dotted key"
  | .keyTooLong => "recursion limit"
  | .integerOverflow => "integer number overflowed"
  | .floatOverflow => "floating-point number overflowed"
  | .outOfRange => "JSON number out of range"

def mark (s : String) : String := s!"`{s}`"

def Problem.expected : Problem → Option (List String)
  | .invalidPair => some ["key"]
  | .keyWithoutValue => some [mark "="]
  | .unexpectedRest => some ["newline", mark "#"]
  | .unclosedTable => some [mark "]"]
  | .unclosedArrayTable double => some [mark (if double then "]]" else "]")]
  | .missingTableOpening => some [mark "["]
  | .extraEquals => some []
  | .missingArrayOpening => some [mark "["]
  | .missingInlineTableOpening => some [mark "\x7b"]
  | .extraCommaInArray => some ["value"]
  | .equalsInArray => some ["value", mark "]"]
  | .missingCommaInArray => some [mark ","]
  | .unclosedArray => some [mark "]"]
  | .extraCommaInInlineTable => some ["key"]
  | .extraAssignment => some [mark ","]
  | .missingInlineKey => some ["key"]
  | .missingAssignment => some [mark "="]
  | .missingCommaInInlineTable => some [mark ","]
  | .unclosedInlineTable => some [mark "\x7d"]
  | .nestedTooDeep => none
  | .loneCarriageReturn => some ["newline"]
  | .invalidComment => some ["printable characters"]
  | .emptyKey => some ["letters", "numbers", mark "-", mark "_"]
  | .invalidKey => some ["letters", "numbers", mark "-", mark "_"]
  | .multiLineKey _ => some ["basic string", "literal string"]
  | .stringQuote form => some [mark (String.singleton form.quote)]
  | .basicChar _ => some ["non-double-quote visible characters", mark "\\"]
  | .literalChar _ => some ["non-single-quote visible characters"]
  | .missingEscape =>
    some [mark "b", mark "e", mark "f", mark "n", mark "r", mark "\\", mark "\"", mark "x",
      mark "u", mark "U"]
  | .tooFewHexDigits => some ["unicode hexadecimal value"]
  | .invalidCodePoint => some ["unicode hexadecimal value"]
  | .unquotedString => some ["literal string"]
  | .repeatedSign => some []
  | .signedRadix => some []
  | .upperRadix radix => some [mark (String.ofList ['0', radix.letter])]
  | .redundantRadix => some []
  | .invalidDigit _ => none
  | .leadingZero => some []
  | .misplacedUnderscore => some []
  | .missingDigits _ => some ["digits"]
  | .invalidFloat => some []
  | .wrongWord word => some [mark word.text]
  | .dateTime _ expected => expected.map fun e => [e]
  | .repeatedKey => none
  | .notExtendable _ => none
  | .keyTooLong => none
  | .integerOverflow => none
  | .floatOverflow => none
  | .outOfRange => none

def Problem.text (p : Problem) : String :=
  match p.expected with
  | none => p.description
  | some [] => s!"{p.description}, expected nothing"
  | some expected => p.description ++ ", expected " ++ ", ".intercalate expected

structure Fault where
  problem : Problem
  offset : Option Nat
  deriving DecidableEq, Repr

def refuse {α : Type} (problem : Problem) (offset : Nat) : Except Fault α :=
  .error ⟨problem, some offset⟩

end AgentManifest.Toml
