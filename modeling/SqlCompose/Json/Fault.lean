/-!
# What is wrong with a JSON text

A fault names its cause and the place where reading stopped: the line,
and the number of bytes read in that line.
-/

namespace SqlCompose

/-- The causes for which reading a JSON text stops. -/
inductive JsonCause where
  | endInList
  | endInObject
  | endInString
  | endInValue
  | expectedColon
  | expectedListEnd
  | expectedObjectEnd
  | expectedWord
  | expectedValue
  | invalidEscape
  | invalidNumber
  | numberOutOfRange
  | invalidCodePoint
  | controlCharacter
  | keyNotString
  | loneSurrogate
  | trailingComma
  | trailingCharacters
  | endOfHexEscape
  | recursionLimit
  deriving DecidableEq, Repr

/-- The wording of a cause. -/
def JsonCause.message : JsonCause → String
  | .endInList => "EOF while parsing a list"
  | .endInObject => "EOF while parsing an object"
  | .endInString => "EOF while parsing a string"
  | .endInValue => "EOF while parsing a value"
  | .expectedColon => "expected `:`"
  | .expectedListEnd => "expected `,` or `]`"
  | .expectedObjectEnd => "expected `,` or `\x7d`"
  | .expectedWord => "expected ident"
  | .expectedValue => "expected value"
  | .invalidEscape => "invalid escape"
  | .invalidNumber => "invalid number"
  | .numberOutOfRange => "number out of range"
  | .invalidCodePoint => "invalid unicode code point"
  | .controlCharacter =>
    "control character (\\u0000-\\u001F) found while parsing a string"
  | .keyNotString => "key must be a string"
  | .loneSurrogate => "lone leading surrogate in hex escape"
  | .trailingComma => "trailing comma"
  | .trailingCharacters => "trailing characters"
  | .endOfHexEscape => "unexpected end of hex escape"
  | .recursionLimit => "recursion limit exceeded"

/-- A cause with the place where reading stopped. -/
structure JsonFault where
  cause : JsonCause
  line : Nat
  column : Nat
  deriving DecidableEq, Repr

/-- The wording of a fault. -/
def JsonFault.message (f : JsonFault) : String :=
  f.cause.message ++ " at line " ++ f.line.repr ++ " column " ++ f.column.repr

/-- The fault for a cause met after the first `read` bytes. -/
def JsonFault.after (cause : JsonCause) (input : List UInt8) (read : Nat) : JsonFault :=
  let before := input.take read
  ⟨cause, 1 + before.count 10, (before.reverse.takeWhile (· ≠ 10)).length⟩

end SqlCompose
