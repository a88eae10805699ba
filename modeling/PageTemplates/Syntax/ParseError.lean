/-!
# Parse errors

Why a text is not an expression, and the sentence that says so. Positions count UTF-8 bytes from the start of the text.
-/

namespace PageTemplates

/-- What the parser was looking for. -/
inductive Expectation where
  | expression
  | endOfExpression
  | stageOrEnd
  | filterName
  | memberName
  | objectKey
  | step
  | colon
  | closingBracket
  | endOfArguments
  | endOfArray
  | endOfObject
  | endOfNumber
  deriving DecidableEq, Inhabited

/-- How an error message names what was looked for. -/
def Expectation.text : Expectation → String
  | .expression => "expression"
  | .endOfExpression => "end of expression"
  | .stageOrEnd => "'|' or end of expression"
  | .filterName => "filter name"
  | .memberName => "member name"
  | .objectKey => "object key"
  | .step => "'.' or '['"
  | .colon => "':'"
  | .closingBracket => "']'"
  | .endOfArguments => "',' or ')'"
  | .endOfArray => "',' or ']'"
  | .endOfObject => "',' or '\x7d'"
  | .endOfNumber => "end of number"

/-- The reasons why a text does not parse. -/
inductive ParseError where
  | unexpectedChar (found : Char) (position : Nat) (expected : Expectation)
  | unexpectedEnd (expected : Expectation)
  | invalidNumber (text : String)
  | unterminatedString (position : Nat)
  deriving DecidableEq, Inhabited

/-- The sentence that reports the error. -/
def ParseError.message : ParseError → String
  | .unexpectedChar found position expected =>
    "unexpected character '" ++ found.toString ++ "' at " ++ toString position ++ ", expected " ++ expected.text
  | .unexpectedEnd expected => "unexpected end of expression, expected " ++ expected.text
  | .invalidNumber text => "invalid number literal '" ++ text ++ "'"
  | .unterminatedString position => "unterminated string literal starting at " ++ toString position

end PageTemplates
