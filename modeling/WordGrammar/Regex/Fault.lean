/-
Why a text is no regular expression.
-/
namespace WordGrammar.Regex

/-- What is wrong with a regular expression. -/
inductive Fault
  | classEscapeInvalid
  | classRangeInvalid
  | classRangeLiteral
  | classUnclosed
  | countEmpty
  | countInvalid
  | countUnclosed
  | countOutOfOrder
  | escapeHexEmpty
  | escapeHexInvalid
  | escapeHexDigit
  | escapeUnfinished
  | escapeUnknown
  | flagDangling
  | flagDuplicate
  | flagUnfinished
  | flagUnknown
  | groupNameDuplicate
  | groupNameEmpty
  | groupNameInvalid
  | groupNameUnfinished
  | groupUnclosed
  | groupUnopened
  | nestedTooDeeply
  | repetitionMissing
  | boundaryUnclosed
  | boundaryUnknown
  | propertyInvalid
  | propertyUnknown
  | backreference
  | lookaround
  | notUnicode
  | notText
  | tooLarge
  deriving DecidableEq, Repr

/-- The wording of a fault. -/
def Fault.message : Fault → String
  | classEscapeInvalid => "invalid escape sequence found in character class"
  | classRangeInvalid => "invalid character class range, the start must be <= the end"
  | classRangeLiteral => "invalid range boundary, must be a literal"
  | classUnclosed => "unclosed character class"
  | countEmpty => "repetition quantifier expects a valid decimal"
  | countInvalid => "decimal literal invalid"
  | countUnclosed => "unclosed counted repetition"
  | countOutOfOrder => "invalid repetition count range, the start must be <= the end"
  | escapeHexEmpty => "hexadecimal literal empty"
  | escapeHexInvalid => "hexadecimal literal is not a Unicode scalar value"
  | escapeHexDigit => "invalid hexadecimal digit"
  | escapeUnfinished => "incomplete escape sequence, reached end of pattern prematurely"
  | escapeUnknown => "unrecognized escape sequence"
  | flagDangling => "dangling flag negation operator"
  | flagDuplicate => "duplicate flag"
  | flagUnfinished => "expected flag but got end of regex"
  | flagUnknown => "unrecognized flag"
  | groupNameDuplicate => "duplicate capture group name"
  | groupNameEmpty => "empty capture group name"
  | groupNameInvalid => "invalid capture group character"
  | groupNameUnfinished => "unclosed capture group name"
  | groupUnclosed => "unclosed group"
  | groupUnopened => "unopened group"
  | nestedTooDeeply => "exceeded the maximum number of nested parentheses/brackets (250)"
  | repetitionMissing => "repetition operator missing expression"
  | boundaryUnclosed => "special word boundary assertion is unclosed or has an invalid character"
  | boundaryUnknown => "unrecognized special word boundary assertion"
  | propertyInvalid => "invalid Unicode character class"
  | propertyUnknown => "Unicode property not found"
  | backreference => "backreferences are not supported"
  | lookaround => "look-around, including look-ahead and look-behind, is not supported"
  | notUnicode => "Unicode not allowed here"
  | notText => "pattern can match invalid UTF-8"
  | tooLarge => "compiled regex exceeds size limit"

end WordGrammar.Regex
