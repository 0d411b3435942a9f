import MailTemplate.Text.Printable
import MailTemplate.Json.Value

/-! Why a text is not read: it stops being JSON, or it is JSON of another form than is asked
for. -/

namespace MailTemplate.Json

/-- How a text stops being JSON. -/
inductive Fault where
  | endInValue
  /-- The text ends in one of the words `null`, `true` and `false`. -/
  | endInWord
  | endInString
  | endInList
  | endInObject
  | valueExpected
  | wordExpected
  | colonExpected
  | listSeparatorExpected
  | objectSeparatorExpected
  | keyExpected
  | trailingComma
  | trailingCharacters
  | invalidNumber
  | numberOutOfRange
  | invalidEscape
  | loneSurrogate
  | unfinishedSurrogates
  | controlCharacter
  | tooDeep
  deriving DecidableEq, Inhabited

/-- What stands in a text in place of what is asked for. -/
inductive Found where
  | null
  | bool (b : Bool)
  | number (n : Number)
  | string (text : String)
  | array
  | object

inductive Error where
  | malformed (fault : Fault)
  | wrongType (found : Found) (wanted : String)
  /-- A number of the right type that is out of range. -/
  | wrongValue (found : Found) (wanted : String)
  | wrongLength (length : Nat) (wanted : String)
  | missingField (name : String)
  | duplicateField (name : String)
  | unknownVariant (name : String) (known : List String)

def Fault.message : Fault → String
  | endInValue | endInWord => "EOF while parsing a value"
  | endInString => "EOF while parsing a string"
  | endInList => "EOF while parsing a list"
  | endInObject => "EOF while parsing an object"
  | valueExpected => "expected value"
  | wordExpected => "expected ident"
  | colonExpected => "expected `:`"
  | listSeparatorExpected => "expected `,` or `]`"
  | objectSeparatorExpected => "expected `,` or `\x7d`"
  | keyExpected => "key must be a string"
  | trailingComma => "trailing comma"
  | trailingCharacters => "trailing characters"
  | invalidNumber => "invalid number"
  | numberOutOfRange => "number out of range"
  | invalidEscape => "invalid escape"
  | loneSurrogate => "lone leading surrogate in hex escape"
  | unfinishedSurrogates => "unexpected end of hex escape"
  | controlCharacter => "control character (\\u0000-\\u001F) found while parsing a string"
  | tooDeep => "recursion limit exceeded"

/-- A name or number in a message. -/
def ticked (text : String) : String :=
  "`" ++ text ++ "`"

def Found.message : Found → String
  | null => "null"
  | bool b => "boolean " ++ ticked (if b then "true" else "false")
  | number (.float x) => "floating point " ++ ticked (Number.float x).text
  | number n => "integer " ++ ticked n.text
  | string text => "string " ++ Text.quoted text
  | array => "sequence"
  | object => "map"

def Error.message : Error → String
  | malformed fault => fault.message
  | wrongType found wanted => "invalid type: " ++ found.message ++ ", expected " ++ wanted
  | wrongValue found wanted => "invalid value: " ++ found.message ++ ", expected " ++ wanted
  | wrongLength length wanted =>
    "invalid length " ++ Decimal.Layout.digitsOf length ++ ", expected " ++ wanted
  | missingField name => "missing field " ++ ticked name
  | duplicateField name => "duplicate field " ++ ticked name
  | unknownVariant name known =>
    "unknown variant " ++ ticked name ++ ", expected one of " ++
      ", ".intercalate (known.map ticked)

end MailTemplate.Json
