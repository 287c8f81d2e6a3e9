import DonationPage.Decimal.Shortest
import DonationPage.Text.Quoted
import DonationPage.Text.Utf8
/-! What can be wrong with a JSON text, where it is wrong, and the message that says so. -/
namespace DonationPage.Json

inductive Scalar where
  | null
  | bool (b : Bool)
  | int (n : Int)
  | float (x : Float)
  | text (s : String)

inductive Found where
  | scalar (s : Scalar)
  | list
  | object

inductive Expected where
  | text
  | int64
  | uint64
  | list
  | object
  | record (name : String)
  | null

inductive Cause where
  | endInValue
  | endInList
  | endInObject
  | endInText
  | expectedValue
  | expectedWord
  | invalidNumber
  | numberOutOfRange
  | keyNotText
  | expectedColon
  | expectedCommaOrBrace
  | expectedCommaOrBracket
  | trailingComma
  | trailingCharacters
  | controlCharacter
  | invalidEscape
  | unfinishedSurrogatePair
  | loneSurrogate
  | tooDeep
  | wrongType (found : Found) (expected : Expected)
  | wrongInteger (n : Int) (expected : Expected)
  | wrongLength (length : Nat) (record : String) (size : Nat)
  | missingField (name : String)
  | duplicateField (name : String)
  | unknownVariant (name : String) (known : List String)

def backquoted (text : String) : String := "`" ++ text ++ "`"

def intText (n : Int) : String := String.ofList (intDigits n)

def Scalar.message : Scalar → String
  | null => "null"
  | bool b => "boolean " ++ backquoted (if b then "true" else "false")
  | int n => "integer " ++ backquoted (intText n)
  | float x => "floating point " ++ backquoted (String.ofList (floatText x))
  | text s => "string " ++ quote s

def Found.message : Found → String
  | scalar s => s.message
  | list => "sequence"
  | object => "map"

def Expected.message : Expected → String
  | text => "a string"
  | int64 => "i64"
  | uint64 => "u64"
  | list => "a sequence"
  | object => "a map"
  | record name => "struct " ++ name
  | null => "unit"

def offer : List String → String
  | [a] => backquoted a
  | [a, b] => backquoted a ++ " or " ++ backquoted b
  | names => "one of " ++ ", ".intercalate (names.map backquoted)

def Cause.message : Cause → String
  | endInValue => "EOF while parsing a value"
  | endInList => "EOF while parsing a list"
  | endInObject => "EOF while parsing an object"
  | endInText => "EOF while parsing a string"
  | expectedValue => "expected value"
  | expectedWord => "expected ident"
  | invalidNumber => "invalid number"
  | numberOutOfRange => "number out of range"
  | keyNotText => "key must be a string"
  | expectedColon => "expected `:`"
  | expectedCommaOrBrace => "expected `,` or `\x7d`"
  | expectedCommaOrBracket => "expected `,` or `]`"
  | trailingComma => "trailing comma"
  | trailingCharacters => "trailing characters"
  | controlCharacter => "control character (\\u0000-\\u001F) found while parsing a string"
  | invalidEscape => "invalid escape"
  | unfinishedSurrogatePair => "unexpected end of hex escape"
  | loneSurrogate => "lone leading surrogate in hex escape"
  | tooDeep => "recursion limit exceeded"
  | wrongType found expected => "invalid type: " ++ found.message ++ ", expected " ++ expected.message
  | wrongInteger n expected =>
    "invalid value: integer " ++ backquoted (intText n) ++ ", expected " ++ expected.message
  | wrongLength length record size =>
    "invalid length " ++ intText length ++ ", expected struct " ++ record ++ " with " ++
      intText size ++ (if size = 1 then " element" else " elements")
  | missingField name => "missing field " ++ backquoted name
  | duplicateField name => "duplicate field " ++ backquoted name
  | unknownVariant name known =>
    "unknown variant " ++ backquoted name ++ ", expected " ++ offer known

/-- A place in a text, by line and by bytes since the start of the line. -/
structure Place where
  line : Nat
  column : Nat
deriving DecidableEq

/-- The place that so many bytes of text lead to; it may lie inside a character. -/
def Place.advance (p : Place) : List Char → Nat → Place
  | [], _ => p
  | c :: cs, bytes =>
    if bytes < c.utf8Size then ⟨p.line, p.column + bytes⟩
    else
      Place.advance (if c = '\n' then ⟨p.line + 1, 0⟩ else ⟨p.line, p.column + c.utf8Size⟩) cs
        (bytes - c.utf8Size)

def Place.after (cs : List Char) (bytes : Nat) : Place :=
  Place.advance ⟨1, 0⟩ cs bytes

def Place.message (p : Place) : String :=
  " at line " ++ intText p.line ++ " column " ++ intText p.column

structure Error where
  cause : Cause
  place : Option Place

def Error.message (e : Error) : String :=
  e.cause.message ++ (e.place.map Place.message).getD ""

end DonationPage.Json
