import ProxyMesh.Json.Printer
import ProxyMesh.Text.Quoted

/-!
# What is wrong with a JSON text

* `Cause`          the rule that is broken;
* `Stop`           a cause and how far the text was read when it came up;
* `Fault`          a cause with line and column, `Fault.message` what is said about it;
* `Stop.locate`    the place of a stop: lines are counted from 1, columns in bytes.
-/

namespace ProxyMesh.Json

inductive Cause where
  | listUnclosed
  | objectUnclosed
  | textUnclosed
  | valueMissing
  | colonExpected
  | listCommaExpected
  | objectCommaExpected
  | wordExpected
  | valueExpected
  | badEscape
  | badNumber
  | numberTooBig
  /-- a high surrogate without an escape after it -/
  | escapeUnpaired
  | surrogateAlone
  | controlCharacter
  | keyNotText
  | commaAtEnd
  | textAtEnd
  | tooDeep
  | missingField (name : String)
  | repeatedField (name : String)
  | wrongLength (length : Nat) (expected : String)
  | wrongType (found expected : String)
  | wrongValue (found expected : String)
  | unknownWord (word : String) (choices : List String)
deriving DecidableEq, Repr

/-- a name between grave accents -/
def accented (name : String) : String := "\x60" ++ name ++ "\x60"

/-- one of the choices -/
def choicesText : List String → String
  | [] => "nothing"
  | [a] => accented a
  | [a, b] => accented a ++ " or " ++ accented b
  | choices => "one of " ++ ", ".intercalate (choices.map accented)

def Cause.message : Cause → String
  | .listUnclosed => "EOF while parsing a list"
  | .objectUnclosed => "EOF while parsing an object"
  | .textUnclosed => "EOF while parsing a string"
  | .valueMissing => "EOF while parsing a value"
  | .colonExpected => "expected " ++ accented ":"
  | .listCommaExpected => "expected " ++ accented "," ++ " or " ++ accented "]"
  | .objectCommaExpected => "expected " ++ accented "," ++ " or " ++ accented "\x7d"
  | .wordExpected => "expected ident"
  | .valueExpected => "expected value"
  | .badEscape => "invalid escape"
  | .badNumber => "invalid number"
  | .numberTooBig => "number out of range"
  | .escapeUnpaired => "unexpected end of hex escape"
  | .surrogateAlone => "lone leading surrogate in hex escape"
  | .controlCharacter =>
    "control character (\\u0000-\\u001F) found while parsing a string"
  | .keyNotText => "key must be a string"
  | .commaAtEnd => "trailing comma"
  | .textAtEnd => "trailing characters"
  | .tooDeep => "recursion limit exceeded"
  | .missingField name => "missing field " ++ accented name
  | .repeatedField name => "duplicate field " ++ accented name
  | .wrongLength length expected =>
    "invalid length " ++ toString length ++ ", expected " ++ expected
  | .wrongType found expected => "invalid type: " ++ found ++ ", expected " ++ expected
  | .wrongValue found expected => "invalid value: " ++ found ++ ", expected " ++ expected
  | .unknownWord word choices =>
    "unknown variant " ++ accented word ++ ", expected " ++ choicesText choices

/-- the reading stopped `beyond` bytes into `rest` -/
structure Stop where
  cause : Cause
  rest : List Char
  beyond : Nat
deriving DecidableEq, Repr

structure Fault where
  cause : Cause
  line : Nat
  column : Nat
deriving DecidableEq, Repr

def Fault.message (f : Fault) : String :=
  f.cause.message ++ " at line " ++ toString f.line ++ " column " ++ toString f.column

/-- line and column after these bytes -/
def placeAfter (bytes : List UInt8) : Nat × Nat :=
  bytes.foldl (fun (place : Nat × Nat) b =>
    if b = 10 then (place.1 + 1, 0) else (place.1, place.2 + 1)) (1, 0)

def Stop.locate (text : String) (s : Stop) : Fault :=
  let bytes := text.toUTF8.toList
  let offset := bytes.length - (String.ofList s.rest).utf8ByteSize + s.beyond
  let (line, column) := placeAfter (bytes.take offset)
  ⟨s.cause, line, column⟩

example : (Stop.locate "[1,\n 2 x" ⟨.listCommaExpected, ['x'], 1⟩).message =
    "expected `,` or `]` at line 2 column 4" := by decide +kernel

end ProxyMesh.Json
