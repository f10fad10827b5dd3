import MockScaffold.Number.Digits
import MockScaffold.Sample.Calendar
import MockScaffold.Text.Quoted

/-!
# What can be wrong with a YAML text

A text is *malformed* when its characters, its tokens, its structure or its tags are; a well-formed
text may still hold a scalar that *has no value*, such as the thirteenth month.  Numbers outside of
scalars can be without value too: that of an escaped character, and that of the language's version.
-/

namespace MockScaffold.Yaml

/-- A fault of form. -/
inductive Malformed where
  | unprintable
  | strayCharacter
  | directive
  | anchorName
  | tagName
  | blockIndicator
  | escape
  | unterminated
  | separatorInQuotes
  | missingColon
  | misplaced
  | unexpectedToken
  | undefinedHandle
  | repeatedDirective
  | version
  | repeatedAnchor
  | undefinedAlias
  | severalDocuments
  | unknownTag
  | kindOfNode
  | mergedValue
  | keyKind
  | binary
  | selfContaining
  deriving DecidableEq, Repr

def Malformed.message : Malformed → String
  | .unprintable => "special characters are not allowed"
  | .strayCharacter => "found character that cannot start any token"
  | .directive => "malformed directive"
  | .anchorName => "malformed anchor or alias name"
  | .tagName => "malformed tag"
  | .blockIndicator => "malformed block scalar header"
  | .escape => "unknown escape"
  | .unterminated => "found unexpected end of stream"
  | .separatorInQuotes => "found unexpected document separator"
  | .missingColon => "could not find expected ':'"
  | .misplaced => "entries, keys or values are not allowed here"
  | .unexpectedToken => "unexpected token"
  | .undefinedHandle => "found undefined tag handle"
  | .repeatedDirective => "found duplicate directive"
  | .version => "found incompatible YAML document"
  | .repeatedAnchor => "found duplicate anchor"
  | .undefinedAlias => "found undefined alias"
  | .severalDocuments => "expected a single document in the stream"
  | .unknownTag => "could not determine a constructor for the tag"
  | .kindOfNode => "the tag does not fit the kind of node"
  | .mergedValue => "expected a mapping or list of mappings for merging"
  | .keyKind => "found unhashable key"
  | .binary => "failed to decode base64 data"
  | .selfContaining => "found a value that contains itself"

/-- Why a scalar, or a number outside of scalars, has no value. -/
inductive ValueFault where
  /-- No text to take a sign or a digit from. -/
  | emptyNumber
  | integer (base : Nat) (text : String)
  | digits (o : DigitOverflow)
  | float (text : String)
  /-- A place of base sixty counts for more than any number. -/
  | floatUnit
  | bool (text : String)
  | notTimestamp
  /-- A mapping with a default value, where the text of a date is to be taken apart. -/
  | timestampMapping
  /-- A default value that leads back to the mapping it stands for. -/
  | endlessDefault
  | year
  | month
  | day
  | hour
  | minute
  | second
  | offset (minutes : Int)
  | codePoint (n : Nat)
  deriving DecidableEq, Repr

/-- A quotation cut after 200 characters. -/
def shortQuotation (s : String) : String :=
  String.ofList ((Text.quoted s).toList.take 200)

def ValueFault.message : ValueFault → String
  | .emptyNumber => "string index out of range"
  | .integer base text =>
    s!"invalid literal for int() with base {base}: {shortQuotation text}"
  | .digits o => o.message
  | .float text => s!"could not convert string to float: {Text.quoted text}"
  | .floatUnit => "int too large to convert to float"
  | .bool text => Text.quoted text
  | .notTimestamp => "'NoneType' object has no attribute 'groupdict'"
  | .timestampMapping => "expected string or bytes-like object, got 'list'"
  | .endlessDefault => "maximum recursion depth exceeded"
  | .year => "year 0 is out of range"
  | .month => "month must be in 1..12"
  | .day => "day is out of range for month"
  | .hour => "hour must be in 0..23"
  | .minute => "minute must be in 0..59"
  | .second => "second must be in 0..59"
  | .offset minutes =>
    "offset must be a timedelta strictly between -timedelta(hours=24) and timedelta(hours=24), not " ++
      spanText minutes ++ "."
  | .codePoint n =>
    if n < Nat.pow 2 31 then "chr() arg not in range(0x110000)"
    else "Python int too large to convert to C int"

/-- A fault of either kind. -/
inductive Fault where
  | malformed (m : Malformed)
  | value (v : ValueFault)
  deriving DecidableEq, Repr

end MockScaffold.Yaml
