import RuleFit.Calendar
import RuleFit.Text.Utf8
import RuleFit.Text.Whole

/-!
# Faults of YAML documents

A document can fail in three ways. It may have a flaw as a document: a text that is not put together
as YAML demands, or nodes that do not fit together. It may hold a scalar that is spelled like a
number or a date and still names none. And its bytes may be no text at all.
-/

namespace RuleFit.Yaml

/-- What keeps a text from being a document. -/
inductive Flaw where
  | unprintable
  | unexpected
  | colonMissing
  | notAllowedHere
  | badEscape
  | badTag
  | badDirective
  | unknownHandle
  | unknownAlias
  | anchorTwice
  | severalDocuments
  | unknownTag
  | wrongShape
  | badMerge
  | notKey
  | badBytes
  | tooDeep
  deriving DecidableEq

/-- What keeps the text of a scalar from having a value of its kind, or from being come to at all:
`endless` says that nodes go too deep, or round in circles. -/
inductive ScalarFault where
  | whole (fault : Text.WholeFault)
  | noDigits
  | number (text : Text)
  | tooLarge
  | truth (word : Text)
  | moment
  | momentOfMapping
  | endless
  | calendar (fault : CalendarFault)
  | codePoint
  | hugeCodePoint
  deriving DecidableEq

def ScalarFault.message : ScalarFault → Text
  | .whole f => f.message
  | .noDigits => "string index out of range"
  | .number text => "could not convert string to float: " ++ text.quoted
  | .tooLarge => "int too large to convert to float"
  | .truth word => word.quoted
  | .moment => "'NoneType' object has no attribute 'groupdict'"
  | .momentOfMapping => "expected string or bytes-like object, got 'list'"
  | .endless => "maximum recursion depth exceeded"
  | .calendar f => f.message
  | .codePoint => "chr() arg not in range(0x110000)"
  | .hugeCodePoint => "Python int too large to convert to C int"

/-- Whether a fault says that a text names no value, and not that the reading of it broke off. -/
def ScalarFault.saysNoValue : ScalarFault → Bool
  | .whole _ | .number _ | .calendar _ | .codePoint => true
  | .noDigits | .tooLarge | .truth _ | .moment | .momentOfMapping | .endless | .hugeCodePoint =>
    false

/-- Why there is no value. -/
inductive Fault where
  | flaw (flaw : Flaw)
  | scalar (fault : ScalarFault)
  | encoding (fault : Text.Utf8Fault)
  deriving DecidableEq

end RuleFit.Yaml
