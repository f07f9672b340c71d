import ViewCases.Text.Quoted
import ViewCases.Text.Utf8

/-! What keeps a text from being a YAML document of plain data. Most faults are faults
of the document; the others come from scalars that ask for a value which does not exist. -/
namespace ViewCases.Yaml
open Text

inductive Fault
  /-- The text breaks the rules of YAML, or a node has no plain value. -/
  | unreadable
  /-- A scalar has the form of a value that does not exist. -/
  | noSuchValue (message : Text)
  /-- A number is too large for its kind. -/
  | tooLarge
  /-- A truth value is none of the known words. -/
  | unknownTruth
  /-- A number without any digit. -/
  | emptyNumber
  /-- A text that is no date or time was to be one. -/
  | notAMoment
  /-- A mapping was to be a date or time. -/
  | momentOfMapping
  /-- Nodes are nested too deep. -/
  | tooDeep
  deriving DecidableEq, Repr

namespace Fault

def message : Fault → Text
  | .unreadable => "the configuration file is malformed"
  | .noSuchValue message => message
  | .tooLarge => "number too large"
  | .unknownTruth => "unknown truth value"
  | .emptyNumber => "number without digits"
  | .notAMoment => "'NoneType' object has no attribute 'groupdict'"
  | .momentOfMapping => "a mapping is no date or time"
  | .tooDeep => "nodes are nested too deep"

def mostDigits : Nat := 4300

def tooManyDigits (count : Nat) : Fault :=
  .noSuchValue ("Exceeds the limit (" ++ decimal mostDigits ++
    " digits) for integer string conversion: value has " ++ decimal count ++
    " digits; use sys.set_int_max_str_digits() to increase the limit")

/-- A text is no integer in the base. Long texts are cut. -/
def notAnInteger (base : Nat) (t : Text) : Fault :=
  .noSuchValue ("invalid literal for int() with base " ++ decimal base ++ ": " ++
    (quoted t).take 200)

def notANumber (t : Text) : Fault :=
  .noSuchValue ("could not convert string to float: " ++ quoted t)

def notWhole : Fault :=
  .noSuchValue "half of a pair of surrogates is no part of a number"

end Fault

/-- Why reading stops: at a fault, or where it needs text that cannot be had. -/
inductive Stop
  | fault (fault : Fault)
  | cut
  deriving DecidableEq, Repr

/-- Why a file holds no data. -/
inductive LoadFault
  | notUtf8 (fault : Utf8.Fault)
  | unusable (fault : Fault)
  deriving DecidableEq, Repr

end ViewCases.Yaml
