import Workload.Text.Numeral

/-! What can go wrong in a conversion, as causes, with the wording in one place. -/
namespace Workload

inductive FieldError where
  | invalidNumber (value : String)
  | segmentCount (value : String) (found : Nat)
  | empty
  | unsupportedShape (expected found : String)
  | unknownProtocol (value : String)
  | invalidQuantity (value : String)
  | invalidDuration (value : String)
  | unknownPortName (name : String)
deriving DecidableEq, Repr

namespace FieldError

def message : FieldError → String
  | invalidNumber value => "'" ++ value ++ "' is not a valid number"
  | segmentCount value found =>
    "'" ++ value ++ "' has " ++ numeral found ++ " ':'-separated parts, expected 1 to 3"
  | empty => "value is empty"
  | unsupportedShape expected found => "expected " ++ expected ++ ", found " ++ found
  | unknownProtocol value => "unknown protocol '" ++ value ++ "', expected tcp or udp"
  | invalidQuantity value => "'" ++ value ++ "' is not a valid quantity"
  | invalidDuration value => "'" ++ value ++ "' is not a valid duration"
  | unknownPortName name => "port name '" ++ name ++ "' is not declared by the container"

end FieldError

inductive Direction where
  | input
  | output
deriving DecidableEq, Repr

def Direction.name : Direction → String
  | input => "input"
  | output => "output"

inductive Flaw where
  /-- The text is not well formed, or does not fit the shape of its format. -/
  | unparsable
  | wrongKind (found : String)
  | groupLabel (reason : FieldError)
deriving DecidableEq, Repr

def Flaw.message : Flaw → String
  | unparsable => "<parser>"
  | wrongKind found => "expected kind Pod, found " ++ found
  | groupLabel reason => "metadata.labels: " ++ reason.message

inductive ConversionError where
  | structural (format : String) (flaw : Flaw)
  | fieldDecode (format container field : String) (reason : FieldError)
  | unknownFormat (direction : Direction) (name : String) (available : List String)
  | duplicateContainer (format name : String)
  | invalidUtf8
deriving DecidableEq, Repr

namespace ConversionError

def message : ConversionError → String
  | structural format flaw => format ++ ": document could not be parsed: " ++ flaw.message
  | fieldDecode format container field _ =>
    format ++ ": container '" ++ container ++ "' has an invalid '" ++ field ++ "' field"
  | unknownFormat direction name _ => "unknown " ++ direction.name ++ " format '" ++ name ++ "'"
  | duplicateContainer format name => format ++ ": duplicate container name '" ++ name ++ "'"
  | invalidUtf8 => "I/O error: stream did not contain valid UTF-8"

def code : ConversionError → String
  | structural .. => "podshift::structural"
  | fieldDecode .. => "podshift::field_decode"
  | unknownFormat .. => "podshift::unknown_format"
  | duplicateContainer .. => "podshift::duplicate_container"
  | invalidUtf8 => "podshift::io"

def help : ConversionError → Option String
  | structural .. => some "Check that the input is valid for the selected input format"
  | unknownFormat direction _ available =>
    some ("Available " ++ direction.name ++ " formats: " ++ ", ".intercalate available)
  | duplicateContainer .. =>
    some "Container names must be unique within a pod, task or compose file"
  | fieldDecode .. | invalidUtf8 => none

end ConversionError

/-- A result of decoding one field of a container, with any error put in its place. -/
def inField (format container field : String) (result : Except FieldError α) :
    Except ConversionError α :=
  result.mapError (.fieldDecode format container field)

end Workload
