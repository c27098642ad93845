/-!
# Named numbers

The enumerations of the subscription messages.  A message holds any 32-bit number in their place;
the numbers listed here have names.
-/

namespace PbrTelemetry

inductive Encoding where
  | json
  | bytes
  | proto
  /-- Text of a format agreed upon elsewhere. -/
  | ascii
  | jsonIetf
  deriving DecidableEq, Repr, Inhabited

namespace Encoding

def all : List Encoding := [json, bytes, proto, ascii, jsonIetf]

def number : Encoding → Int32
  | json => 0
  | bytes => 1
  | proto => 2
  | ascii => 3
  | jsonIetf => 4

def name : Encoding → String
  | json => "JSON"
  | bytes => "BYTES"
  | proto => "PROTO"
  | ascii => "ASCII"
  | jsonIetf => "JSON_IETF"

def ofNumber? (n : Int32) : Option Encoding := all.find? fun e => e.number = n

def ofName? (text : String) : Option Encoding := all.find? fun e => e.name = text

/-- Whether notifications in this encoding can be decoded. -/
def isSupported : Encoding → Bool
  | proto | jsonIetf => true
  | _ => false

end Encoding

inductive SubscriptionMode where
  | targetDefined
  | onChange
  | sample
  deriving DecidableEq, Repr, Inhabited

namespace SubscriptionMode

def all : List SubscriptionMode := [targetDefined, onChange, sample]

def number : SubscriptionMode → Int32
  | targetDefined => 0
  | onChange => 1
  | sample => 2

def name : SubscriptionMode → String
  | targetDefined => "TARGET_DEFINED"
  | onChange => "ON_CHANGE"
  | sample => "SAMPLE"

def ofNumber? (n : Int32) : Option SubscriptionMode := all.find? fun m => m.number = n

def ofName? (text : String) : Option SubscriptionMode := all.find? fun m => m.name = text

end SubscriptionMode

inductive ListMode where
  | stream
  | once
  /-- Until it is closed, values being sent on demand. -/
  | poll
  deriving DecidableEq, Repr, Inhabited

namespace ListMode

def all : List ListMode := [stream, once, poll]

def number : ListMode → Int32
  | stream => 0
  | once => 1
  | poll => 2

def name : ListMode → String
  | stream => "STREAM"
  | once => "ONCE"
  | poll => "POLL"

def ofNumber? (n : Int32) : Option ListMode := all.find? fun m => m.number = n

def ofName? (text : String) : Option ListMode := all.find? fun m => m.name = text

end ListMode

end PbrTelemetry
