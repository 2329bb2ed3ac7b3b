import PowerClass.Codec
import PowerClass.Disk.Error
import PowerClass.Property

/-!
# PowerClass.Supply.Error

What a device reports when it cannot answer, and what a caller of the attribute surface is told.
The first is classified into the second: no data, or nothing for now, which a snapshot leaves out,
or a failure of the device.
-/

namespace PowerClass

/-- Why a device does not give or take a value. -/
inductive DeviceError where
  | noData
  | notPresent
  | busy
  | notSupported
  | invalidValue (error : CodecError)
  | io (error : FileError)
  | other (text : String)
  deriving DecidableEq

namespace DeviceError

def message : DeviceError → String
  | .noData => "no data available"
  | .notPresent => "device not present"
  | .busy => "resource temporarily unavailable"
  | .notSupported => "operation not supported"
  | .invalidValue error => "driver returned an unusable value: " ++ error.message
  | .io error => "I/O error: " ++ error.message
  | .other text => text

/-- The messages of an error and of what caused it, outermost first. -/
def causes : DeviceError → List String
  | .invalidValue error => [message (.invalidValue error), error.message]
  | .io error => [message (.io error), error.message]
  | error => [error.message]

def ofFile : FileError → DeviceError
  | .noData => .noData
  | .noDevice => .notPresent
  | .tryAgain => .busy
  | error => .io error

end DeviceError

/-- Why a property or an attribute cannot be read or written. -/
inductive AccessError where
  | noData
  | temporarilyUnavailable
  | deviceFailure (error : DeviceError)
  | invalidInput (error : CodecError)
  | allocationFailure
  | unknownProperty (id : PropertyId)
  | unknownAttribute (name : String)
  | readOnly (name : String)
  deriving DecidableEq

namespace AccessError

def message : AccessError → String
  | .noData => "no data available"
  | .temporarilyUnavailable => "temporarily unavailable"
  | .deviceFailure error => "device failure: " ++ error.message
  | .invalidInput error => "invalid input: " ++ error.message
  | .allocationFailure => "out of memory"
  | .unknownProperty id => "unknown property " ++ id.display
  | .unknownAttribute name => "no attribute named `" ++ name ++ "`"
  | .readOnly name => "attribute `" ++ name ++ "` is read-only"

/-- The messages of an error and of what caused it, outermost first. -/
def causes : AccessError → List String
  | .deviceFailure error => message (.deviceFailure error) :: error.causes
  | .invalidInput error => [message (.invalidInput error), error.message]
  | error => [error.message]

/-- Whether a snapshot goes on without the property. -/
def isSkippable : AccessError → Bool
  | .noData | .temporarilyUnavailable => true
  | _ => false

def ofDevice : DeviceError → AccessError
  | .noData => .noData
  | .notPresent | .busy => .temporarilyUnavailable
  | error => .deviceFailure error

end AccessError
end PowerClass
