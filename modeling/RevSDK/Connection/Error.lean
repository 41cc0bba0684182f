/-!
# Errors

An `rs::Error` is a code, a domain and a dictionary with the description.
-/

namespace RevSDK

def noErrorCode : Int := -10000

def errorDescriptionKey : String := "NSLocalizedDescription"

structure Error where
  code : Int := noErrorCode
  domain : String := ""
  userInfo : List (String × String) := []
  deriving DecidableEq

namespace Error

def setDescription (error : Error) (aDescription : String) : Error :=
  { error with
    userInfo := (errorDescriptionKey, aDescription) ::
      error.userInfo.filter fun entry => entry.1 != errorDescriptionKey }

def isNoError (error : Error) : Bool := error.code == noErrorCode

end Error

end RevSDK
