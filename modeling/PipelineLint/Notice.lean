import PipelineLint.Settings.Environment

set_option autoImplicit false

namespace PipelineLint

inductive Notice where
  | unknownSetting (key : Scalar)
  | badSwitch (name : String) (fault : Environment.SwitchFault)
  | missingFile (path : String)
  | serviceUnavailable (reason : String)
deriving DecidableEq

def settingsPathVariable : String := "PIPECHECK_CONFIG_PATH"

def Notice.message : Notice → String
  | .unknownSetting key => "Ignoring unknown configuration key " ++ key.literal
  | .badSwitch name fault => "Invalid " ++ name ++ " value: " ++ fault.message
  | .missingFile path => settingsPathVariable ++ " set but file not found: " ++ path
  | .serviceUnavailable reason => "External validator unavailable, failing open: " ++ reason

end PipelineLint
