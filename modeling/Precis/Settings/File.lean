import Precis.Error
import Precis.Settings.Environment
import Precis.Settings.Json
import Precis.Text.Utf8

/-!
Loading settings: from a file, if one is named, with the environment on top.
-/

namespace Precis.Settings

/-- Reads the settings that a file holds. There are no bytes if there is no file. -/
def ofFile (path : Text) : Option Bytes → Except Error Settings
  | none => .error (.io "No such file or directory (os error 2)".toList)
  | some bytes =>
      match Utf8.decode? bytes with
      | none => .error (.io "stream did not contain valid UTF-8".toList)
      | some text =>
          match ofText? text with
          | none => .error (.config (path ++ ": not a settings file".toList))
          | some s => .ok s

def loadFile (path : Text) (file : Option Bytes) (e : Environment) : Except Error Settings :=
  (ofFile path file).map (·.withEnvironment e)

def ofEnvironment (e : Environment) : Settings :=
  withEnvironment {} e

end Precis.Settings
