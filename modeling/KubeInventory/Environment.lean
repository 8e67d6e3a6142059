import KubeInventory.Dict
import KubeInventory.File.Path

/-! The environment of the program and the place of its settings in it. -/

namespace KubeInventory

structure Environment where
  values : Dict String String
  /-- The home folder that the system has on record for the account. -/
  accountHome : Option String

namespace Environment

def get? (e : Environment) (name : String) : Option String := e.values.get? name

/-- The home folder: that of the environment, or else that of the account. -/
def home? (e : Environment) : Option String :=
  match e.get? "HOME" with
  | some "" | none => e.accountHome
  | some home => some home

/-- The folder of the user's settings. -/
def userConfigDir (e : Environment) : String :=
  (e.get? "XDG_CONFIG_HOME").getD (Path.join (e.home?.getD ".") ".config")

/-- The folder of the program's settings. One that the environment names counts even if it is empty.
-/
def configDir (e : Environment) : String :=
  (e.get? "KUBE_INVENTORY_CONFIG_DIR").getD (Path.join e.userConfigDir "kube-inventory")

/-- The settings file that is always read. -/
def rootConfigPath (e : Environment) : String := Path.join e.configDir "config.yaml"

end Environment

end KubeInventory
