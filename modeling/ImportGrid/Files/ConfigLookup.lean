/-
Looking up configuration files.

The configuration of a folder is in the file `import-layout.toml` of that folder or of the
nearest folder above it.  A file that is named explicitly goes before.
-/
import ImportGrid.ConfigFile
import ImportGrid.Files.Disk

namespace ImportGrid

/-- The name of configuration files. -/
def configFileName : Text := "import-layout.toml".toList

/-- Why a configuration cannot be loaded. -/
inductive LoadFault where
  /-- The file is missing, is a folder, or holds no text. -/
  | unreadable (path : Text)
  /-- The file is no configuration. -/
  | invalid (path : Text) (fault : ConfigFault)
deriving Repr, DecidableEq

namespace LoadFault

/-- The message for a fault without its cause. -/
def heading : LoadFault → Text
  | unreadable path => "Failed to read config file: ".toList ++ path
  | invalid path _ => "Invalid config file: ".toList ++ path

/-- The message for a fault. -/
def message : LoadFault → Text
  | unreadable path => heading (.unreadable path)
  | invalid path fault => heading (.invalid path fault) ++ ": ".toList ++ fault.message

end LoadFault

namespace Disk

/-- The configuration file nearest to a path.  The folders above it are those that its text
names, ending with the root or the current folder. -/
def configFile? (d : Disk) (path : Text) : Option Text :=
  ((Path.ancestors path).map (Path.join · configFileName)).find? d.isFile

/-- The configuration in a file. -/
def configAt (d : Disk) (path : Text) : Except LoadFault Config :=
  match d.read path with
  | .error _ => .error (.unreadable path)
  | .ok t =>
    match Config.ofText t with
    | .ok c => .ok c
    | .error fault => .error (.invalid path fault)

/-- The configuration for a path: that of the explicit file, else that of the nearest file,
else the default. -/
def config (d : Disk) (explicit : Option Text) (path : Text) : Except LoadFault Config :=
  match explicit.or (d.configFile? path) with
  | some file => d.configAt file
  | none => .ok .default

end Disk

end ImportGrid
