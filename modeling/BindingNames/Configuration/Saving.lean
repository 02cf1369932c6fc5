import BindingNames.Configuration.Places
import BindingNames.Document.Writing

/-!
Saving of a configuration. The file is a document with the settings under their own keys; those
without a value are left out.
-/

namespace BindingNames.Configuration

def isNull : Value → Bool
  | .scalar .null => true
  | _ => false

def savedFields (c : Configuration) : Fields :=
  c.toFields.filter fun f => !isNull f.2

def savedText (c : Configuration) : Text :=
  Document.write c.savedFields

/-- Saves the configuration. The file is empty if there is something in it that cannot be
written. -/
def save (d : Disk) (c : Configuration) (path : Text) : Disk × Logged Unit :=
  let fault := Document.writingFault? c.savedFields
  let text := if fault.isSome then [] else c.savedText
  match d.placeFile (Path.ofText path) (.text text), fault with
  | .error e, _ => (d, Logged.fail (.file e))
  | .ok d, some fault => (d, Logged.fail (.document fault))
  | .ok d, none => (d, Logged.tell logger Level.info ("Configuration saved to " ++ path))

end BindingNames.Configuration
