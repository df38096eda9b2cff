import TreePath.Regex.Property
import TreePath.Regex.Reader

/-!
# Regular expressions with the properties of Unicode

Reading a regular expression does not depend on what the names of properties mean. Here they get the meanings by which the
command goes.
-/

namespace TreePath

instance : Regex.UnicodeProperties where
  find? := Regex.Property.find?

end TreePath
