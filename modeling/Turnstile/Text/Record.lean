/-!
# Records in one line

`record "Flag" [("set", "true")]` is the line in which a record is shown for
inspection: its name, and its fields in order between braces.
-/

namespace Turnstile.Text

set_option autoImplicit false

def record (name : String) (fields : List (String × String)) : String :=
  let shown := fields.map fun (field, value) => s!"{field}: {value}"
  name ++ " \x7b " ++ ", ".intercalate shown ++ " \x7d"

end Turnstile.Text
