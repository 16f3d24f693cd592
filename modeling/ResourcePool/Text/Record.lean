/-! Text of a value with named fields. -/
namespace ResourcePool.Text

def record (name : String) (fields : List (String × String)) : String :=
  name ++ " \x7b " ++ ", ".intercalate (fields.map fun (field, value) => field ++ ": " ++ value)
    ++ " \x7d"

def list (items : List String) : String := "[" ++ ", ".intercalate items ++ "]"

/-- An object of whole numbers in JSON. -/
def numberObject (fields : List (String × Nat)) : String :=
  "\x7b" ++ ",".intercalate (fields.map fun (field, n) => s!"\"{field}\":{n}") ++ "\x7d"

end ResourcePool.Text
