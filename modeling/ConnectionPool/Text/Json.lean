set_option autoImplicit false

/-! # JSON text

Objects in compact form: the fields stand in the given order, and there are no blanks. -/

namespace ConnectionPool

namespace Text

/-- An object with the given fields. The values are JSON already, and the names hold no character
that would have to be escaped. -/
def jsonObject (fields : List (String × String)) : String :=
  "\x7b" ++ ",".intercalate (fields.map fun field => "\"" ++ field.1 ++ "\":" ++ field.2) ++ "\x7d"

end Text

end ConnectionPool
