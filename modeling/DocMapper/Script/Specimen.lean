import DocMapper.Value.Basic

/-!
Objects that scripts name and that are declared nowhere: two structs, and objects that convert in
one odd way each.
-/

namespace DocMapper.Script

/-- The fields of a named kind of object. -/
def fieldNames : String → List String
  | "Address" => ["city", "zipcode"]
  | "Box" => ["value"]
  | "LegacyDump" => ["x"]
  | "BothDump" => ["x", "y"]
  | "ToJson" => ["x"]
  | "Raiser" => ["kind", "msg"]
  | _ => []

/-- The object that a name and its arguments describe. -/
def specimen (name : String) (args : List Value) : Shape :=
  let kind := if name = "Address" || name = "Box" then RecordKind.struct else .specimen
  .record kind (.known name) (((fieldNames name).map Value.str).zip args)

end DocMapper.Script
