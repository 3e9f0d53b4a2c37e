import FieldQuery.Failure

/-!
# Attributes by name

What may be done with an attribute of a thing by its name alone. Names that start with an underscore
are no fields: they may be set and never show, apart from those that belong to the kind of the
thing.
-/

namespace FieldQuery.Attribute

/-- Whether a name starts with an underscore. -/
def isHidden (name : String) : Bool := name.toList.head? = some '_'

/-- The hidden names that cannot be set on a thing, although it has them. -/
def fixed : List String := ["__fields_set__", "__weakref__"]

/-- Sets a hidden attribute. The kind of a thing is no value, and all of its attributes together are
a dict. -/
def setHidden (name : String) (v : Value) : Except Failure Unit :=
  if fixed.contains name then .error .lacking
  else if name = "__class__" then .error .unfit
  else if name = "__dict__" then
    match v with
    | .dict _ => .ok ()
    | _ => .error .unfit
  else .ok ()

/-- The attributes that are computed from a thing and cannot be set. -/
def computed : List String := ["model_extra", "model_fields_set"]

/-- What any object has that is data. -/
def dataOfObjects : List String := ["__dict__", "__doc__", "__module__", "__weakref__"]

/-- The operations of any object that need an argument. -/
def operationsOfObjects : List String :=
  ["__eq__", "__ne__", "__lt__", "__le__", "__gt__", "__ge__", "__format__", "__getattribute__",
    "__setattr__", "__delattr__", "__reduce_ex__", "__new__"]

/-- The attributes of every kind of thing with fields that are data. -/
def data : List String :=
  dataOfObjects ++ computed ++ ["model_config", "model_fields", "model_computed_fields",
    "__fields_set__", "__slots__", "__annotations__"]

/-- The operations of every kind of thing with fields that answer with a new thing of the kind,
equal to the thing. -/
def copies : List String := ["copy", "model_copy", "__copy__", "__deepcopy__", "__replace__"]

/-- The operations of every kind of thing with fields that need an argument. -/
def withArgument : List String :=
  operationsOfObjects ++ ["model_validate", "model_validate_json", "model_validate_strings",
    "model_post_init", "model_parametrized_name", "parse_obj", "parse_raw", "parse_file",
    "from_orm", "validate", "__getattr__", "__setstate__", "__class_getitem__"]

/-- The operations of every kind of thing with fields that need no argument. -/
def operations : List String :=
  ["dict", "json", "schema", "schema_json", "construct", "update_forward_refs", "model_construct",
    "model_dump", "model_dump_json", "model_json_schema", "model_rebuild"]

/-- The names that the kinds of entities have before any field is declared. -/
def ofEntities : List String :=
  ["ref", "register", "mro"] ++ (data ++ copies ++ withArgument ++ operations).filter (!isHidden ·)

/-- Whether a name stands for something that cannot be called without an argument. -/
def isUncallable (name : String) : Bool := data.contains name || withArgument.contains name

end FieldQuery.Attribute
