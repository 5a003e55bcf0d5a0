import DiagnosticConsole.Host.Basic

/-!
# A text as an object

The module of a session has a name, and the name is a text, which has methods. A
text is listed with all of its attributes, and so is each of them; what lies
behind those is left out.
-/

namespace DiagnosticConsole

namespace TextObject

/-- The attributes of a text. -/
def textNames : List String :=
  ["__add__", "__class__", "__contains__", "__delattr__", "__dir__",
   "__doc__", "__eq__", "__format__", "__ge__", "__getattribute__",
   "__getitem__", "__getnewargs__", "__getstate__", "__gt__", "__hash__",
   "__init__", "__init_subclass__", "__iter__", "__le__", "__len__",
   "__lt__", "__mod__", "__mul__", "__ne__", "__new__", "__reduce__",
   "__reduce_ex__", "__repr__", "__rmod__", "__rmul__", "__setattr__",
   "__sizeof__", "__str__", "__subclasshook__", "capitalize", "casefold",
   "center", "count", "encode", "endswith", "expandtabs", "find",
   "format", "format_map", "index", "isalnum", "isalpha", "isascii",
   "isdecimal", "isdigit", "isidentifier", "islower", "isnumeric",
   "isprintable", "isspace", "istitle", "isupper", "join", "ljust",
   "lower", "lstrip", "maketrans", "partition", "removeprefix",
   "removesuffix", "replace", "rfind", "rindex", "rjust", "rpartition",
   "rsplit", "rstrip", "split", "splitlines", "startswith", "strip",
   "swapcase", "title", "translate", "upper", "zfill"]

/-- The attributes of a text that are bound operators. -/
def operatorNames : List String :=
  ["__add__", "__contains__", "__delattr__", "__eq__", "__ge__",
   "__getattribute__", "__getitem__", "__gt__", "__hash__", "__init__",
   "__iter__", "__le__", "__len__", "__lt__", "__mod__", "__mul__",
   "__ne__", "__repr__", "__rmod__", "__rmul__", "__setattr__", "__str__"]

/-- The attributes that methods and bound operators share. -/
def callableNames : List String :=
  ["__call__", "__class__", "__delattr__", "__dir__", "__doc__", "__eq__",
   "__format__", "__ge__", "__getattribute__", "__getstate__", "__gt__",
   "__hash__", "__init__", "__init_subclass__", "__le__", "__lt__",
   "__name__", "__ne__", "__new__", "__qualname__", "__reduce__",
   "__reduce_ex__", "__repr__", "__self__", "__setattr__", "__sizeof__",
   "__str__", "__subclasshook__", "__text_signature__"]

/-- An object whose attributes have none in turn. -/
def shallow (title : String) (names : List String) : HostObject where
  attributes := names.map fun name => (Text.ofString name, {})
  title := some (Text.ofString title)

/-- A text whose attributes are left bare. -/
def bareText : HostObject := shallow "'str' object" textNames

/-- The type of texts. -/
def textType : HostObject := shallow "type object 'str'" textNames

/-- A method of a text. -/
def method : HostObject :=
  shallow "'builtin_function_or_method' object" ("__module__" :: callableNames)

/-- A bound operator of a text. -/
def operator : HostObject :=
  shallow "'method-wrapper' object" ("__objclass__" :: callableNames)

/-- An attribute of a text by its name. -/
def part (name : String) : HostObject :=
  if name = "__class__" then textType
  else if name = "__doc__" then bareText
  else if operatorNames.contains name then operator
  else method

end TextObject

/-- A text as an object. -/
def HostObject.text : HostObject :=
  { TextObject.bareText with
    attributes := TextObject.textNames.map fun name =>
      (Text.ofString name, TextObject.part name) }

end DiagnosticConsole
