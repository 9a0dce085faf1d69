import ServiceStubs.Source.StandardClass

/-!
# Attributes of standard classes

The names of the attributes that each class of the standard library has of its own, in the order
in which the class has them. Of most of them nothing but the name matters.
-/

namespace ServiceStubs.Source.StandardClass

/-- The names of the attributes of exceptions, with blanks between them. -/
def exceptionAttributes : List (String × String) := [
  ("BaseException", "__new__ __repr__ __str__ __getattribute__ __setattr__ __delattr__ __init__ " ++
    "__reduce__ __setstate__ with_traceback add_note __suppress_context__ __dict__ args " ++
    "__traceback__ __context__ __cause__ __doc__"),
  ("BaseExceptionGroup",
    "__new__ __str__ __init__ __class_getitem__ derive split subgroup message exceptions " ++
    "__doc__"),
  ("OSError", "__new__ __str__ __init__ __reduce__ errno strerror filename filename2 " ++
    "characters_written __doc__"),
  ("SyntaxError", "__str__ __init__ msg filename lineno offset text end_lineno end_offset " ++
    "print_file_and_line __doc__"),
  ("ImportError", "__str__ __init__ __reduce__ msg name path __doc__"),
  ("StopIteration", "__init__ value __doc__"),
  ("SystemExit", "__init__ code __doc__"),
  ("UnicodeDecodeError", "__new__ __str__ __init__ encoding object start end reason __doc__"),
  ("UnicodeEncodeError", "__new__ __str__ __init__ encoding object start end reason __doc__"),
  ("UnicodeTranslateError", "__new__ __str__ __init__ encoding object start end reason __doc__"),
  ("AttributeError", "__str__ __init__ name obj __doc__"),
  ("NameError", "__str__ __init__ name __doc__")]

/-- The names of the attributes of a class, with blanks between them. -/
def attributeText : StandardClass → String
  | .object =>
    "__new__ __repr__ __hash__ __str__ __getattribute__ __setattr__ __delattr__ __lt__ " ++
    "__le__ __eq__ __ne__ __gt__ __ge__ __init__ __reduce_ex__ __reduce__ __getstate__ " ++
    "__subclasshook__ __init_subclass__ __format__ __sizeof__ __dir__ __class__ __doc__"
  | .type =>
    "__new__ __repr__ __call__ __getattribute__ __setattr__ __delattr__ __init__ __or__ " ++
    "__ror__ mro __subclasses__ __prepare__ __instancecheck__ __subclasscheck__ __dir__ " ++
    "__sizeof__ __basicsize__ __itemsize__ __flags__ __weakrefoffset__ __base__ " ++
    "__dictoffset__ __mro__ __name__ __qualname__ __bases__ __module__ " ++
    "__abstractmethods__ __dict__ __doc__ __text_signature__ __annotations__"
  | .noneType => "__new__ __repr__ __bool__ __doc__"
  | .bool => "__new__ __repr__ __and__ __rand__ __xor__ __rxor__ __or__ __ror__ __doc__"
  | .int => "__new__ __repr__ __hash__ __getattribute__ __lt__ __le__ __eq__ __ne__ __gt__ " ++
    "__ge__ __add__ __radd__ __sub__ __rsub__ __mul__ __rmul__ __mod__ __rmod__ " ++
    "__divmod__ __rdivmod__ __pow__ __rpow__ __neg__ __pos__ __abs__ __bool__ __invert__ " ++
    "__lshift__ __rlshift__ __rshift__ __rrshift__ __and__ __rand__ __xor__ __rxor__ " ++
    "__or__ __ror__ __int__ __float__ __floordiv__ __rfloordiv__ __truediv__ " ++
    "__rtruediv__ __index__ conjugate bit_length bit_count to_bytes from_bytes " ++
    "as_integer_ratio __trunc__ __floor__ __ceil__ __round__ __getnewargs__ __format__ " ++
    "__sizeof__ real imag numerator denominator __doc__"
  | .float => "__new__ __repr__ __hash__ __getattribute__ __lt__ __le__ __eq__ __ne__ __gt__ " ++
    "__ge__ __add__ __radd__ __sub__ __rsub__ __mul__ __rmul__ __mod__ __rmod__ " ++
    "__divmod__ __rdivmod__ __pow__ __rpow__ __neg__ __pos__ __abs__ __bool__ __int__ " ++
    "__float__ __floordiv__ __rfloordiv__ __truediv__ __rtruediv__ conjugate __trunc__ " ++
    "__floor__ __ceil__ __round__ as_integer_ratio fromhex hex is_integer __getnewargs__ " ++
    "__getformat__ __format__ real imag __doc__"
  | .complex => "__new__ __repr__ __hash__ __getattribute__ __lt__ __le__ __eq__ __ne__ __gt__ " ++
    "__ge__ __add__ __radd__ __sub__ __rsub__ __mul__ __rmul__ __pow__ __rpow__ __neg__ " ++
    "__pos__ __abs__ __bool__ __truediv__ __rtruediv__ conjugate __complex__ " ++
    "__getnewargs__ __format__ real imag __doc__"
  | .str => "__new__ __repr__ __hash__ __str__ __getattribute__ __lt__ __le__ __eq__ __ne__ " ++
    "__gt__ __ge__ __iter__ __mod__ __rmod__ __len__ __getitem__ __add__ __mul__ " ++
    "__rmul__ __contains__ encode replace split rsplit join capitalize casefold title " ++
    "center count expandtabs find partition index ljust lower lstrip rfind rindex rjust " ++
    "rstrip rpartition splitlines strip swapcase translate upper startswith endswith " ++
    "removeprefix removesuffix isascii islower isupper istitle isspace isdecimal isdigit " ++
    "isnumeric isalpha isalnum isidentifier isprintable zfill format format_map " ++
    "__format__ maketrans __sizeof__ __getnewargs__ __doc__"
  | .bytes => "__new__ __repr__ __hash__ __str__ __getattribute__ __lt__ __le__ __eq__ __ne__ " ++
    "__gt__ __ge__ __iter__ __mod__ __rmod__ __len__ __getitem__ __add__ __mul__ " ++
    "__rmul__ __contains__ __getnewargs__ __bytes__ capitalize center count decode " ++
    "endswith expandtabs find fromhex hex index isalnum isalpha isascii isdigit islower " ++
    "isspace istitle isupper join ljust lower lstrip maketrans partition replace " ++
    "removeprefix removesuffix rfind rindex rjust rpartition rsplit rstrip split " ++
    "splitlines startswith strip swapcase title translate upper zfill __doc__"
  | .bytearray =>
    "__new__ __repr__ __str__ __getattribute__ __lt__ __le__ __eq__ __ne__ __gt__ __ge__ " ++
    "__iter__ __init__ __mod__ __rmod__ __len__ __getitem__ __setitem__ __delitem__ " ++
    "__add__ __mul__ __rmul__ __contains__ __iadd__ __imul__ __alloc__ __reduce__ " ++
    "__reduce_ex__ __sizeof__ append capitalize center clear copy count decode endswith " ++
    "expandtabs extend find fromhex hex index insert isalnum isalpha isascii isdigit " ++
    "islower isspace istitle isupper join ljust lower lstrip maketrans partition pop " ++
    "remove replace removeprefix removesuffix reverse rfind rindex rjust rpartition " ++
    "rsplit rstrip split splitlines startswith strip swapcase title translate upper " ++
    "zfill __doc__ __hash__"
  | .tuple => "__new__ __repr__ __hash__ __getattribute__ __lt__ __le__ __eq__ __ne__ __gt__ " ++
    "__ge__ __iter__ __len__ __getitem__ __add__ __mul__ __rmul__ __contains__ " ++
    "__getnewargs__ index count __class_getitem__ __doc__"
  | .list => "__new__ __repr__ __hash__ __getattribute__ __lt__ __le__ __eq__ __ne__ __gt__ " ++
    "__ge__ __iter__ __init__ __len__ __getitem__ __setitem__ __delitem__ __add__ " ++
    "__mul__ __rmul__ __contains__ __iadd__ __imul__ __reversed__ __sizeof__ clear copy " ++
    "append insert extend pop remove index count reverse sort __class_getitem__ __doc__"
  | .dict => "__new__ __repr__ __hash__ __getattribute__ __lt__ __le__ __eq__ __ne__ __gt__ " ++
    "__ge__ __iter__ __init__ __or__ __ror__ __ior__ __len__ __getitem__ __setitem__ " ++
    "__delitem__ __contains__ __sizeof__ get setdefault pop popitem keys items values " ++
    "update fromkeys clear copy __reversed__ __class_getitem__ __doc__"
  | .set => "__new__ __repr__ __hash__ __getattribute__ __lt__ __le__ __eq__ __ne__ __gt__ " ++
    "__ge__ __iter__ __init__ __sub__ __rsub__ __and__ __rand__ __xor__ __rxor__ __or__ " ++
    "__ror__ __isub__ __iand__ __ixor__ __ior__ __len__ __contains__ add clear copy " ++
    "discard difference difference_update intersection intersection_update isdisjoint " ++
    "issubset issuperset pop __reduce__ remove __sizeof__ symmetric_difference " ++
    "symmetric_difference_update union update __class_getitem__ __doc__"
  | .frozenset =>
    "__new__ __repr__ __hash__ __getattribute__ __lt__ __le__ __eq__ __ne__ __gt__ " ++
    "__ge__ __iter__ __sub__ __rsub__ __and__ __rand__ __xor__ __rxor__ __or__ __ror__ " ++
    "__len__ __contains__ copy difference intersection isdisjoint issubset issuperset " ++
    "__reduce__ __sizeof__ symmetric_difference union __class_getitem__ __doc__"
  | .generic => "__module__ __doc__ __slots__ _is_protocol __class_getitem__ __init_subclass__"
  | .protocol =>
    "__module__ __doc__ __slots__ _is_protocol _is_runtime_protocol __init_subclass__ " ++
    "__parameters__ __abstractmethods__ _abc_impl"
  | .any => "__module__ __doc__ __new__ __dict__ __weakref__"
  | .abstractBase => "__module__ __doc__ __slots__ __abstractmethods__ _abc_impl"
  | .enum => "__module__ __doc__ __new__ __init__ _generate_next_value_ _missing_ __repr__ " ++
    "__str__ __dir__ __format__ __hash__ __reduce_ex__ __deepcopy__ __copy__ name value " ++
    "_new_member_ _use_args_ _member_names_ _member_map_ _value2member_map_ " ++
    "_unhashable_values_ _member_type_ _value_repr_ __dict__ __weakref__"
  | .reprEnum =>
    "_generate_next_value_ __module__ __doc__ _new_member_ _use_args_ _member_names_ " ++
    "_member_map_ _value2member_map_ _unhashable_values_ _member_type_ _value_repr_ " ++
    "__new__"
  | .intEnum =>
    "_generate_next_value_ __module__ __doc__ _new_member_ _use_args_ _member_names_ " ++
    "_member_map_ _value2member_map_ _unhashable_values_ _member_type_ _value_repr_ " ++
    "__dict__ __format__ __str__ __repr__ __new__"
  | .strEnum => "_generate_next_value_ __module__ __doc__ __new__ _new_member_ _use_args_ " ++
    "_member_names_ _member_map_ _value2member_map_ _unhashable_values_ _member_type_ " ++
    "_value_repr_ __dict__ __weakref__ __format__ __str__ __repr__ __new_member__"
  | .flag => "_generate_next_value_ __module__ __doc__ _numeric_repr_ _iter_member_by_value_ " ++
    "_iter_member_ _iter_member_by_def_ _missing_ __contains__ __iter__ __len__ __repr__ " ++
    "__str__ __bool__ __or__ __and__ __xor__ __invert__ __rand__ __ror__ __rxor__ " ++
    "_new_member_ _use_args_ _member_names_ _member_map_ _value2member_map_ " ++
    "_unhashable_values_ _member_type_ _value_repr_ _boundary_ _flag_mask_ " ++
    "_singles_mask_ _all_bits_ _inverted_ __new__"
  | .sequence =>
    "__module__ __doc__ __slots__ __getitem__ __iter__ __contains__ __reversed__ index " ++
    "count __abstractmethods__ _abc_impl"
  | .mutableSequence =>
    "__module__ __doc__ __slots__ __setitem__ __delitem__ insert append clear reverse " ++
    "extend pop remove __iadd__ __abstractmethods__ _abc_impl"
  | .mapping =>
    "__module__ __doc__ __slots__ __getitem__ get __contains__ keys items values __eq__ " ++
    "__reversed__ __hash__ __abstractmethods__ _abc_impl"
  | .collection => "__module__ __slots__ __subclasshook__ __doc__ __abstractmethods__ _abc_impl"
  | .reversible =>
    "__module__ __slots__ __reversed__ __subclasshook__ __doc__ __abstractmethods__ " ++
    "_abc_impl"
  | .iterable => "__module__ __slots__ __iter__ __subclasshook__ __class_getitem__ __doc__ " ++
    "__abstractmethods__ _abc_impl"
  | .sized => "__module__ __slots__ __len__ __subclasshook__ __doc__ __abstractmethods__ _abc_impl"
  | .container => "__module__ __slots__ __contains__ __subclasshook__ __class_getitem__ __doc__ " ++
    "__abstractmethods__ _abc_impl"
  | .callable => "__module__ __slots__ __call__ __subclasshook__ __class_getitem__ __doc__ " ++
    "__abstractmethods__ _abc_impl"
  | .deque => "__new__ __repr__ __hash__ __getattribute__ __lt__ __le__ __eq__ __ne__ __gt__ " ++
    "__ge__ __iter__ __init__ __len__ __add__ __mul__ __rmul__ __getitem__ __setitem__ " ++
    "__delitem__ __contains__ __iadd__ __imul__ append appendleft clear __copy__ copy " ++
    "count extend extendleft index insert pop popleft __reduce__ remove __reversed__ " ++
    "reverse rotate __sizeof__ __class_getitem__ maxlen __doc__"
  | .date => "__new__ __repr__ __hash__ __str__ __getattribute__ __lt__ __le__ __eq__ __ne__ " ++
    "__gt__ __ge__ __add__ __radd__ __sub__ __rsub__ fromtimestamp fromordinal " ++
    "fromisoformat fromisocalendar today ctime strftime __format__ timetuple isocalendar " ++
    "isoformat isoweekday toordinal weekday replace __reduce__ year month day __doc__ " ++
    "min max resolution"
  | .datetime =>
    "__new__ __repr__ __hash__ __str__ __getattribute__ __lt__ __le__ __eq__ __ne__ " ++
    "__gt__ __ge__ __add__ __radd__ __sub__ __rsub__ now utcnow fromtimestamp " ++
    "utcfromtimestamp strptime combine fromisoformat date time timetz ctime timetuple " ++
    "timestamp utctimetuple isoformat utcoffset tzname dst replace astimezone " ++
    "__reduce_ex__ __reduce__ hour minute second microsecond tzinfo fold __doc__ min max " ++
    "resolution"
  | .decimal => "__new__ __repr__ __hash__ __str__ __getattribute__ __lt__ __le__ __eq__ __ne__ " ++
    "__gt__ __ge__ __add__ __radd__ __sub__ __rsub__ __mul__ __rmul__ __mod__ __rmod__ " ++
    "__divmod__ __rdivmod__ __pow__ __rpow__ __neg__ __pos__ __abs__ __bool__ __int__ " ++
    "__float__ __floordiv__ __rfloordiv__ __truediv__ __rtruediv__ exp ln log10 " ++
    "next_minus next_plus normalize to_integral to_integral_exact to_integral_value sqrt " ++
    "compare compare_signal max max_mag min min_mag next_toward quantize remainder_near " ++
    "fma is_canonical is_finite is_infinite is_nan is_qnan is_snan is_signed is_zero " ++
    "is_normal is_subnormal adjusted canonical conjugate radix copy_abs copy_negate logb " ++
    "logical_invert number_class to_eng_string compare_total compare_total_mag copy_sign " ++
    "same_quantum logical_and logical_or logical_xor rotate scaleb shift from_float " ++
    "as_tuple as_integer_ratio __copy__ __deepcopy__ __format__ __reduce__ __round__ " ++
    "__ceil__ __floor__ __trunc__ __complex__ __sizeof__ real imag __doc__ __module__"
  | .function => "__new__ __repr__ __call__ __get__ __closure__ __doc__ __globals__ __module__ " ++
    "__builtins__ __code__ __defaults__ __kwdefaults__ __annotations__ __dict__ __name__ " ++
    "__qualname__"
  | .module =>
    "__new__ __repr__ __getattribute__ __setattr__ __delattr__ __init__ __dir__ __dict__ " ++
    "__annotations__ __doc__"
  | .exception name => (exceptionAttributes.lookup name).getD "__init__ __doc__"
  | .named "typing" "Dummy" => "__module__ __doc__ __init_subclass__ __dict__ __weakref__"
  | .named "builtins" "range" =>
    "__new__ __repr__ __hash__ __getattribute__ __lt__ __le__ __eq__ __ne__ __gt__ __ge__ " ++
    "__iter__ __bool__ __len__ __getitem__ __contains__ __reversed__ __reduce__ count index " ++
    "start stop step __doc__"
  | .named "builtins" "slice" =>
    "__new__ __repr__ __hash__ __getattribute__ __lt__ __le__ __eq__ __ne__ __gt__ __ge__ " ++
    "indices __reduce__ start stop step __doc__"
  | .named "builtins" "property" =>
    "__new__ __getattribute__ __get__ __set__ __delete__ __init__ getter setter deleter " ++
    "__set_name__ fget fset fdel __doc__ __isabstractmethod__"
  | .named "builtins" "staticmethod" | .named "builtins" "classmethod" =>
    "__new__ __repr__ __call__ __get__ __init__ __func__ __wrapped__ __isabstractmethod__ " ++
    "__dict__ __doc__"
  | .named "builtins" "super" =>
    "__new__ __repr__ __getattribute__ __get__ __init__ __thisclass__ __self__ " ++
    "__self_class__ __doc__"
  | .named "builtins" "memoryview" =>
    "__new__ __repr__ __hash__ __getattribute__ __lt__ __le__ __eq__ __ne__ __gt__ __ge__ " ++
    "__iter__ __len__ __getitem__ __setitem__ __delitem__ release tobytes hex tolist cast " ++
    "toreadonly __enter__ __exit__ obj nbytes readonly itemsize format ndim shape strides " ++
    "suboffsets c_contiguous f_contiguous contiguous __doc__"
  | .named "builtins" "enumerate" =>
    "__new__ __getattribute__ __iter__ __next__ __reduce__ __class_getitem__ __doc__"
  | .named "builtins" "method" =>
    "__new__ __repr__ __hash__ __call__ __getattribute__ __setattr__ __delattr__ __lt__ " ++
    "__le__ __eq__ __ne__ __gt__ __ge__ __reduce__ __func__ __self__ __doc__"
  | .named "builtins" "builtin_function_or_method" =>
    "__repr__ __hash__ __call__ __getattribute__ __lt__ __le__ __eq__ __ne__ __gt__ __ge__ " ++
    "__reduce__ __module__ __doc__ __name__ __qualname__ __self__ __text_signature__"
  | .named "builtins" "mappingproxy" =>
    "__new__ __repr__ __str__ __getattribute__ __lt__ __le__ __eq__ __ne__ __gt__ __ge__ " ++
    "__iter__ __or__ __ror__ __ior__ __len__ __getitem__ __contains__ get keys values items " ++
    "copy __class_getitem__ __reversed__ __doc__ __hash__"
  | .named "builtins" "code" =>
    "__new__ __repr__ __hash__ __getattribute__ __lt__ __le__ __eq__ __ne__ __gt__ __ge__ " ++
    "__sizeof__ co_lines co_positions replace co_argcount co_posonlyargcount " ++
    "co_kwonlyargcount co_stacksize co_flags co_nlocals co_consts co_names co_filename " ++
    "co_name co_qualname co_firstlineno co_linetable co_exceptiontable co_lnotab co_varnames " ++
    "co_cellvars co_freevars co_code __doc__"
  | .named "functools" "cached_property" =>
    "__module__ __init__ __set_name__ __get__ __class_getitem__ __dict__ __weakref__ __doc__"
  | .named "types" "GenericAlias" =>
    "__new__ __repr__ __hash__ __call__ __getattribute__ __lt__ __le__ __eq__ __ne__ __gt__ " ++
    "__ge__ __iter__ __or__ __ror__ __getitem__ __mro_entries__ __instancecheck__ " ++
    "__subclasscheck__ __reduce__ __dir__ __origin__ __args__ __unpacked__ __parameters__ " ++
    "__typing_unpacked_tuple_args__ __doc__"
  | .named "types" "UnionType" =>
    "__repr__ __hash__ __getattribute__ __lt__ __le__ __eq__ __ne__ __gt__ __ge__ __or__ " ++
    "__ror__ __getitem__ __args__ __parameters__ __doc__"
  | .named "builtins" "reversed" =>
    "__new__ __getattribute__ __iter__ __next__ __length_hint__ __reduce__ __setstate__ __doc__"
  | .named "builtins" "zip" =>
    "__new__ __getattribute__ __iter__ __next__ __reduce__ __setstate__ __doc__"
  | .named "builtins" "map" | .named "builtins" "filter" =>
    "__new__ __getattribute__ __iter__ __next__ __reduce__ __doc__"
  | .named _ _ => "__new__ __repr__ __doc__"

/-- The names of the attributes that a class has of its own. -/
def ownNames (value : StandardClass) : List String :=
  match value.written? with
  | none => Text.pieces ' ' value.attributeText
  | some found => "__module__" :: found.bindings.map Prod.fst ++
      (if found.ancestors.isEmpty then ["__dict__", "__weakref__"] else []) ++ ["__doc__"]

/-! ## Kinds of attributes -/

/-- What a class of the standard library has under a name. -/
inductive AttributeKind
  /-- What an operator or a statement does. -/
  | slot
  | method
  /-- A function of the class itself. -/
  | classMethod
  /-- A function of neither the class nor its values. -/
  | free
  /-- A part of a value that is worked out. -/
  | computed
  /-- A part of a value that is kept in it. -/
  | kept
  /-- A function that is written in the language itself. -/
  | function
  /-- A function of the class itself that is written in the language. -/
  | classFunction
  /-- A value of a class. -/
  | value (typeName : String)
deriving DecidableEq, Repr, Inhabited

/-- The word for the type of an attribute of a kind. -/
def AttributeKind.typeName : AttributeKind → String
  | .slot => "wrapper_descriptor"
  | .method => "method_descriptor"
  | .classMethod | .free => "builtin_function_or_method"
  | .computed => "getset_descriptor"
  | .kept => "member_descriptor"
  | .function => "function"
  | .classFunction => "method"
  | .value typeName => typeName

/-- The words in a text. -/
def words (text : String) : List String := Text.pieces ' ' text

/-- The names of functions of classes themselves. -/
def classMethodNames : List String := words
  ("__subclasshook__ __init_subclass__ __prepare__ from_bytes fromhex __getformat__ " ++
    "__class_getitem__ fromkeys fromtimestamp fromordinal fromisoformat fromisocalendar today " ++
    "now utcnow utcfromtimestamp strptime combine from_float")

/-- The names of parts of values that are worked out. -/
def computedNames : List String := words
  ("__class__ __name__ __qualname__ __bases__ __module__ __abstractmethods__ __dict__ __doc__ " ++
    "__text_signature__ __annotations__ real imag numerator denominator maxlen year month day " ++
    "hour minute second microsecond tzinfo fold __code__ __defaults__ __kwdefaults__ " ++
    "__weakref__ args __traceback__ __context__ __cause__ characters_written")

/-- The names of parts of values that are kept in them. -/
def keptNames : List String := words
  ("__basicsize__ __itemsize__ __flags__ __weakrefoffset__ __base__ __dictoffset__ __mro__ " ++
    "__closure__ __globals__ __builtins__ __suppress_context__ errno strerror filename " ++
    "filename2 msg name path value code message exceptions lineno offset text end_lineno " ++
    "end_offset print_file_and_line encoding object start end reason stop step obj")

/-- The names of functions that begin and end with two underscores and are no slots. -/
def methodSlotNames : List String := words
  ("__reduce_ex__ __reduce__ __getstate__ __format__ __sizeof__ __dir__ __subclasses__ " ++
    "__instancecheck__ __subclasscheck__ __trunc__ __floor__ __ceil__ __round__ " ++
    "__getnewargs__ __complex__ __bytes__ __alloc__ __reversed__ __copy__ __deepcopy__ " ++
    "__setstate__")

/-- The classes that are written in the language itself. -/
def isWritten : StandardClass → Bool
  | generic | protocol | any | abstractBase | enum | reprEnum | intEnum | strEnum | flag
  | sequence | mutableSequence | mapping | collection | reversible | iterable | sized | container
  | callable => true
  | named "typing" _ => true
  | value => value.written?.isSome

/-- The values that classes written in the language have under some names. -/
def writtenValues : List (String × String) := [
  ("__slots__", "tuple"), ("__parameters__", "tuple"), ("_is_protocol", "bool"),
  ("_is_runtime_protocol", "bool"), ("__abstractmethods__", "frozenset"),
  ("_abc_impl", "_abc._abc_data"), ("_use_args_", "bool"), ("_member_names_", "list"),
  ("_unhashable_values_", "list"), ("_member_map_", "dict"), ("_value2member_map_", "dict"),
  ("_member_type_", "type"), ("_value_repr_", "NoneType"), ("_flag_mask_", "int"),
  ("_singles_mask_", "int"), ("_all_bits_", "int"), ("_inverted_", "NoneType"),
  ("_boundary_", "FlagBoundary"), ("name", "property"), ("value", "property")]

/-- The functions of classes themselves that are written in the language. -/
def classFunctionNames : List String := words
  ("__subclasshook__ __class_getitem__ __init_subclass__ _missing_ _iter_member_by_value_ " ++
    "_iter_member_ _iter_member_by_def_")

/-- What a class of the standard library that a table tells of has under a name that it binds. -/
def libraryKind : LibraryBinding → AttributeKind
  | .function _ => .function
  | .member | .other => .value "object"

/-- What a class has under a name. -/
def attributeKind (value : StandardClass) (name : String) : AttributeKind :=
  if let some binding := value.written?.bind fun found => found.bindings.lookup name then
    libraryKind binding
  else if name = "__doc__" then
    if [StandardClass.noneType, collection, reversible, iterable, sized, container,
        callable].contains value then .value "NoneType"
    else if value = .type || value = .function then .computed
    else .value "str"
  else if value.isWritten then
    if name = "__module__" then .value "str"
    else if name = "__dict__" || name = "__weakref__" then .computed
    else if classFunctionNames.contains name then .classFunction
    else match writtenValues.lookup name with
      | some typeName => .value typeName
      | none => .function
  else if name = "__new__" || name = "maketrans" then .free
  else if name = "__hash__" && [StandardClass.list, .dict, .set, .bytearray, .deque].contains value
  then .value "NoneType"
  else if name = "__module__" && value ≠ .type then .value "str"
  else if classMethodNames.contains name then .classMethod
  else if value = .complex && (name = "real" || name = "imag") then .kept
  else if [StandardClass.date, .datetime].contains value &&
      ["min", "max", "resolution"].contains name then .value "datetime"
  else if computedNames.contains name then .computed
  else if keptNames.contains name && (value matches .exception _ | .type | .function | .named _ _)
  then .kept
  else if methodSlotNames.contains name ||
      (name = "__getitem__" && (value = .list || value = .dict)) ||
      (name = "__contains__" && [StandardClass.dict, .set, .frozenset].contains value) then .method
  else if Text.opensWith "__" name && Text.endsWith "__" name then .slot
  else .method

/-- Whether a class has an attribute of its own. -/
def hasOwn (value : StandardClass) (attributeName : String) : Bool :=
  value.ownNames.contains attributeName

end ServiceStubs.Source.StandardClass
