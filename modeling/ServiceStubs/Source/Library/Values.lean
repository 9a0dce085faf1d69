/-!
# Library classes of values

The classes written in the language that stand for values and collections of values, and those that
classes and functions are made with.
-/

namespace ServiceStubs.Source.Library

/-- The classes of values by their modules: the name of each, the classes that it derives from, and
what it binds. -/
def valueClasses : List (String × List (String × String × String)) := [
  ("_weakrefset", [
    ("WeakSet", "",
      "__init__ _commit_removals(self) __iter__ __len__ __contains__ __reduce__ " ++
      "add(self,item) clear(self) copy(self) pop(self) remove(self,item) discard(self,item) " ++
      "update(self,other) __ior__ difference(self,other) __sub__ " ++
      "difference_update(self,other) __isub__ intersection(self,other) __and__ " ++
      "intersection_update(self,other) __iand__ issubset(self,other) __le__ __lt__ " ++
      "issuperset(self,other) __ge__ __gt__ __eq__ symmetric_difference(self,other) __xor__ " ++
      "symmetric_difference_update(self,other) __ixor__ union(self,other) __or__ " ++
      "isdisjoint(self,other) __repr__"),
    ("_IterationGuard", "", "__init__ __enter__ __exit__")]),
  ("abc", [
    ("abstractclassmethod", "builtins:classmethod", "__init__"),
    ("abstractstaticmethod", "builtins:staticmethod", "__init__"),
    ("abstractproperty", "builtins:property", ""),
    ("ABCMeta", "builtins:type",
      "register(cls,subclass) __instancecheck__ __subclasscheck__ _dump_registry(cls,file) " ++
      "_abc_registry_clear(cls) _abc_caches_clear(cls)")]),
  ("collections", [
    ("_OrderedDictKeysView",
      "collections.abc:KeysView collections.abc:MappingView collections.abc:Set " ++
      "collections.abc:Collection collections.abc:Sized collections.abc:Iterable " ++
      "collections.abc:Container",
      "__reversed__"),
    ("_OrderedDictItemsView",
      "collections.abc:ItemsView collections.abc:MappingView collections.abc:Set " ++
      "collections.abc:Collection collections.abc:Sized collections.abc:Iterable " ++
      "collections.abc:Container",
      "__reversed__"),
    ("_OrderedDictValuesView",
      "collections.abc:ValuesView collections.abc:MappingView collections.abc:Collection " ++
      "collections.abc:Sized collections.abc:Iterable collections.abc:Container",
      "__reversed__"),
    ("Counter", "builtins:dict",
      "__init__ __missing__ total(self) most_common(self,n) elements(self) " ++
      "update(self,iterable,*) subtract(self,iterable,*) copy(self) __reduce__ __delitem__ " ++
      "__repr__ __eq__ __ne__ __le__ __lt__ __ge__ __gt__ __add__ __sub__ __or__ __and__ " ++
      "__pos__ __neg__ _keep_positive(self) __iadd__ __isub__ __ior__ __iand__"),
    ("ChainMap",
      "collections.abc:MutableMapping collections.abc:Mapping collections.abc:Collection " ++
      "collections.abc:Sized collections.abc:Iterable collections.abc:Container",
      "__init__ __missing__ __getitem__ get(self,key,default) __len__ __iter__ __contains__ " ++
      "__bool__ __repr__ copy(self) __copy__ new_child(self,m,*) __setitem__ __delitem__ " ++
      "popitem(self) pop(self,key,*) clear(self) __ior__ __or__ __ror__"),
    ("UserDict",
      "collections.abc:MutableMapping collections.abc:Mapping collections.abc:Collection " ++
      "collections.abc:Sized collections.abc:Iterable collections.abc:Container",
      "__init__ __len__ __getitem__ __setitem__ __delitem__ __iter__ __contains__ __repr__ " ++
      "__or__ __ror__ __ior__ __copy__ copy(self)"),
    ("UserList",
      "collections.abc:MutableSequence collections.abc:Sequence collections.abc:Reversible " ++
      "collections.abc:Collection collections.abc:Sized collections.abc:Iterable " ++
      "collections.abc:Container",
      "__init__ __repr__ __lt__ __le__ __eq__ __gt__ __ge__ _UserList__cast(self,other) " ++
      "__contains__ __len__ __getitem__ __setitem__ __delitem__ __add__ __radd__ __iadd__ " ++
      "__mul__ __rmul__ __imul__ __copy__ append(self,item) insert(self,i,item) pop(self,i) " ++
      "remove(self,item) clear(self) copy(self) count(self,item) index(self,item,*) " ++
      "reverse(self) sort(self,*,*) extend(self,other)"),
    ("UserString",
      "collections.abc:Sequence collections.abc:Reversible collections.abc:Collection " ++
      "collections.abc:Sized collections.abc:Iterable collections.abc:Container",
      "__init__ __str__ __repr__ __int__ __float__ __complex__ __hash__ __getnewargs__ __eq__ " ++
      "__lt__ __le__ __gt__ __ge__ __contains__ __len__ __getitem__ __add__ __radd__ __mul__ " ++
      "__rmul__ __mod__ __rmod__ capitalize(self) casefold(self) center(self,width,*) " ++
      "count(self,sub,start,end) removeprefix(self,prefix) removesuffix(self,suffix) " ++
      "encode(self,encoding,errors) endswith(self,suffix,start,end) expandtabs(self,tabsize) " ++
      "find(self,sub,start,end) format(self,*,*) format_map(self,mapping) " ++
      "index(self,sub,start,end) isalpha(self) isalnum(self) isascii(self) isdecimal(self) " ++
      "isdigit(self) isidentifier(self) islower(self) isnumeric(self) isprintable(self) " ++
      "isspace(self) istitle(self) isupper(self) join(self,seq) ljust(self,width,*) " ++
      "lower(self) lstrip(self,chars) partition(self,sep) replace(self,old,new,maxsplit) " ++
      "rfind(self,sub,start,end) rindex(self,sub,start,end) rjust(self,width,*) " ++
      "rpartition(self,sep) rstrip(self,chars) split(self,sep,maxsplit) " ++
      "rsplit(self,sep,maxsplit) splitlines(self,keepends) startswith(self,prefix,start,end) " ++
      "strip(self,chars) swapcase(self) title(self) translate(self,*) upper(self) " ++
      "zfill(self,width)")]),
  ("collections.abc", [
    ("KeysView", "MappingView Set Collection Sized Iterable Container", "__contains__ __iter__"),
    ("MappingView", "Sized", "__init__ __len__ __repr__"),
    ("Set", "Collection Sized Iterable Container",
      "__le__ __lt__ __gt__ __ge__ __eq__ __and__ __rand__ isdisjoint(self,other) __or__ " ++
      "__ror__ __sub__ __rsub__ __xor__ __rxor__ _hash(self)"),
    ("ItemsView", "MappingView Set Collection Sized Iterable Container", "__contains__ __iter__"),
    ("ValuesView", "MappingView Collection Sized Iterable Container", "__contains__ __iter__"),
    ("MutableMapping", "Mapping Collection Sized Iterable Container",
      "__setitem__ __delitem__ pop(self,key,default) popitem(self) clear(self) " ++
      "update(self,other,*) setdefault(self,key,default)"),
    ("Awaitable", "", "__await__"),
    ("Coroutine", "Awaitable", "send(self,value) throw(self,typ,val,tb) close(self)"),
    ("AsyncIterable", "", "__aiter__"),
    ("AsyncIterator", "AsyncIterable", "__anext__ __aiter__"),
    ("AsyncGenerator", "AsyncIterator AsyncIterable",
      "__anext__ asend(self,value) athrow(self,typ,val,tb) aclose(self)"),
    ("Hashable", "", "__hash__"),
    ("Iterator", "Iterable", "__next__ __iter__"),
    ("Generator", "Iterator Iterable",
      "__next__ send(self,value) throw(self,typ,val,tb) close(self)"),
    ("MutableSet", "Set Collection Sized Iterable Container",
      "add(self,value) discard(self,value) remove(self,value) pop(self) clear(self) __ior__ " ++
      "__iand__ __ixor__ __isub__"),
    ("ByteString", "Sequence Reversible Collection Sized Iterable Container", ""),
    ("_CallableGenericAlias", "types:GenericAlias", "__repr__ __reduce__ __getitem__")]),
  ("contextlib", [
    ("nullcontext", "AbstractContextManager AbstractAsyncContextManager abc:ABC",
      "__init__ __enter__ __exit__ __aenter__ __aexit__"),
    ("AbstractContextManager", "abc:ABC", "__enter__ __exit__"),
    ("AbstractAsyncContextManager", "abc:ABC", "__aenter__ __aexit__"),
    ("ContextDecorator", "", "_recreate_cm(self) __call__"),
    ("AsyncContextDecorator", "", "_recreate_cm(self) __call__"),
    ("_GeneratorContextManagerBase", "", "__init__ _recreate_cm(self)"),
    ("_GeneratorContextManager",
      "_GeneratorContextManagerBase AbstractContextManager abc:ABC ContextDecorator",
      "__enter__ __exit__"),
    ("_AsyncGeneratorContextManager",
      "_GeneratorContextManagerBase AbstractAsyncContextManager abc:ABC AsyncContextDecorator",
      "__aenter__ __aexit__"),
    ("closing", "AbstractContextManager abc:ABC", "__init__ __enter__ __exit__"),
    ("aclosing", "AbstractAsyncContextManager abc:ABC", "__init__ __aenter__ __aexit__"),
    ("_RedirectStream", "AbstractContextManager abc:ABC", "__init__ __enter__ __exit__"),
    ("redirect_stdout", "_RedirectStream AbstractContextManager abc:ABC", ""),
    ("redirect_stderr", "_RedirectStream AbstractContextManager abc:ABC", ""),
    ("suppress", "AbstractContextManager abc:ABC", "__init__ __enter__ __exit__"),
    ("_BaseExitStack", "",
      "__init__ pop_all(self) push(self,exit) enter_context(self,cm) " ++
      "callback(self,callback,*,*) _push_cm_exit(self,cm,cm_exit) " ++
      "_push_exit_callback(self,callback,is_sync)"),
    ("ExitStack", "_BaseExitStack AbstractContextManager abc:ABC",
      "__enter__ __exit__ close(self)"),
    ("AsyncExitStack", "_BaseExitStack AbstractAsyncContextManager abc:ABC",
      "enter_async_context(self,cm) push_async_exit(self,exit) " ++
      "push_async_callback(self,callback,*,*) aclose(self) " ++
      "_push_async_cm_exit(self,cm,cm_exit) __aenter__ __aexit__"),
    ("chdir", "AbstractContextManager abc:ABC", "__init__ __enter__ __exit__")]),
  ("copy", [
    ("Error", "builtins:Exception builtins:BaseException", "")]),
  ("dataclasses", [
    ("FrozenInstanceError",
      "builtins:AttributeError builtins:Exception builtins:BaseException",
      ""),
    ("_HAS_DEFAULT_FACTORY_CLASS", "", "__repr__"),
    ("_FIELD_BASE", "", "__init__ __repr__"),
    ("InitVar", "", "__init__ __repr__"),
    ("Field", "", "__init__ __repr__ __set_name__"),
    ("_DataclassParams", "", "__init__ __repr__")]),
  ("enum", [
    ("auto", "", "__init__ __repr__"),
    ("nonmember", "", "__init__"),
    ("member", "", "__init__"),
    ("property", "types:DynamicClassAttribute", "__get__ __set__ __delete__ __set_name__"),
    ("_proto_member", "", "__init__ __set_name__"),
    ("_EnumDict", "builtins:dict", "__init__ __setitem__ update(self,members,*)"),
    ("EnumType", "builtins:type",
      "__bool__ __call__ __contains__ __delattr__ __dir__ __getattr__ __getitem__ __iter__ " ++
      "__len__ __repr__ __reversed__ __setattr__ " ++
      "_create_(cls,class_name,names,module,qualname,type,start,boundary) " ++
      "_convert_(cls,name,module,filter,source,boundary,as_global)"),
    ("FlagBoundary", "StrEnum builtins:str ReprEnum Enum",
      "_generate_next_value_(name,start,count,last_values) _new_member_(cls,*) __new__ " ++
      "STRICT= CONFORM= EJECT= KEEP="),
    ("IntFlag", "builtins:int ReprEnum Flag Enum",
      "_generate_next_value_(name,start,count,last_values) _new_member_: __repr__ __or__ " ++
      "__and__ __xor__ __ror__ __rand__ __rxor__ __invert__ __new__"),
    ("EnumCheck", "StrEnum builtins:str ReprEnum Enum",
      "_new_member_: _generate_next_value_(name,start,count,last_values) __new__ CONTINUOUS= " ++
      "NAMED_FLAGS= UNIQUE="),
    ("verify", "", "__init__ __call__")]),
  ("fractions", [
    ("Fraction", "numbers:Rational numbers:Real numbers:Complex numbers:Number",
      "as_integer_ratio(self) limit_denominator(self,max_denominator) __repr__ __str__ " ++
      "_operator_fallbacks(monomorphic_operator,fallback_operator) _add(a,b) __add__ __radd__ " ++
      "_sub(a,b) __sub__ __rsub__ _mul(a,b) __mul__ __rmul__ _div(a,b) __truediv__ " ++
      "__rtruediv__ _floordiv(a,b) __floordiv__ __rfloordiv__ _divmod(a,b) __divmod__ " ++
      "__rdivmod__ _mod(a,b) __mod__ __rmod__ __pow__ __rpow__ __pos__ __neg__ __abs__ " ++
      "__int__ __trunc__ __floor__ __ceil__ __round__ __hash__ __eq__ _richcmp(self,other,op) " ++
      "__lt__ __gt__ __le__ __ge__ __bool__ __reduce__ __copy__ __deepcopy__")]),
  ("functools", [
    ("partialmethod", "", "__init__ __repr__ _make_unbound_method(self) __get__"),
    ("CacheInfo", "builtins:tuple", "_replace(self,*) __repr__ _asdict(self) __getnewargs__"),
    ("_HashedSeq", "builtins:list", "__init__ __hash__"),
    ("singledispatchmethod", "", "__init__ register(self,cls,method) __get__")]),
  ("numbers", [
    ("Rational", "Real Complex Number", "__float__"),
    ("Real", "Complex Number",
      "__float__ __trunc__ __floor__ __ceil__ __round__ __divmod__ __rdivmod__ __floordiv__ " ++
      "__rfloordiv__ __mod__ __rmod__ __lt__ __le__ __complex__ conjugate(self)"),
    ("Complex", "Number",
      "__complex__ __bool__ __add__ __radd__ __neg__ __pos__ __sub__ __rsub__ __mul__ " ++
      "__rmul__ __truediv__ __rtruediv__ __pow__ __rpow__ __abs__ conjugate(self) __eq__"),
    ("Integral", "Rational Real Complex Number",
      "__int__ __index__ __pow__ __lshift__ __rlshift__ __rshift__ __rrshift__ __and__ " ++
      "__rand__ __xor__ __rxor__ __or__ __ror__ __invert__ __float__")]),
  ("queue", [
    ("Full", "builtins:Exception builtins:BaseException", ""),
    ("Queue", "",
      "__init__ task_done(self) join(self) qsize(self) empty(self) full(self) " ++
      "put(self,item,block,timeout) get(self,block,timeout) put_nowait(self,item) " ++
      "get_nowait(self) _init(self,maxsize) _qsize(self) _put(self,item) _get(self)"),
    ("PriorityQueue", "Queue", "_init(self,maxsize) _qsize(self) _put(self,item) _get(self)"),
    ("LifoQueue", "Queue", "_init(self,maxsize) _qsize(self) _put(self,item) _get(self)"),
    ("_PySimpleQueue", "",
      "__init__ put(self,item,block,timeout) get(self,block,timeout) put_nowait(self,item) " ++
      "get_nowait(self) empty(self) qsize(self)")]),
  ("random", [
    ("Random", "_random:Random",
      "__init__ seed(self,a,version) getstate(self) setstate(self,state) __getstate__ " ++
      "__setstate__ __reduce__ _randbelow_with_getrandbits(self,n) " ++
      "_randbelow_without_getrandbits(self,n,maxsize) _randbelow(self,n) randbytes(self,n) " ++
      "randrange(self,start,stop,step) randint(self,a,b) choice(self,seq) shuffle(self,x) " ++
      "sample(self,population,k,counts) choices(self,population,weights,cum_weights,k) " ++
      "uniform(self,a,b) triangular(self,low,high,mode) normalvariate(self,mu,sigma) " ++
      "gauss(self,mu,sigma) lognormvariate(self,mu,sigma) expovariate(self,lambd) " ++
      "vonmisesvariate(self,mu,kappa) gammavariate(self,alpha,beta) " ++
      "betavariate(self,alpha,beta) paretovariate(self,alpha) weibullvariate(self,alpha,beta)"),
    ("SystemRandom", "Random _random:Random",
      "random(self) getrandbits(self,k) randbytes(self,n) seed(self,*,*) " ++
      "_notimplemented(self,*,*) getstate(self,*,*) setstate(self,*,*) _randbelow(self,n)")]),
  ("reprlib", [
    ("Repr", "",
      "__init__ repr(self,x) repr1(self,x,level) " ++
      "_repr_iterable(self,x,level,left,right,maxiter,trail) repr_tuple(self,x,level) " ++
      "repr_list(self,x,level) repr_array(self,x,level) repr_set(self,x,level) " ++
      "repr_frozenset(self,x,level) repr_deque(self,x,level) repr_dict(self,x,level) " ++
      "repr_str(self,x,level) repr_int(self,x,level) repr_instance(self,x,level)")]),
  ("string", [
    ("Template", "",
      "__init__ _invalid(self,mo) substitute(self,mapping,*) safe_substitute(self,mapping,*) " ++
      "is_valid(self) get_identifiers(self)"),
    ("Formatter", "",
      "format(self,format_string,*,*) vformat(self,format_string,args,kwargs) " ++
      "_vformat(self,format_string,args,kwargs,used_args,recursion_depth,auto_arg_index) " ++
      "get_value(self,key,args,kwargs) check_unused_args(self,used_args,args,kwargs) " ++
      "format_field(self,value,format_spec) convert_field(self,value,conversion) " ++
      "parse(self,format_string) get_field(self,field_name,args,kwargs)")]),
  ("textwrap", [
    ("TextWrapper", "",
      "__init__ _munge_whitespace(self,text) _split(self,text) " ++
      "_fix_sentence_endings(self,chunks) " ++
      "_handle_long_word(self,reversed_chunks,cur_line,cur_len,width) " ++
      "_wrap_chunks(self,chunks) _split_chunks(self,text) wrap(self,text) fill(self,text)")]),
  ("types", [
    ("DynamicClassAttribute", "",
      "__init__ __get__ __set__ __delete__ getter(self,fget) setter(self,fset) " ++
      "deleter(self,fdel)"),
    ("_GeneratorWrapper", "",
      "__init__ send(self,val) throw(self,tp,*) close(self) __next__ __iter__ __await__")]),
  ("typing", [
    ("_Immutable", "", "__copy__ __deepcopy__"),
    ("_SpecialForm", "_Final _NotIterable",
      "__init__ __getattr__ __mro_entries__ __repr__ __reduce__ __call__ __or__ __ror__ " ++
      "__instancecheck__ __subclasscheck__ __getitem__"),
    ("_LiteralSpecialForm", "_SpecialForm _Final _NotIterable", "__getitem__"),
    ("_AnyMeta", "builtins:type", "__instancecheck__ __repr__"),
    ("ForwardRef", "_Final",
      "__init__ _evaluate(self,globalns,localns,recursive_guard) __eq__ __hash__ __or__ " ++
      "__ror__ __repr__"),
    ("_PickleUsingNameMixin", "", "__reduce__"),
    ("_BoundVarianceMixin", "", "__init__ __or__ __ror__ __repr__"),
    ("TypeVar", "_Final _Immutable _BoundVarianceMixin _PickleUsingNameMixin",
      "__init__ __typing_subst__"),
    ("TypeVarTuple", "_Final _Immutable _PickleUsingNameMixin",
      "__init__ __iter__ __repr__ __typing_subst__ __typing_prepare_subst__"),
    ("ParamSpecArgs", "_Final _Immutable", "__init__ __repr__ __eq__"),
    ("ParamSpecKwargs", "_Final _Immutable", "__init__ __repr__ __eq__"),
    ("ParamSpec", "_Final _Immutable _BoundVarianceMixin _PickleUsingNameMixin",
      "__init__ __typing_subst__ __typing_prepare_subst__"),
    ("_BaseGenericAlias", "_Final",
      "__init__ __call__ __mro_entries__ __getattr__ __setattr__ __instancecheck__ " ++
      "__subclasscheck__ __dir__"),
    ("_GenericAlias", "_BaseGenericAlias _Final",
      "__init__ __eq__ __hash__ __or__ __ror__ __getitem__ _determine_new_args(self,args) " ++
      "_make_substitution(self,args,new_arg_by_param) copy_with(self,args) __repr__ " ++
      "__reduce__ __mro_entries__ __iter__"),
    ("_SpecialGenericAlias", "_NotIterable _BaseGenericAlias _Final",
      "__init__ __getitem__ copy_with(self,params) __repr__ __subclasscheck__ __reduce__ " ++
      "__or__ __ror__"),
    ("_CallableGenericAlias", "_NotIterable _GenericAlias _BaseGenericAlias _Final",
      "__repr__ __reduce__"),
    ("_CallableType", "_SpecialGenericAlias _NotIterable _BaseGenericAlias _Final",
      "copy_with(self,params) __getitem__ __getitem_inner__"),
    ("_TupleType", "_SpecialGenericAlias _NotIterable _BaseGenericAlias _Final", "__getitem__"),
    ("_UnionGenericAlias", "_NotIterable _GenericAlias _BaseGenericAlias _Final",
      "copy_with(self,params) __eq__ __hash__ __repr__ __instancecheck__ __subclasscheck__ " ++
      "__reduce__"),
    ("_LiteralGenericAlias", "_GenericAlias _BaseGenericAlias _Final", "__eq__ __hash__"),
    ("_ConcatenateGenericAlias", "_GenericAlias _BaseGenericAlias _Final",
      "copy_with(self,params)"),
    ("_UnpackGenericAlias", "_GenericAlias _BaseGenericAlias _Final", "__repr__ __getitem__"),
    ("_ProtocolMeta", "abc:ABCMeta builtins:type", "__instancecheck__"),
    ("_AnnotatedAlias", "_NotIterable _GenericAlias _BaseGenericAlias _Final",
      "__init__ copy_with(self,params) __repr__ __reduce__ __eq__ __hash__ __getattr__"),
    ("Annotated", "", "_class_getitem_inner(cls,*)"),
    ("SupportsInt", "Protocol Generic", "__int__ __subclasshook__ __init__"),
    ("SupportsFloat", "Protocol Generic", "__float__ __subclasshook__ __init__"),
    ("SupportsComplex", "Protocol Generic", "__complex__ __subclasshook__ __init__"),
    ("SupportsBytes", "Protocol Generic", "__bytes__ __subclasshook__ __init__"),
    ("SupportsIndex", "Protocol Generic", "__index__ __subclasshook__ __init__"),
    ("SupportsAbs", "Protocol Generic", "__abs__ __subclasshook__ __init__"),
    ("SupportsRound", "Protocol Generic", "__round__ __subclasshook__ __init__"),
    ("NamedTupleMeta", "builtins:type", ""),
    ("_TypedDictMeta", "builtins:type", "__subclasscheck__ __instancecheck__"),
    ("NewType", "", "__init__ __mro_entries__ __repr__ __reduce__ __or__ __ror__"),
    ("IO", "Generic",
      "close(self) fileno(self) flush(self) isatty(self) read(self,n) readable(self) " ++
      "readline(self,limit) readlines(self,hint) seek(self,offset,whence) seekable(self) " ++
      "tell(self) truncate(self,size) writable(self) write(self,s) writelines(self,lines) " ++
      "__enter__ __exit__"),
    ("BinaryIO", "IO Generic", "write(self,s) __enter__"),
    ("TextIO", "IO Generic", "__enter__"),
    ("_DeprecatedType", "builtins:type", "__getattribute__")]),
  ("uuid", [
    ("SafeUUID", "enum:Enum",
      "_new_member_: _generate_next_value_(name,start,count,last_values) __new__ safe= " ++
      "unsafe= unknown="),
    ("UUID", "",
      "__init__ __getstate__ __setstate__ __eq__ __lt__ __gt__ __le__ __ge__ __hash__ __int__ " ++
      "__repr__ __setattr__ __str__")]),
  ("weakref", [
    ("WeakMethod", "ReferenceType", "__call__ __eq__ __ne__"),
    ("WeakValueDictionary",
      "collections.abc:MutableMapping collections.abc:Mapping collections.abc:Collection " ++
      "collections.abc:Sized collections.abc:Iterable collections.abc:Container",
      "__init__ _commit_removals(self,_atomic_removal) __getitem__ __delitem__ __len__ " ++
      "__contains__ __repr__ __setitem__ copy(self) __copy__ __deepcopy__ " ++
      "get(self,key,default) items(self) keys(self) __iter__ itervaluerefs(self) values(self) " ++
      "popitem(self) pop(self,key,*) setdefault(self,key,default) update(self,other,*) " ++
      "valuerefs(self) __ior__ __or__ __ror__"),
    ("KeyedRef", "ReferenceType", "__init__"),
    ("WeakKeyDictionary",
      "collections.abc:MutableMapping collections.abc:Mapping collections.abc:Collection " ++
      "collections.abc:Sized collections.abc:Iterable collections.abc:Container",
      "__init__ _commit_removals(self) _scrub_removals(self) __delitem__ __getitem__ __len__ " ++
      "__repr__ __setitem__ copy(self) __copy__ __deepcopy__ get(self,key,default) " ++
      "__contains__ items(self) keys(self) __iter__ values(self) keyrefs(self) popitem(self) " ++
      "pop(self,key,*) setdefault(self,key,default) update(self,dict,*) __ior__ __or__ " ++
      "__ror__"),
    ("finalize", "", "__init__ __call__ detach(self) peek(self) __repr__")])]

end ServiceStubs.Source.Library
