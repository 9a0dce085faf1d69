/-!
# Library classes of tools

The classes written in the language that serve programs: readers and writers of texts, paths,
command lines, logs, threads and the loading of modules.
-/

namespace ServiceStubs.Source.Library

/-- The classes of tools by their modules: the name of each, the classes that it derives from, and
what it binds. -/
def toolClasses : List (String × List (String × String × String)) := [
  ("_frozen_importlib", [
    ("ModuleSpec", "", "__init__ __repr__ __eq__")]),
  ("_frozen_importlib_external", [
    ("FileLoader", "",
      "__init__ __eq__ __hash__ load_module(self,name,*,*) get_filename(self,name,*,*) " ++
      "get_data(self,path) get_resource_reader(self,name,*,*)"),
    ("SourceLoader", "_LoaderBasics",
      "path_mtime(self,path) path_stats(self,path) " ++
      "_cache_bytecode(self,source_path,cache_path,data) set_data(self,path,data) " ++
      "get_source(self,fullname) source_to_code(self,data,path,_optimize) " ++
      "get_code(self,fullname)"),
    ("_LoaderBasics", "",
      "is_package(self,fullname) create_module(self,spec) exec_module(self,module) " ++
      "load_module(self,fullname)"),
    ("FileFinder", "",
      "__init__ invalidate_caches(self) find_module(self,fullname) find_loader(self,fullname) " ++
      "_get_spec(self,loader_class,fullname,path,smsl,target) find_spec(self,fullname,target) " ++
      "_fill_cache(self) __repr__"),
    ("SourceFileLoader", "FileLoader SourceLoader _LoaderBasics",
      "path_stats(self,path) _cache_bytecode(self,source_path,bytecode_path,data) " ++
      "set_data(self,path,data,_mode)"),
    ("SourcelessFileLoader", "FileLoader _LoaderBasics",
      "get_code(self,fullname) get_source(self,fullname)"),
    ("ExtensionFileLoader", "FileLoader _LoaderBasics",
      "__init__ __eq__ __hash__ create_module(self,spec) exec_module(self,module) " ++
      "is_package(self,fullname) get_code(self,fullname) get_source(self,fullname) " ++
      "get_filename(self,name,*,*)"),
    ("NamespaceLoader", "",
      "__init__ is_package(self,fullname) get_source(self,fullname) get_code(self,fullname) " ++
      "create_module(self,spec) exec_module(self,module) load_module(self,fullname) " ++
      "get_resource_reader(self,module)")]),
  ("_queue", [
    ("Empty", "builtins:Exception builtins:BaseException", "")]),
  ("_thread", [
    ("_ExceptHookArgs", "builtins:tuple", "")]),
  ("argparse", [
    ("_AttributeHolder", "", "__repr__ _get_kwargs(self) _get_args(self)"),
    ("HelpFormatter", "",
      "__init__ _indent(self) _dedent(self) _add_item(self,func,args) " ++
      "start_section(self,heading) end_section(self) add_text(self,text) " ++
      "add_usage(self,usage,actions,groups,prefix) add_argument(self,action) " ++
      "add_arguments(self,actions) format_help(self) _join_parts(self,part_strings) " ++
      "_format_usage(self,usage,actions,groups,prefix) " ++
      "_format_actions_usage(self,actions,groups) _format_text(self,text) " ++
      "_format_action(self,action) _format_action_invocation(self,action) " ++
      "_metavar_formatter(self,action,default_metavar) " ++
      "_format_args(self,action,default_metavar) _expand_help(self,action) " ++
      "_iter_indented_subactions(self,action) _split_lines(self,text,width) " ++
      "_fill_text(self,text,width,indent) _get_help_string(self,action) " ++
      "_get_default_metavar_for_optional(self,action) " ++
      "_get_default_metavar_for_positional(self,action)"),
    ("RawDescriptionHelpFormatter", "HelpFormatter", "_fill_text(self,text,width,indent)"),
    ("RawTextHelpFormatter", "RawDescriptionHelpFormatter HelpFormatter",
      "_split_lines(self,text,width)"),
    ("ArgumentDefaultsHelpFormatter", "HelpFormatter", "_get_help_string(self,action)"),
    ("MetavarTypeHelpFormatter", "HelpFormatter",
      "_get_default_metavar_for_optional(self,action) " ++
      "_get_default_metavar_for_positional(self,action)"),
    ("ArgumentError", "builtins:Exception builtins:BaseException", "__init__ __str__"),
    ("ArgumentTypeError", "builtins:Exception builtins:BaseException", ""),
    ("Action", "_AttributeHolder", "__init__ _get_kwargs(self) format_usage(self) __call__"),
    ("BooleanOptionalAction", "Action _AttributeHolder", "__init__ __call__ format_usage(self)"),
    ("_StoreAction", "Action _AttributeHolder", "__init__ __call__"),
    ("_StoreConstAction", "Action _AttributeHolder", "__init__ __call__"),
    ("_StoreTrueAction", "_StoreConstAction Action _AttributeHolder", "__init__"),
    ("_StoreFalseAction", "_StoreConstAction Action _AttributeHolder", "__init__"),
    ("_AppendAction", "Action _AttributeHolder", "__init__ __call__"),
    ("_AppendConstAction", "Action _AttributeHolder", "__init__ __call__"),
    ("_CountAction", "Action _AttributeHolder", "__init__ __call__"),
    ("_HelpAction", "Action _AttributeHolder", "__init__ __call__"),
    ("_VersionAction", "Action _AttributeHolder", "__init__ __call__"),
    ("_SubParsersAction", "Action _AttributeHolder",
      "__init__ add_parser(self,name,*) _get_subactions(self) __call__"),
    ("_ExtendAction", "_AppendAction Action _AttributeHolder", "__call__"),
    ("FileType", "", "__init__ __call__ __repr__"),
    ("Namespace", "_AttributeHolder", "__init__ __eq__ __contains__"),
    ("_ActionsContainer", "",
      "__init__ register(self,registry_name,value,object) " ++
      "_registry_get(self,registry_name,value,default) set_defaults(self,*) " ++
      "get_default(self,dest) add_argument(self,*,*) add_argument_group(self,*,*) " ++
      "add_mutually_exclusive_group(self,*) _add_action(self,action) " ++
      "_remove_action(self,action) _add_container_actions(self,container) " ++
      "_get_positional_kwargs(self,dest,*) _get_optional_kwargs(self,*,*) " ++
      "_pop_action_class(self,kwargs,default) _get_handler(self) _check_conflict(self,action) " ++
      "_handle_conflict_error(self,action,conflicting_actions) " ++
      "_handle_conflict_resolve(self,action,conflicting_actions)"),
    ("_ArgumentGroup", "_ActionsContainer",
      "__init__ _add_action(self,action) _remove_action(self,action) " ++
      "add_argument_group(self,*,*)"),
    ("_MutuallyExclusiveGroup", "_ArgumentGroup _ActionsContainer",
      "__init__ _add_action(self,action) _remove_action(self,action) " ++
      "add_mutually_exclusive_group(self,*,*)"),
    ("ArgumentParser", "_AttributeHolder _ActionsContainer",
      "__init__ _get_kwargs(self) add_subparsers(self,*) _add_action(self,action) " ++
      "_get_optional_actions(self) _get_positional_actions(self) " ++
      "parse_args(self,args,namespace) parse_known_args(self,args,namespace) " ++
      "_parse_known_args(self,arg_strings,namespace) _read_args_from_files(self,arg_strings) " ++
      "convert_arg_line_to_args(self,arg_line) " ++
      "_match_argument(self,action,arg_strings_pattern) " ++
      "_match_arguments_partial(self,actions,arg_strings_pattern) " ++
      "_parse_optional(self,arg_string) _get_option_tuples(self,option_string) " ++
      "_get_nargs_pattern(self,action) parse_intermixed_args(self,args,namespace) " ++
      "parse_known_intermixed_args(self,args,namespace) _get_values(self,action,arg_strings) " ++
      "_check_value(self,action,value) format_usage(self) format_help(self) " ++
      "_get_formatter(self) print_usage(self,file) print_help(self,file) " ++
      "_print_message(self,message,file) exit(self,status,message) error(self,message)")]),
  ("ast", [
    ("mod", "AST", ""),
    ("Module", "mod AST", ""),
    ("Interactive", "mod AST", ""),
    ("Expression", "mod AST", ""),
    ("FunctionType", "mod AST", ""),
    ("stmt", "AST", ""),
    ("FunctionDef", "stmt AST", ""),
    ("AsyncFunctionDef", "stmt AST", ""),
    ("ClassDef", "stmt AST", ""),
    ("Return", "stmt AST", ""),
    ("Delete", "stmt AST", ""),
    ("Assign", "stmt AST", ""),
    ("AugAssign", "stmt AST", ""),
    ("AnnAssign", "stmt AST", ""),
    ("For", "stmt AST", ""),
    ("AsyncFor", "stmt AST", ""),
    ("While", "stmt AST", ""),
    ("If", "stmt AST", ""),
    ("With", "stmt AST", ""),
    ("AsyncWith", "stmt AST", ""),
    ("Match", "stmt AST", ""),
    ("Raise", "stmt AST", ""),
    ("Try", "stmt AST", ""),
    ("TryStar", "stmt AST", ""),
    ("Assert", "stmt AST", ""),
    ("Import", "stmt AST", ""),
    ("ImportFrom", "stmt AST", ""),
    ("Global", "stmt AST", ""),
    ("Nonlocal", "stmt AST", ""),
    ("Expr", "stmt AST", ""),
    ("Pass", "stmt AST", ""),
    ("Break", "stmt AST", ""),
    ("Continue", "stmt AST", ""),
    ("expr", "AST", ""),
    ("BoolOp", "expr AST", ""),
    ("NamedExpr", "expr AST", ""),
    ("BinOp", "expr AST", ""),
    ("UnaryOp", "expr AST", ""),
    ("Lambda", "expr AST", ""),
    ("IfExp", "expr AST", ""),
    ("Dict", "expr AST", ""),
    ("Set", "expr AST", ""),
    ("ListComp", "expr AST", ""),
    ("SetComp", "expr AST", ""),
    ("DictComp", "expr AST", ""),
    ("GeneratorExp", "expr AST", ""),
    ("Await", "expr AST", ""),
    ("Yield", "expr AST", ""),
    ("YieldFrom", "expr AST", ""),
    ("Compare", "expr AST", ""),
    ("Call", "expr AST", ""),
    ("FormattedValue", "expr AST", ""),
    ("JoinedStr", "expr AST", ""),
    ("Constant", "expr AST", ""),
    ("Attribute", "expr AST", ""),
    ("Subscript", "expr AST", ""),
    ("Starred", "expr AST", ""),
    ("Name", "expr AST", ""),
    ("List", "expr AST", ""),
    ("Tuple", "expr AST", ""),
    ("Slice", "expr AST", ""),
    ("expr_context", "AST", ""),
    ("Load", "expr_context AST", ""),
    ("Store", "expr_context AST", ""),
    ("Del", "expr_context AST", ""),
    ("boolop", "AST", ""),
    ("And", "boolop AST", ""),
    ("Or", "boolop AST", ""),
    ("operator", "AST", ""),
    ("Add", "operator AST", ""),
    ("Sub", "operator AST", ""),
    ("Mult", "operator AST", ""),
    ("MatMult", "operator AST", ""),
    ("Div", "operator AST", ""),
    ("Mod", "operator AST", ""),
    ("Pow", "operator AST", ""),
    ("LShift", "operator AST", ""),
    ("RShift", "operator AST", ""),
    ("BitOr", "operator AST", ""),
    ("BitXor", "operator AST", ""),
    ("BitAnd", "operator AST", ""),
    ("FloorDiv", "operator AST", ""),
    ("unaryop", "AST", ""),
    ("Invert", "unaryop AST", ""),
    ("Not", "unaryop AST", ""),
    ("UAdd", "unaryop AST", ""),
    ("USub", "unaryop AST", ""),
    ("cmpop", "AST", ""),
    ("Eq", "cmpop AST", ""),
    ("NotEq", "cmpop AST", ""),
    ("Lt", "cmpop AST", ""),
    ("LtE", "cmpop AST", ""),
    ("Gt", "cmpop AST", ""),
    ("GtE", "cmpop AST", ""),
    ("Is", "cmpop AST", ""),
    ("IsNot", "cmpop AST", ""),
    ("In", "cmpop AST", ""),
    ("NotIn", "cmpop AST", ""),
    ("comprehension", "AST", ""),
    ("excepthandler", "AST", ""),
    ("ExceptHandler", "excepthandler AST", ""),
    ("arguments", "AST", ""),
    ("arg", "AST", ""),
    ("keyword", "AST", ""),
    ("alias", "AST", ""),
    ("withitem", "AST", ""),
    ("match_case", "AST", ""),
    ("pattern", "AST", ""),
    ("MatchValue", "pattern AST", ""),
    ("MatchSingleton", "pattern AST", ""),
    ("MatchSequence", "pattern AST", ""),
    ("MatchMapping", "pattern AST", ""),
    ("MatchClass", "pattern AST", ""),
    ("MatchStar", "pattern AST", ""),
    ("MatchAs", "pattern AST", ""),
    ("MatchOr", "pattern AST", ""),
    ("type_ignore", "AST", ""),
    ("TypeIgnore", "type_ignore AST", ""),
    ("NodeVisitor", "", "visit(self,node) generic_visit(self,node) visit_Constant(self,node)"),
    ("NodeTransformer", "NodeVisitor", "generic_visit(self,node)"),
    ("_ABC", "builtins:type", "__init__ __instancecheck__"),
    ("Num", "Constant expr AST", ""),
    ("Str", "Constant expr AST", ""),
    ("Bytes", "Constant expr AST", ""),
    ("NameConstant", "Constant expr AST", ""),
    ("Ellipsis", "Constant expr AST", ""),
    ("slice", "AST", ""),
    ("Index", "slice AST", ""),
    ("ExtSlice", "slice AST", ""),
    ("Suite", "mod AST", ""),
    ("AugLoad", "expr_context AST", ""),
    ("AugStore", "expr_context AST", ""),
    ("Param", "expr_context AST", ""),
    ("_Precedence", "enum:IntEnum builtins:int enum:ReprEnum enum:Enum",
      "_new_member_: _generate_next_value_(name,start,count,last_values) next(self) __new__ " ++
      "NAMED_EXPR= TUPLE= YIELD= TEST= OR= AND= NOT= CMP= EXPR= BXOR= BAND= SHIFT= ARITH= " ++
      "TERM= FACTOR= POWER= AWAIT= ATOM="),
    ("_Unparser", "NodeVisitor",
      "__init__ interleave(self,inter,f,seq) items_view(self,traverser,items) " ++
      "maybe_newline(self) fill(self,text) write(self,*) buffered(self,buffer) " ++
      "block(self,extra) delimit(self,start,end) delimit_if(self,start,end,condition) " ++
      "require_parens(self,precedence,node) get_precedence(self,node) " ++
      "set_precedence(self,precedence,*) get_raw_docstring(self,node) " ++
      "get_type_comment(self,node) traverse(self,node) visit(self,node) " ++
      "_write_docstring_and_traverse_body(self,node) visit_Module(self,node) " ++
      "visit_FunctionType(self,node) visit_Expr(self,node) visit_NamedExpr(self,node) " ++
      "visit_Import(self,node) visit_ImportFrom(self,node) visit_Assign(self,node) " ++
      "visit_AugAssign(self,node) visit_AnnAssign(self,node) visit_Return(self,node) " ++
      "visit_Pass(self,node) visit_Break(self,node) visit_Continue(self,node) " ++
      "visit_Delete(self,node) visit_Assert(self,node) visit_Global(self,node) " ++
      "visit_Nonlocal(self,node) visit_Await(self,node) visit_Yield(self,node) " ++
      "visit_YieldFrom(self,node) visit_Raise(self,node) do_visit_try(self,node) " ++
      "visit_Try(self,node) visit_TryStar(self,node) visit_ExceptHandler(self,node) " ++
      "visit_ClassDef(self,node) visit_FunctionDef(self,node) " ++
      "visit_AsyncFunctionDef(self,node) _function_helper(self,node,fill_suffix) " ++
      "visit_For(self,node) visit_AsyncFor(self,node) _for_helper(self,fill,node) " ++
      "visit_If(self,node) visit_While(self,node) visit_With(self,node) " ++
      "visit_AsyncWith(self,node) " ++
      "_str_literal_helper(self,string,quote_types,escape_special_whitespace) " ++
      "_write_str_avoiding_backslashes(self,string,quote_types) visit_JoinedStr(self,node) " ++
      "_write_fstring_inner(self,node) visit_FormattedValue(self,node) visit_Name(self,node) " ++
      "_write_docstring(self,node) _write_constant(self,value) visit_Constant(self,node) " ++
      "visit_List(self,node) visit_ListComp(self,node) visit_GeneratorExp(self,node) " ++
      "visit_SetComp(self,node) visit_DictComp(self,node) visit_comprehension(self,node) " ++
      "visit_IfExp(self,node) visit_Set(self,node) visit_Dict(self,node) " ++
      "visit_Tuple(self,node) visit_UnaryOp(self,node) visit_BinOp(self,node) " ++
      "visit_Compare(self,node) visit_BoolOp(self,node) visit_Attribute(self,node) " ++
      "visit_Call(self,node) visit_Subscript(self,node) visit_Starred(self,node) " ++
      "visit_Ellipsis(self,node) visit_Slice(self,node) visit_Match(self,node) " ++
      "visit_arg(self,node) visit_arguments(self,node) visit_keyword(self,node) " ++
      "visit_Lambda(self,node) visit_alias(self,node) visit_withitem(self,node) " ++
      "visit_match_case(self,node) visit_MatchValue(self,node) " ++
      "visit_MatchSingleton(self,node) visit_MatchSequence(self,node) " ++
      "visit_MatchStar(self,node) visit_MatchMapping(self,node) visit_MatchClass(self,node) " ++
      "visit_MatchAs(self,node) visit_MatchOr(self,node)")]),
  ("codecs", [
    ("CodecInfo", "builtins:tuple", "__repr__"),
    ("Codec", "", "encode(self,input,errors) decode(self,input,errors)"),
    ("IncrementalEncoder", "",
      "__init__ encode(self,input,final) reset(self) getstate(self) setstate(self,state)"),
    ("BufferedIncrementalEncoder", "IncrementalEncoder",
      "__init__ _buffer_encode(self,input,errors,final) encode(self,input,final) reset(self) " ++
      "getstate(self) setstate(self,state)"),
    ("IncrementalDecoder", "",
      "__init__ decode(self,input,final) reset(self) getstate(self) setstate(self,state)"),
    ("BufferedIncrementalDecoder", "IncrementalDecoder",
      "__init__ _buffer_decode(self,input,errors,final) decode(self,input,final) reset(self) " ++
      "getstate(self) setstate(self,state)"),
    ("StreamWriter", "Codec",
      "__init__ write(self,object) writelines(self,list) reset(self) seek(self,offset,whence) " ++
      "__getattr__ __enter__ __exit__ __reduce_ex__"),
    ("StreamReader", "Codec",
      "__init__ decode(self,input,errors) read(self,size,chars,firstline) " ++
      "readline(self,size,keepends) readlines(self,sizehint,keepends) reset(self) " ++
      "seek(self,offset,whence) __next__ __iter__ __getattr__ __enter__ __exit__ " ++
      "__reduce_ex__"),
    ("StreamReaderWriter", "",
      "__init__ read(self,size) readline(self,size) readlines(self,sizehint) __next__ " ++
      "__iter__ write(self,data) writelines(self,list) reset(self) seek(self,offset,whence) " ++
      "__getattr__ __enter__ __exit__ __reduce_ex__"),
    ("StreamRecoder", "",
      "__init__ read(self,size) readline(self,size) readlines(self,sizehint) __next__ " ++
      "__iter__ write(self,data) writelines(self,list) reset(self) seek(self,offset,whence) " ++
      "__getattr__ __enter__ __exit__ __reduce_ex__")]),
  ("dis", [
    ("_Unknown", "", "__repr__"),
    ("Positions", "builtins:tuple", "_replace(self,*) __repr__ _asdict(self) __getnewargs__"),
    ("_Instruction", "builtins:tuple", "_replace(self,*) __repr__ _asdict(self) __getnewargs__"),
    ("_ExceptionTableEntry", "builtins:tuple",
      "_replace(self,*) __repr__ _asdict(self) __getnewargs__"),
    ("Instruction", "_Instruction builtins:tuple",
      "_disassemble(self,lineno_width,mark_as_current,offset_width)"),
    ("Bytecode", "", "__init__ __iter__ __repr__ info(self) dis(self)")]),
  ("gettext", [
    ("NullTranslations", "",
      "__init__ _parse(self,fp) add_fallback(self,fallback) gettext(self,message) " ++
      "ngettext(self,msgid1,msgid2,n) pgettext(self,context,message) " ++
      "npgettext(self,context,msgid1,msgid2,n) info(self) charset(self) install(self,names)"),
    ("GNUTranslations", "NullTranslations",
      "_get_versions(self,version) _parse(self,fp) gettext(self,message) " ++
      "ngettext(self,msgid1,msgid2,n) pgettext(self,context,message) " ++
      "npgettext(self,context,msgid1,msgid2,n)")]),
  ("importlib._abc", [
    ("Loader", "",
      "create_module(self,spec) load_module(self,fullname) module_repr(self,module)")]),
  ("importlib.abc", [
    ("Finder", "", "__init__ find_module(self,fullname,path)"),
    ("MetaPathFinder", "", "find_module(self,fullname,path) invalidate_caches(self)"),
    ("PathEntryFinder", "",
      "find_loader(self,fullname) find_module(self,fullname) invalidate_caches(self)"),
    ("ResourceLoader", "importlib._abc:Loader", "get_data(self,path)"),
    ("InspectLoader", "importlib._abc:Loader",
      "is_package(self,fullname) get_code(self,fullname) get_source(self,fullname) " ++
      "exec_module(self,module) load_module(self,fullname)"),
    ("ExecutionLoader", "InspectLoader importlib._abc:Loader",
      "get_filename(self,fullname) get_code(self,fullname)"),
    ("FileLoader",
      "_frozen_importlib_external:FileLoader ResourceLoader ExecutionLoader InspectLoader " ++
      "importlib._abc:Loader",
      ""),
    ("SourceLoader",
      "_frozen_importlib_external:SourceLoader _frozen_importlib_external:_LoaderBasics " ++
      "ResourceLoader ExecutionLoader InspectLoader importlib._abc:Loader",
      "path_mtime(self,path) path_stats(self,path) set_data(self,path,data)")]),
  ("importlib.util", [
    ("_LazyModule", "builtins:module", "__getattribute__ __delattr__"),
    ("LazyLoader", "importlib._abc:Loader",
      "__init__ create_module(self,spec) exec_module(self,module)")]),
  ("inspect", [
    ("Attribute", "builtins:tuple", "_replace(self,*) __repr__ _asdict(self) __getnewargs__"),
    ("ClassFoundException", "builtins:Exception builtins:BaseException", ""),
    ("_ClassFinder", "ast:NodeVisitor",
      "__init__ visit_FunctionDef(self,node) visit_AsyncFunctionDef(self,node) " ++
      "visit_ClassDef(self,node)"),
    ("EndOfBlock", "builtins:Exception builtins:BaseException", ""),
    ("BlockFinder", "", "__init__ tokeneater(self,type,token,srowcol,erowcol,line)"),
    ("Arguments", "builtins:tuple", "_replace(self,*) __repr__ _asdict(self) __getnewargs__"),
    ("FullArgSpec", "builtins:tuple", "_replace(self,*) __repr__ _asdict(self) __getnewargs__"),
    ("ArgInfo", "builtins:tuple", "_replace(self,*) __repr__ _asdict(self) __getnewargs__"),
    ("ClosureVars", "builtins:tuple", "_replace(self,*) __repr__ _asdict(self) __getnewargs__"),
    ("_Traceback", "builtins:tuple", "_replace(self,*) __repr__ _asdict(self) __getnewargs__"),
    ("Traceback", "_Traceback builtins:tuple", "__repr__"),
    ("_FrameInfo", "builtins:tuple", "_replace(self,*) __repr__ _asdict(self) __getnewargs__"),
    ("FrameInfo", "_FrameInfo builtins:tuple", "__repr__"),
    ("_ParameterKind", "enum:IntEnum builtins:int enum:ReprEnum enum:Enum",
      "_generate_next_value_(name,start,count,last_values) __new__ __str__ " ++
      "_new_member_(cls,description) __new_member__ POSITIONAL_ONLY= POSITIONAL_OR_KEYWORD= " ++
      "VAR_POSITIONAL= KEYWORD_ONLY= VAR_KEYWORD="),
    ("Parameter", "",
      "__init__ __reduce__ __setstate__ replace(self,name,kind,annotation,default) __str__ " ++
      "__repr__ __hash__ __eq__"),
    ("BoundArguments", "",
      "__init__ apply_defaults(self) __eq__ __setstate__ __getstate__ __repr__"),
    ("Signature", "",
      "__init__ replace(self,parameters,return_annotation) _hash_basis(self) __hash__ __eq__ " ++
      "_bind(self,args,kwargs,partial) bind(self,*,*) bind_partial(self,*,*) __reduce__ " ++
      "__setstate__ __repr__ __str__")]),
  ("io", [
    ("UnsupportedOperation",
      "builtins:OSError builtins:ValueError builtins:Exception builtins:BaseException",
      ""),
    ("IOBase", "_io:_IOBase", ""),
    ("RawIOBase", "_io:_RawIOBase IOBase _io:_IOBase", ""),
    ("BufferedIOBase", "_io:_BufferedIOBase IOBase _io:_IOBase", ""),
    ("TextIOBase", "_io:_TextIOBase IOBase _io:_IOBase", "")]),
  ("ipaddress", [
    ("AddressValueError", "builtins:ValueError builtins:Exception builtins:BaseException", ""),
    ("NetmaskValueError", "builtins:ValueError builtins:Exception builtins:BaseException", ""),
    ("_IPAddressBase", "",
      "_check_int_address(self,address) _check_packed_address(self,address,expected_len) " ++
      "__reduce__"),
    ("_BaseAddress", "_IPAddressBase",
      "__int__ __eq__ __lt__ __add__ __sub__ __repr__ __str__ __hash__ _get_address_key(self) " ++
      "__reduce__ __format__ __gt__ __le__ __ge__"),
    ("_BaseNetwork", "_IPAddressBase",
      "__repr__ __str__ hosts(self) __iter__ __getitem__ __lt__ __eq__ __hash__ __contains__ " ++
      "overlaps(self,other) address_exclude(self,other) compare_networks(self,other) " ++
      "_get_networks_key(self) subnets(self,prefixlen_diff,new_prefix) " ++
      "supernet(self,prefixlen_diff,new_prefix) subnet_of(self,other) supernet_of(self,other) " ++
      "__gt__ __le__ __ge__"),
    ("_BaseV4", "", "_explode_shorthand_ip_string(self) _reverse_pointer(self)"),
    ("IPv4Address", "_BaseV4 _BaseAddress _IPAddressBase", "__init__"),
    ("IPv4Interface", "IPv4Address _BaseV4 _BaseAddress _IPAddressBase",
      "__init__ __str__ __eq__ __lt__ __hash__ __reduce__"),
    ("IPv4Network", "_BaseV4 _BaseNetwork _IPAddressBase", "__init__"),
    ("_BaseV6", "", "_explode_shorthand_ip_string(self) _reverse_pointer(self)"),
    ("IPv6Address", "_BaseV6 _BaseAddress _IPAddressBase",
      "__init__ __str__ __hash__ __eq__ __reduce__"),
    ("IPv6Interface", "IPv6Address _BaseV6 _BaseAddress _IPAddressBase",
      "__init__ __str__ __eq__ __lt__ __hash__ __reduce__"),
    ("IPv6Network", "_BaseV6 _BaseNetwork _IPAddressBase", "__init__ hosts(self)")]),
  ("json.decoder", [
    ("JSONDecoder", "", "__init__ decode(self,s,_w) raw_decode(self,s,idx)"),
    ("JSONDecodeError", "builtins:ValueError builtins:Exception builtins:BaseException",
      "__init__ __reduce__")]),
  ("json.encoder", [
    ("JSONEncoder", "", "__init__ default(self,o) encode(self,o) iterencode(self,o,_one_shot)")]),
  ("logging", [
    ("LogRecord", "", "__init__ __repr__ getMessage(self)"),
    ("PercentStyle", "",
      "__init__ usesTime(self) validate(self) _format(self,record) format(self,record)"),
    ("StrFormatStyle", "PercentStyle", "_format(self,record) validate(self)"),
    ("StringTemplateStyle", "PercentStyle",
      "__init__ usesTime(self) validate(self) _format(self,record)"),
    ("Formatter", "",
      "__init__ formatTime(self,record,datefmt) formatException(self,ei) usesTime(self) " ++
      "formatMessage(self,record) formatStack(self,stack_info) format(self,record)"),
    ("BufferingFormatter", "",
      "__init__ formatHeader(self,records) formatFooter(self,records) format(self,records)"),
    ("Filter", "", "__init__ filter(self,record)"),
    ("Filterer", "",
      "__init__ addFilter(self,filter) removeFilter(self,filter) filter(self,record)"),
    ("Handler", "Filterer",
      "__init__ get_name(self) set_name(self,name) createLock(self) _at_fork_reinit(self) " ++
      "acquire(self) release(self) setLevel(self,level) format(self,record) emit(self,record) " ++
      "handle(self,record) setFormatter(self,fmt) flush(self) close(self) " ++
      "handleError(self,record) __repr__"),
    ("StreamHandler", "Handler Filterer",
      "__init__ flush(self) emit(self,record) setStream(self,stream) __repr__"),
    ("FileHandler", "StreamHandler Handler Filterer",
      "__init__ close(self) _open(self) emit(self,record) __repr__"),
    ("_StderrHandler", "StreamHandler Handler Filterer", "__init__"),
    ("PlaceHolder", "", "__init__ append(self,alogger)"),
    ("Manager", "",
      "__init__ getLogger(self,name) setLoggerClass(self,klass) " ++
      "setLogRecordFactory(self,factory) _fixupParents(self,alogger) " ++
      "_fixupChildren(self,ph,alogger) _clear_cache(self)"),
    ("Logger", "Filterer",
      "__init__ setLevel(self,level) debug(self,msg,*,*) info(self,msg,*,*) " ++
      "warning(self,msg,*,*) warn(self,msg,*,*) error(self,msg,*,*) " ++
      "exception(self,msg,*,exc_info,*) critical(self,msg,*,*) fatal(self,msg,*,*) " ++
      "log(self,level,msg,*,*) findCaller(self,stack_info,stacklevel) " ++
      "makeRecord(self,name,level,fn,lno,msg,args,exc_info,func,extra,sinfo) " ++
      "_log(self,level,msg,args,exc_info,extra,stack_info,stacklevel) handle(self,record) " ++
      "addHandler(self,hdlr) removeHandler(self,hdlr) hasHandlers(self) " ++
      "callHandlers(self,record) getEffectiveLevel(self) isEnabledFor(self,level) " ++
      "getChild(self,suffix) __repr__ __reduce__"),
    ("RootLogger", "Logger Filterer", "__init__ __reduce__"),
    ("LoggerAdapter", "",
      "__init__ process(self,msg,kwargs) debug(self,msg,*,*) info(self,msg,*,*) " ++
      "warning(self,msg,*,*) warn(self,msg,*,*) error(self,msg,*,*) " ++
      "exception(self,msg,*,exc_info,*) critical(self,msg,*,*) log(self,level,msg,*,*) " ++
      "isEnabledFor(self,level) setLevel(self,level) getEffectiveLevel(self) " ++
      "hasHandlers(self) _log(self,level,msg,args,*) __repr__"),
    ("NullHandler", "Handler Filterer",
      "handle(self,record) emit(self,record) createLock(self) _at_fork_reinit(self)")]),
  ("os", [
    ("stat_result", "builtins:tuple", ""),
    ("statvfs_result", "builtins:tuple", ""),
    ("terminal_size", "builtins:tuple", ""),
    ("_Environ",
      "collections.abc:MutableMapping collections.abc:Mapping collections.abc:Collection " ++
      "collections.abc:Sized collections.abc:Iterable collections.abc:Container",
      "__init__ __getitem__ __setitem__ __delitem__ __iter__ __len__ __repr__ copy(self) " ++
      "setdefault(self,key,value) __ior__ __or__ __ror__"),
    ("_wrap_close", "", "__init__ close(self) __enter__ __exit__ __getattr__ __iter__"),
    ("PathLike", "abc:ABC", "__fspath__")]),
  ("pathlib", [
    ("_Flavour", "",
      "__init__ parse_parts(self,parts) " ++
      "join_parsed_parts(self,drv,root,parts,drv2,root2,parts2)"),
    ("_WindowsFlavour", "_Flavour",
      "splitroot(self,part,sep) casefold(self,s) casefold_parts(self,parts) " ++
      "compile_pattern(self,pattern) _split_extended_path(self,s,ext_prefix) " ++
      "is_reserved(self,parts) make_uri(self,path)"),
    ("_PosixFlavour", "_Flavour",
      "splitroot(self,part,sep) casefold(self,s) casefold_parts(self,parts) " ++
      "compile_pattern(self,pattern) is_reserved(self,parts) make_uri(self,path)"),
    ("_Selector", "", "__init__ select_from(self,parent_path)"),
    ("_TerminatingSelector", "", "_select_from(self,parent_path,is_dir,exists,scandir)"),
    ("_PreciseSelector", "_Selector",
      "__init__ _select_from(self,parent_path,is_dir,exists,scandir)"),
    ("_WildcardSelector", "_Selector",
      "__init__ _select_from(self,parent_path,is_dir,exists,scandir)"),
    ("_RecursiveWildcardSelector", "_Selector",
      "__init__ _iterate_directories(self,parent_path,is_dir,scandir) " ++
      "_select_from(self,parent_path,is_dir,exists,scandir)"),
    ("_PathParents",
      "collections.abc:Sequence collections.abc:Reversible collections.abc:Collection " ++
      "collections.abc:Sized collections.abc:Iterable collections.abc:Container",
      "__init__ __len__ __getitem__ __repr__"),
    ("PurePath", "",
      "__reduce__ _make_child(self,args) __str__ __fspath__ as_posix(self) __bytes__ __repr__ " ++
      "as_uri(self) __eq__ __hash__ __lt__ __le__ __gt__ __ge__ with_name(self,name) " ++
      "with_stem(self,stem) with_suffix(self,suffix) relative_to(self,*) " ++
      "is_relative_to(self,*) joinpath(self,*) __truediv__ __rtruediv__ is_absolute(self) " ++
      "is_reserved(self) match(self,path_pattern)"),
    ("PurePosixPath", "PurePath", ""),
    ("PureWindowsPath", "PurePath", ""),
    ("Path", "PurePath",
      "_make_child_relpath(self,part) __enter__ __exit__ samefile(self,other_path) " ++
      "iterdir(self) _scandir(self) glob(self,pattern) rglob(self,pattern) absolute(self) " ++
      "resolve(self,strict) stat(self,follow_symlinks) owner(self) group(self) " ++
      "open(self,mode,buffering,encoding,errors,newline) read_bytes(self) " ++
      "read_text(self,encoding,errors) write_bytes(self,data) " ++
      "write_text(self,data,encoding,errors,newline) readlink(self) touch(self,mode,exist_ok) " ++
      "mkdir(self,mode,parents,exist_ok) chmod(self,mode,follow_symlinks) lchmod(self,mode) " ++
      "unlink(self,missing_ok) rmdir(self) lstat(self) rename(self,target) " ++
      "replace(self,target) symlink_to(self,target,target_is_directory) " ++
      "hardlink_to(self,target) link_to(self,target) exists(self) is_dir(self) is_file(self) " ++
      "is_mount(self) is_symlink(self) is_block_device(self) is_char_device(self) " ++
      "is_fifo(self) is_socket(self) expanduser(self)"),
    ("PosixPath", "Path PurePosixPath PurePath", ""),
    ("WindowsPath", "Path PureWindowsPath PurePath", "is_mount(self)")]),
  ("posix", [
    ("waitid_result", "builtins:tuple", ""),
    ("sched_param", "builtins:tuple", ""),
    ("times_result", "builtins:tuple", ""),
    ("uname_result", "builtins:tuple", "")]),
  ("re", [
    ("RegexFlag", "enum:IntFlag builtins:int enum:ReprEnum enum:Flag enum:Enum",
      "_new_member_: _generate_next_value_(name,start,count,last_values) __or__ __xor__ " ++
      "__and__ __ror__ __rxor__ __rand__ __invert__ __new__ __repr__ ASCII= IGNORECASE= " ++
      "LOCALE= UNICODE= MULTILINE= DOTALL= VERBOSE= TEMPLATE= DEBUG="),
    ("error", "builtins:Exception builtins:BaseException", "__init__"),
    ("Scanner", "", "__init__ scan(self,string)")]),
  ("threading", [
    ("_RLock", "",
      "__init__ __repr__ _at_fork_reinit(self) acquire(self,blocking,timeout) __enter__ " ++
      "release(self) __exit__ _acquire_restore(self,state) _release_save(self) " ++
      "_is_owned(self) _recursion_count(self)"),
    ("Condition", "",
      "__init__ _at_fork_reinit(self) __enter__ __exit__ __repr__ _release_save(self) " ++
      "_acquire_restore(self,x) _is_owned(self) wait(self,timeout) " ++
      "wait_for(self,predicate,timeout) notify(self,n) notify_all(self) notifyAll(self)"),
    ("Semaphore", "",
      "__init__ __repr__ acquire(self,blocking,timeout) __enter__ release(self,n) __exit__"),
    ("BoundedSemaphore", "Semaphore", "__init__ __repr__ release(self,n)"),
    ("Event", "",
      "__init__ __repr__ _at_fork_reinit(self) is_set(self) isSet(self) set(self) clear(self) " ++
      "wait(self,timeout)"),
    ("Barrier", "",
      "__init__ __repr__ wait(self,timeout) _enter(self) _release(self) _wait(self,timeout) " ++
      "_exit(self) reset(self) abort(self) _break(self)"),
    ("BrokenBarrierError", "builtins:RuntimeError builtins:Exception builtins:BaseException", ""),
    ("Thread", "",
      "__init__ _reset_internal_locks(self,is_alive) __repr__ start(self) run(self) " ++
      "_bootstrap(self) _set_ident(self) _set_native_id(self) _set_tstate_lock(self) " ++
      "_bootstrap_inner(self) _stop(self) _delete(self) join(self,timeout) " ++
      "_wait_for_tstate_lock(self,block,timeout) is_alive(self) isDaemon(self) " ++
      "setDaemon(self,daemonic) getName(self) setName(self,name)"),
    ("Timer", "Thread", "__init__ cancel(self) run(self)"),
    ("_MainThread", "Thread", "__init__"),
    ("_DummyThread", "Thread", "__init__ _stop(self) is_alive(self) join(self,timeout)")]),
  ("time", [
    ("struct_time", "builtins:tuple", "")]),
  ("tokenize", [
    ("TokenInfo", "builtins:tuple", "__repr__"),
    ("TokenError", "builtins:Exception builtins:BaseException", ""),
    ("StopTokenizing", "builtins:Exception builtins:BaseException", ""),
    ("Untokenizer", "",
      "__init__ add_whitespace(self,start) untokenize(self,iterable) " ++
      "compat(self,token,iterable)")]),
  ("traceback", [
    ("_Sentinel", "", "__repr__"),
    ("FrameSummary", "", "__init__ __eq__ __getitem__ __iter__ __repr__ __len__"),
    ("StackSummary", "builtins:list", "format_frame_summary(self,frame_summary) format(self)"),
    ("_Anchors", "builtins:tuple", "_replace(self,*) __repr__ _asdict(self) __getnewargs__"),
    ("_ExceptionPrintContext", "", "__init__ indent(self) emit(self,text_gen,margin_char)"),
    ("TracebackException", "",
      "__init__ _load_lines(self) __eq__ __str__ format_exception_only(self) " ++
      "_format_syntax_error(self,stype) format(self,chain,_ctx) print(self,file,chain)")]),
  ("urllib.parse", [
    ("_ResultMixinStr", "", "encode(self,encoding,errors)"),
    ("_ResultMixinBytes", "", "decode(self,encoding,errors)"),
    ("_NetlocResultMixinStr", "_NetlocResultMixinBase _ResultMixinStr", ""),
    ("_NetlocResultMixinBytes", "_NetlocResultMixinBase _ResultMixinBytes", ""),
    ("DefragResult", "builtins:tuple _ResultMixinStr", "geturl(self)"),
    ("SplitResult",
      "builtins:tuple _NetlocResultMixinStr _NetlocResultMixinBase _ResultMixinStr",
      "geturl(self)"),
    ("ParseResult",
      "builtins:tuple _NetlocResultMixinStr _NetlocResultMixinBase _ResultMixinStr",
      "geturl(self)"),
    ("DefragResultBytes", "DefragResult builtins:tuple _ResultMixinBytes", "geturl(self)"),
    ("SplitResultBytes",
      "SplitResult builtins:tuple _NetlocResultMixinBytes _NetlocResultMixinBase " ++
      "_ResultMixinBytes",
      "geturl(self)"),
    ("ParseResultBytes",
      "ParseResult builtins:tuple _NetlocResultMixinBytes _NetlocResultMixinBase " ++
      "_ResultMixinBytes",
      "geturl(self)"),
    ("_Quoter", "builtins:dict", "__init__ __repr__ __missing__")]),
  ("warnings", [
    ("_OptionError", "builtins:Exception builtins:BaseException", ""),
    ("WarningMessage", "", "__init__ __str__"),
    ("catch_warnings", "", "__init__ __repr__ __enter__ __exit__")]),
  ("zipimport", [
    ("ZipImportError", "builtins:ImportError builtins:Exception builtins:BaseException", ""),
    ("zipimporter", "_frozen_importlib_external:_LoaderBasics",
      "__init__ find_loader(self,fullname,path) find_module(self,fullname,path) " ++
      "find_spec(self,fullname,target) get_code(self,fullname) get_data(self,pathname) " ++
      "get_filename(self,fullname) get_source(self,fullname) is_package(self,fullname) " ++
      "load_module(self,fullname) get_resource_reader(self,fullname) invalidate_caches(self) " ++
      "__repr__")])]

end ServiceStubs.Source.Library
