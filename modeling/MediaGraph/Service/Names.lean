import MediaGraph.Service.Contents

namespace MediaGraph.Packaged

/-!
# What else stands in the packaged modules

A target may lead to anything that is found in a module.  Where it leads to no class, nothing more is
known of it than that it is there.

* `otherNames` — the names that are found in the packaged modules besides their classes, and those
  in the classes.
-/

/-- The names in some lines. -/
def namesIn (lines : List String) : List String := lines.flatMap (Text.splitAt ' ')

/-- The names in the packaged modules. -/
def namesInModules : List (String × List String) :=
  [("mediaconf",
     ["annotations"]),
   ("mediaconf.__main__",
     ["annotations cli"]),
   ("mediaconf.cli.cmd_common",
     ["annotations TYPE_CHECKING click MediaconfConfigError MediaconfFileNotFoundError",
      "load_config_file ConfigEnvironment default_config MediaconfLogger get_logger",
      "ConfigurationError logger get_console get_effective_verbosity config_error load_cli_config"]),
   ("mediaconf.cli.commands.check",
     ["annotations Path TYPE_CHECKING click get_console get_effective_verbosity load_cli_config",
      "qualified_name check_command"]),
   ("mediaconf.cli.commands.detect",
     ["annotations Path TYPE_CHECKING click get_console load_cli_config MediaconfCliError",
      "MediaconfFileNotFoundError MediaconfIOError config_option RESOURCE_NAME_KEY ParseFailure",
      "file_argument _check_exists detect_command parse_command"]),
   ("mediaconf.cli.commands.services",
     ["annotations json TYPE_CHECKING Any click config_error get_console get_effective_verbosity",
      "EnumChoiceParam OutputFormat output_format_option ConfigEnvironment ConfigurationError",
      "ServiceFamily services_command"]),
   ("mediaconf.cli.commands.show",
     ["annotations json TYPE_CHECKING Any click get_console load_cli_config OutputFormat",
      "config_option output_format_option describe_config render_tree show_command"]),
   ("mediaconf.cli.commands.version",
     ["annotations json TYPE_CHECKING click get_console get_effective_verbosity OutputFormat",
      "output_format_option MEDIACONF_VERSION version_command"]),
   ("mediaconf.cli.console",
     ["annotations sys Any Protocol TextIO click ConsoleLike ClickConsole"]),
   ("mediaconf.cli.errors",
     ["annotations IO Any click ExitCode MediaconfCliError MediaconfUsageError",
      "MediaconfConfigError MediaconfFileNotFoundError MediaconfIOError"]),
   ("mediaconf.cli.exit_codes",
     ["IntEnum ExitCode"]),
   ("mediaconf.cli.main",
     ["annotations TYPE_CHECKING click check_command detect_command parse_command",
      "services_command show_command version_command ClickConsole ColorMode common_color_options",
      "common_verbose_options resolve_color_mode resolve_verbosity get_logger",
      "resolve_env_log_level setup_logging logger init_common_state cli"]),
   ("mediaconf.cli.options",
     ["annotations os sys Enum Path TYPE_CHECKING Callable Generic NoReturn Protocol TypeVar cast",
      "click MediaconfUsageError ParamTypeBase E F OutputFormat ColorMode EnumChoiceParam",
      "resolve_verbosity resolve_color_mode common_verbose_options common_color_options",
      "config_option output_format_option"]),
   ("mediaconf.config.assembler",
     ["annotations Path IO TYPE_CHECKING DetectorBinding ParserBinding first_child parse_file",
      "parse_stream parse_text parse_url load_overall MediaconfLogger get_logger MediaConfig",
      "load_translator ATTR_RESOURCE TAG_MIME_REPOSITORY ConfigurationError",
      "get_builtin_repository ServiceLoader logger load_repository load_config load_config_text",
      "load_config_stream load_config_file load_config_url builtin_config"]),
   ("mediaconf.config.bindings",
     ["annotations ET ABC abstractmethod TYPE_CHECKING Any ClassVar Sequence iter_texts",
      "MediaconfLogger get_logger EXCLUDE_SUFFIX TAG_DETECTOR TAG_DETECTORS TAG_MIME",
      "TAG_MIME_EXCLUDE TAG_PARSER TAG_PARSERS ConfigurationError MediaTypeError MediaType",
      "ServiceFamily ConstructionShape logger CapabilityBinding DetectorBinding ParserBinding"]),
   ("mediaconf.config.describe",
     ["annotations TYPE_CHECKING Any ComponentPayload qualified_name describe_component",
      "describe_config render_tree"]),
   ("mediaconf.config.document",
     ["annotations ET Path IO TYPE_CHECKING URLError urlopen MediaconfLogger get_logger",
      "ATTR_CLASS ConfigurationError logger parse_text parse_stream parse_file parse_url",
      "descendants children first_child text_of iter_texts class_name"]),
   ("mediaconf.config.environment",
     ["annotations os dataclass files Path TYPE_CHECKING Mapping urlparse builtin_config",
      "load_config_file load_config_text load_config_url MediaconfLogger get_logger ENV_CONFIG",
      "ENV_PATH ENV_SERVICES PACKAGED_CONFIG_PACKAGE ConfigurationError ServiceLoader logger",
      "URL_SCHEMES _split_paths ConfigEnvironment default_config get_default_config"]),
   ("mediaconf.config.loader",
     ["annotations TYPE_CHECKING Any Sequence children class_name descendants MediaconfLogger",
      "get_logger ConfigurationError ServiceUnavailableError UnknownServiceError",
      "ConstructionShape supported_shapes logger top_level_items resolve_class construct load_one",
      "load_overall"]),
   ("mediaconf.config.logging",
     ["annotations logging os sys TYPE_CHECKING Callable Final cast chalk ENV_LOG_LEVEL",
      "TRACE_LEVEL LOG_FORMAT DEBUG_LOG_FORMAT _LEVEL_COLORS _LEVEL_NAMES MediaconfLogger",
      "ChalkFormatter resolve_env_log_level setup_logging get_logger"]),
   ("mediaconf.config.model",
     ["annotations dataclass TYPE_CHECKING MediaConfig"]),
   ("mediaconf.config.translator",
     ["annotations TYPE_CHECKING Any children class_name MediaconfLogger get_logger",
      "TAG_TRANSLATOR ConfigurationError ServiceUnavailableError UnknownServiceError",
      "ServiceFamily logger load_translator"]),
   ("mediaconf.constants",
     ["annotations PackageNotFoundError get_version Final MEDIACONF_VERSION BUILTIN_TYPES_PACKAGE",
      "BUILTIN_TYPES_RESOURCE BUILTIN_SERVICES_PACKAGE BUILTIN_SERVICES_RESOURCE",
      "PACKAGED_CONFIG_PACKAGE ENV_CONFIG ENV_PATH ENV_SERVICES ENV_LOG_LEVEL RESOURCE_NAME_KEY",
      "CONTENT_TYPE_KEY TAG_MIME_REPOSITORY TAG_DETECTORS TAG_DETECTOR TAG_PARSERS TAG_PARSER",
      "TAG_TRANSLATOR TAG_MIME TAG_MIME_EXCLUDE EXCLUDE_SUFFIX ATTR_CLASS ATTR_RESOURCE"]),
   ("mediaconf.detect.base",
     ["annotations ABC abstractmethod TYPE_CHECKING BinaryIO Mapping Constructible"]),
   ("mediaconf.detect.builtins",
     ["annotations BinaryIO Final Mapping CONTENT_TYPE_KEY MediaType peek TEXT_WINDOW",
      "_TEXT_CONTROLS"]),
   ("mediaconf.detect.composite",
     ["annotations Any BinaryIO ClassVar Iterable Mapping Sequence MediaconfLogger get_logger",
      "MediaTypeRegistry MediaType ConstructionShape logger is_excluded"]),
   ("mediaconf.detect.default",
     ["annotations TYPE_CHECKING ClassVar Iterable MediaconfLogger get_logger ServiceFamily",
      "ServiceLoader ConstructionShape logger"]),
   ("mediaconf.errors",
     ["annotations MediaconfError ConfigurationError MediaTypeError ServiceResolutionError",
      "UnknownServiceError ServiceUnavailableError TranslatorUnavailableError ParseFailure"]),
   ("mediaconf.mime.registry",
     ["annotations dataclass field MappingProxyType TYPE_CHECKING Iterator Mapping",
      "MediaconfLogger get_logger MediaType logger MediaTypeRegistry MutableMediaTypeRegistry"]),
   ("mediaconf.mime.repository",
     ["annotations fnmatch dataclass lru_cache files Path MappingProxyType TYPE_CHECKING Any",
      "BinaryIO Mapping cast tomlkit TomlkitParseError MediaconfLogger get_logger",
      "BUILTIN_TYPES_PACKAGE BUILTIN_TYPES_RESOURCE CONTENT_TYPE_KEY RESOURCE_NAME_KEY",
      "ConfigurationError MediaTypeError MediaTypeRegistry MutableMediaTypeRegistry MediaType",
      "peek logger MAGIC_WINDOW MimeTypeInfo _read_entry get_builtin_repository"]),
   ("mediaconf.mime.types",
     ["annotations re dataclass field ClassVar Final Iterable MediaTypeError _TOKEN _TYPE_RE",
      "_PARAM_RE _unquote MediaType _quote"]),
   ("mediaconf.parse.auto",
     ["annotations TYPE_CHECKING BinaryIO Mapping MediaconfLogger get_logger CONTENT_TYPE_KEY",
      "ensure_seekable logger"]),
   ("mediaconf.parse.base",
     ["annotations ABC abstractmethod dataclass field TYPE_CHECKING Any BinaryIO Dict TypeVar",
      "cast Constructible V Metadata ParseContext ParsedContent"]),
   ("mediaconf.parse.builtins",
     ["annotations ET TYPE_CHECKING BinaryIO Final CONTENT_TYPE_KEY ParseFailure MediaType",
      "ParseContext ParsedContent DEFAULT_ENCODING"]),
   ("mediaconf.parse.composite",
     ["annotations MappingProxyType TYPE_CHECKING Any BinaryIO ClassVar Iterable Mapping Sequence",
      "MediaconfLogger get_logger CONTENT_TYPE_KEY MediaTypeRegistry MediaType ParseContext",
      "ParsedContent innermost_parser ConstructionShape logger is_parser_excluded"]),
   ("mediaconf.parse.decorator",
     ["annotations TYPE_CHECKING BinaryIO ClassVar Iterable ParseContext ParsedContent",
      "ConstructionShape innermost_parser"]),
   ("mediaconf.parse.default",
     ["annotations TYPE_CHECKING ClassVar Iterable MediaconfLogger get_logger",
      "get_builtin_repository ServiceFamily ServiceLoader ConstructionShape logger"]),
   ("mediaconf.services.loader",
     ["annotations dataclass field Enum import_module EntryPoints entry_points files",
      "TYPE_CHECKING Any Iterable Iterator cast tomlkit TomlkitParseError MediaconfLogger",
      "get_logger BUILTIN_SERVICES_PACKAGE BUILTIN_SERVICES_RESOURCE ConfigurationError",
      "ServiceUnavailableError UnknownServiceError logger ServiceFamily ServiceEntry",
      "ServiceLoader"]),
   ("mediaconf.services.shapes",
     ["annotations Enum Any ClassVar ConstructionShape Constructible supported_shapes"]),
   ("mediaconf.translate.base",
     ["annotations ABC abstractmethod MediaconfLogger get_logger TranslatorUnavailableError",
      "ServiceFamily ServiceLoader Constructible logger"]),
   ("mediaconf.utils.streams",
     ["annotations io BinaryIO ensure_seekable peek"])]

/-- The names in all classes. -/
def commonNames : List String :=
  ["__bases__", "__dict__", "__doc__", "__init__", "__module__", "__mro__", "__name__",
   "__qualname__", "construction_shapes", "supports"]

/-- The names in the packaged classes. -/
def namesInClasses : List (ClassRef × List String) :=
  [(Detector.baseClass, "detect" :: commonNames),
   (Detector.compositeClass, ["detectors", "from_children", "from_list", "registry"]),
   (Detector.defaultClass, ["from_loader"]),
   (Detector.repositoryClass,
     ["detect_by_magic", "detect_by_name", "from_toml_text", "get_info", "infos", "load_resource",
      "registry"]),
   (Parser.baseClass, "get_supported_types" :: "parse" :: commonNames),
   (Parser.textClass, ["SUPPORTED"]), (Parser.xmlClass, ["SUPPORTED"]),
   (Parser.compositeClass,
     ["excluded", "fallback", "find_parser", "from_children", "get_parsers", "parsers",
      "registry"]),
   (Parser.defaultClass, ["from_loader"]), (Parser.autoClass, ["detect", "detector"]),
   (Parser.decoratorClass, ["with_types", "without_types", "wrapped_parser", "wrapping"]),
   (Translator.baseClass, "is_available" :: "translate" :: commonNames),
   (Translator.defaultClass, ["get_translator", "translators"])]

/-- The names of texts in the packaged modules. -/
def textNames : List String :=
  namesIn
    ["MEDIACONF_VERSION BUILTIN_TYPES_PACKAGE BUILTIN_TYPES_RESOURCE BUILTIN_SERVICES_PACKAGE",
     "BUILTIN_SERVICES_RESOURCE PACKAGED_CONFIG_PACKAGE ENV_CONFIG ENV_PATH ENV_SERVICES",
     "ENV_LOG_LEVEL RESOURCE_NAME_KEY CONTENT_TYPE_KEY TAG_MIME_REPOSITORY TAG_DETECTORS",
     "TAG_DETECTOR TAG_PARSERS TAG_PARSER TAG_TRANSLATOR TAG_MIME TAG_MIME_EXCLUDE EXCLUDE_SUFFIX",
     "ATTR_CLASS ATTR_RESOURCE"]

/-- The names in texts. -/
def namesInTexts : List String :=
  namesIn
    ["capitalize casefold count encode endswith find format index isalpha isdigit islower isspace",
     "isupper join lower lstrip partition replace rfind rsplit rstrip split splitlines startswith",
     "strip swapcase title upper zfill"]

/-- The names in sets. -/
def namesInSets : List String :=
  ["difference", "intersection", "isdisjoint", "issubset", "issuperset", "union"]

/-- The names in what else is found in the packaged modules and classes. -/
def namesInValues : List (String × List String) :=
  [("ConfigEnvironment",
     ["config_location", "search_paths", "service_manifests", "use_entry_points", "from_environ",
      "service_loader"]),
   ("ConfigurationError", ["cause_chain"]), ("Constructible", ["construction_shapes", "supports"]),
   ("ConstructionShape",
     ["FROM_CHILDREN", "FROM_CHILDREN_EXCLUDING", "FROM_LIST", "FROM_LOADER", "WRAPPING"]),
   ("MediaConfig", ["source", "media_type_registry", "auto_detect_parser", "parser_for"]),
   ("MediaType",
     ["APPLICATION_XML", "APPLICATION_ZIP", "EMPTY", "OCTET_STREAM", "TEXT_PLAIN", "application",
      "base_type", "has_parameters", "parameter", "parameters", "parse", "set_of", "text",
      "try_parse", "with_parameters"]),
   ("MediaTypeRegistry",
     ["types", "empty", "aliases_of", "get_supertype", "is_instance_of", "is_specialization_of",
      "normalize", "thaw"]),
   ("MutableMediaTypeRegistry",
     ["add_alias", "add_supertype", "add_type", "add_types", "freeze"]),
   ("ParseContext", ["get", "set"]), ("SUPPORTED", namesInSets),
   ("ServiceEntry", ["auto", "origin", "short_name", "resolve"]),
   ("ServiceFamily",
     ["DETECTOR", "PARSER", "TRANSLATOR", "base_class", "entry_point_group", "label",
      "manifest_table"]),
   ("ServiceLoader",
     ["builtin", "entries", "find_entry", "from_manifests", "get_service_class",
      "load_entry_points", "load_services", "names", "read_manifest_text", "register",
      "unregister"])] ++
    textNames.map (·, namesInTexts)

/-- The names in the packaged modules and classes. -/
def otherNames : OtherNames where
  inModules := namesInModules.map fun e => (e.1, namesIn e.2)
  inClasses := namesInClasses
  inValues := namesInValues

end MediaGraph.Packaged
