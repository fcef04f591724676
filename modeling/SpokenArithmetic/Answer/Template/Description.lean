import SpokenArithmetic.Answer.Template.Kind

set_option autoImplicit false

namespace SpokenArithmetic.Template

abbrev Description := String × String × String

namespace Kind

def call : Kind -> String
  | anything => "()"
  | row => "(iterable=(), /)"
  | _ => ""

def description : Kind -> String
  | text =>
    "str(object='') -> str\nstr(bytes_or_buffer[, encoding[, errors]]) -> str\n\n"
    ++ "Create a new string object from the given object. If encoding or\n"
    ++ "errors is specified, then the object must expose a data buffer\n"
    ++ "that will be decoded using the given encoding and error handler.\n"
    ++ "Otherwise, returns the result of object.__str__() (if defined)\nor repr(object).\n"
    ++ "encoding defaults to sys.getdefaultencoding().\nerrors defaults to 'strict'."
  | anything =>
    "The base class of the class hierarchy.\n\n"
    ++ "When called, it accepts no arguments and returns a new featureless\n"
    ++ "instance that has no instance attributes and cannot be given any.\n"
  | kind =>
    "type(object) -> the object's type\ntype(name, bases, dict, **kwds) -> a new type"
  | row =>
    "Built-in immutable sequence.\n\n"
    ++ "If no argument is given, the constructor returns an empty tuple.\n"
    ++ "If iterable is specified the tuple is initialized from iterable's items.\n\n"
    ++ "If the argument is a tuple, the return value is the same object."
  | _ => ""

def allOperations : List Description := [
    ("__repr__", "($self, /)", "Return repr(self)."),
    ("__hash__", "($self, /)", "Return hash(self)."),
    ("__str__", "($self, /)", "Return str(self)."),
    ("__getattribute__", "($self, name, /)", "Return getattr(self, name)."),
    ("__lt__", "($self, value, /)", "Return self<value."),
    ("__le__", "($self, value, /)", "Return self<=value."),
    ("__eq__", "($self, value, /)", "Return self==value."),
    ("__ne__", "($self, value, /)", "Return self!=value."),
    ("__gt__", "($self, value, /)", "Return self>value."),
    ("__ge__", "($self, value, /)", "Return self>=value."),
    ("__iter__", "($self, /)", "Implement iter(self)."),
    ("__mod__", "($self, value, /)", "Return self%value."),
    ("__rmod__", "($self, value, /)", "Return value%self."),
    ("__len__", "($self, /)", "Return len(self)."),
    ("__getitem__", "($self, key, /)", "Return self[key]."),
    ("__add__", "($self, value, /)", "Return self+value."),
    ("__mul__", "($self, value, /)", "Return self*value."),
    ("__rmul__", "($self, value, /)", "Return value*self."),
    ("__contains__", "($self, key, /)", "Return key in self."),
    ("__setattr__", "($self, name, value, /)", "Implement setattr(self, name, value)."),
    ("__delattr__", "($self, name, /)", "Implement delattr(self, name)."),
    ("__init__", "($self, /, *args, **kwargs)",
      "Initialize self.  See help(type(self)) for accurate signature."),
    ("__call__", "($self, /, *args, **kwargs)", "Call self as a function."),
    ("__or__", "($self, value, /)", "Return self|value."),
    ("__ror__", "($self, value, /)", "Return value|self."),
    ("__bool__", "($self, /)", "True if self else False"),
    ("__get__", "($self, instance, owner=None, /)",
      "Return an attribute of instance, which is of type owner.")]

def operations (k : Kind) : List Description :=
  allOperations.filter (k.operationNames.contains ·.1)

def methods : Kind -> List Description
  | text => [
    ("encode", "($self, /, encoding='utf-8', errors='strict')",
      "Encode the string using the codec registered for encoding.\n\n  encoding\n"
      ++ "    The encoding in which to encode the string.\n  errors\n"
      ++ "    The error handling scheme to use for encoding errors.\n"
      ++ "    The default is 'strict' meaning that encoding errors raise a\n"
      ++ "    UnicodeEncodeError.  Other possible values are 'ignore', 'replace' and\n"
      ++ "    'xmlcharrefreplace' as well as any other name registered with\n"
      ++ "    codecs.register_error that can handle UnicodeEncodeErrors."),
    ("replace", "($self, old, new, count=-1, /)",
      "Return a copy with all occurrences of substring old replaced by new.\n\n  count\n"
      ++ "    Maximum number of occurrences to replace.\n"
      ++ "    -1 (the default value) means replace all occurrences.\n\n"
      ++ "If the optional argument count is given, only the first count occurrences are\n"
      ++ "replaced."),
    ("split", "($self, /, sep=None, maxsplit=-1)",
      "Return a list of the substrings in the string, using sep as the separator string.\n\n"
      ++ "  sep\n    The separator used to split the string.\n\n"
      ++ "    When set to None (the default value), will split on any whitespace\n"
      ++ "    character (including \\n \\r \\t \\f and spaces) and will discard\n"
      ++ "    empty strings from the result.\n  maxsplit\n    Maximum number of splits.\n"
      ++ "    -1 (the default value) means no limit.\n\n"
      ++ "Splitting starts at the front of the string and works to the end.\n\n"
      ++ "Note, str.split() is mainly useful for data that has been intentionally\n"
      ++ "delimited.  With natural text that includes punctuation, consider using\n"
      ++ "the regular expression module."),
    ("rsplit", "($self, /, sep=None, maxsplit=-1)",
      "Return a list of the substrings in the string, using sep as the separator string.\n\n"
      ++ "  sep\n    The separator used to split the string.\n\n"
      ++ "    When set to None (the default value), will split on any whitespace\n"
      ++ "    character (including \\n \\r \\t \\f and spaces) and will discard\n"
      ++ "    empty strings from the result.\n  maxsplit\n    Maximum number of splits.\n"
      ++ "    -1 (the default value) means no limit.\n\n"
      ++ "Splitting starts at the end of the string and works to the front."),
    ("join", "($self, iterable, /)",
      "Concatenate any number of strings.\n\n"
      ++ "The string whose method is called is inserted in between each given string.\n"
      ++ "The result is returned as a new string.\n\n"
      ++ "Example: '.'.join(['ab', 'pq', 'rs']) -> 'ab.pq.rs'"),
    ("capitalize", "($self, /)",
      "Return a capitalized version of the string.\n\n"
      ++ "More specifically, make the first character have upper case and the rest lower\ncase."),
    ("casefold", "($self, /)",
      "Return a version of the string suitable for caseless comparisons."),
    ("title", "($self, /)",
      "Return a version of the string where each word is titlecased.\n\n"
      ++ "More specifically, words start with uppercased characters and all remaining\n"
      ++ "cased characters have lower case."),
    ("center", "($self, width, fillchar=' ', /)",
      "Return a centered string of length width.\n\n"
      ++ "Padding is done using the specified fill character (default is a space)."),
    ("count", "",
      "S.count(sub[, start[, end]]) -> int\n\n"
      ++ "Return the number of non-overlapping occurrences of substring sub in\n"
      ++ "string S[start:end].  Optional arguments start and end are\n"
      ++ "interpreted as in slice notation."),
    ("expandtabs", "($self, /, tabsize=8)",
      "Return a copy where all tab characters are expanded using spaces.\n\n"
      ++ "If tabsize is not given, a tab size of 8 characters is assumed."),
    ("find", "",
      "S.find(sub[, start[, end]]) -> int\n\n"
      ++ "Return the lowest index in S where substring sub is found,\n"
      ++ "such that sub is contained within S[start:end].  Optional\n"
      ++ "arguments start and end are interpreted as in slice notation.\n\nReturn -1 on failure."),
    ("partition", "($self, sep, /)",
      "Partition the string into three parts using the given separator.\n\n"
      ++ "This will search for the separator in the string.  If the separator is found,\n"
      ++ "returns a 3-tuple containing the part before the separator, the separator\n"
      ++ "itself, and the part after it.\n\n"
      ++ "If the separator is not found, returns a 3-tuple containing the original string\n"
      ++ "and two empty strings."),
    ("index", "",
      "S.index(sub[, start[, end]]) -> int\n\n"
      ++ "Return the lowest index in S where substring sub is found,\n"
      ++ "such that sub is contained within S[start:end].  Optional\n"
      ++ "arguments start and end are interpreted as in slice notation.\n\n"
      ++ "Raises ValueError when the substring is not found."),
    ("ljust", "($self, width, fillchar=' ', /)",
      "Return a left-justified string of length width.\n\n"
      ++ "Padding is done using the specified fill character (default is a space)."),
    ("lower", "($self, /)", "Return a copy of the string converted to lowercase."),
    ("lstrip", "($self, chars=None, /)",
      "Return a copy of the string with leading whitespace removed.\n\n"
      ++ "If chars is given and not None, remove characters in chars instead."),
    ("rfind", "",
      "S.rfind(sub[, start[, end]]) -> int\n\n"
      ++ "Return the highest index in S where substring sub is found,\n"
      ++ "such that sub is contained within S[start:end].  Optional\n"
      ++ "arguments start and end are interpreted as in slice notation.\n\nReturn -1 on failure."),
    ("rindex", "",
      "S.rindex(sub[, start[, end]]) -> int\n\n"
      ++ "Return the highest index in S where substring sub is found,\n"
      ++ "such that sub is contained within S[start:end].  Optional\n"
      ++ "arguments start and end are interpreted as in slice notation.\n\n"
      ++ "Raises ValueError when the substring is not found."),
    ("rjust", "($self, width, fillchar=' ', /)",
      "Return a right-justified string of length width.\n\n"
      ++ "Padding is done using the specified fill character (default is a space)."),
    ("rstrip", "($self, chars=None, /)",
      "Return a copy of the string with trailing whitespace removed.\n\n"
      ++ "If chars is given and not None, remove characters in chars instead."),
    ("rpartition", "($self, sep, /)",
      "Partition the string into three parts using the given separator.\n\n"
      ++ "This will search for the separator in the string, starting at the end. If\n"
      ++ "the separator is found, returns a 3-tuple containing the part before the\n"
      ++ "separator, the separator itself, and the part after it.\n\n"
      ++ "If the separator is not found, returns a 3-tuple containing two empty strings\n"
      ++ "and the original string."),
    ("splitlines", "($self, /, keepends=False)",
      "Return a list of the lines in the string, breaking at line boundaries.\n\n"
      ++ "Line breaks are not included in the resulting list unless keepends is given and\ntrue."),
    ("strip", "($self, chars=None, /)",
      "Return a copy of the string with leading and trailing whitespace removed.\n\n"
      ++ "If chars is given and not None, remove characters in chars instead."),
    ("swapcase", "($self, /)",
      "Convert uppercase characters to lowercase and lowercase characters to uppercase."),
    ("translate", "($self, table, /)",
      "Replace each character in the string using the given translation table.\n\n  table\n"
      ++ "    Translation table, which must be a mapping of Unicode ordinals to\n"
      ++ "    Unicode ordinals, strings, or None.\n\n"
      ++ "The table must implement lookup/indexing via __getitem__, for instance a\n"
      ++ "dictionary or list.  If this operation raises LookupError, the character is\n"
      ++ "left untouched.  Characters mapped to None are deleted."),
    ("upper", "($self, /)", "Return a copy of the string converted to uppercase."),
    ("startswith", "",
      "S.startswith(prefix[, start[, end]]) -> bool\n\n"
      ++ "Return True if S starts with the specified prefix, False otherwise.\n"
      ++ "With optional start, test S beginning at that position.\n"
      ++ "With optional end, stop comparing S at that position.\n"
      ++ "prefix can also be a tuple of strings to try."),
    ("endswith", "",
      "S.endswith(suffix[, start[, end]]) -> bool\n\n"
      ++ "Return True if S ends with the specified suffix, False otherwise.\n"
      ++ "With optional start, test S beginning at that position.\n"
      ++ "With optional end, stop comparing S at that position.\n"
      ++ "suffix can also be a tuple of strings to try."),
    ("removeprefix", "($self, prefix, /)",
      "Return a str with the given prefix string removed if present.\n\n"
      ++ "If the string starts with the prefix string, return string[len(prefix):].\n"
      ++ "Otherwise, return a copy of the original string."),
    ("removesuffix", "($self, suffix, /)",
      "Return a str with the given suffix string removed if present.\n\n"
      ++ "If the string ends with the suffix string and that suffix is not empty,\n"
      ++ "return string[:-len(suffix)]. Otherwise, return a copy of the original\nstring."),
    ("isascii", "($self, /)",
      "Return True if all characters in the string are ASCII, False otherwise.\n\n"
      ++ "ASCII characters have code points in the range U+0000-U+007F.\n"
      ++ "Empty string is ASCII too."),
    ("islower", "($self, /)",
      "Return True if the string is a lowercase string, False otherwise.\n\n"
      ++ "A string is lowercase if all cased characters in the string are lowercase and\n"
      ++ "there is at least one cased character in the string."),
    ("isupper", "($self, /)",
      "Return True if the string is an uppercase string, False otherwise.\n\n"
      ++ "A string is uppercase if all cased characters in the string are uppercase and\n"
      ++ "there is at least one cased character in the string."),
    ("istitle", "($self, /)",
      "Return True if the string is a title-cased string, False otherwise.\n\n"
      ++ "In a title-cased string, upper- and title-case characters may only\n"
      ++ "follow uncased characters and lowercase characters only cased ones."),
    ("isspace", "($self, /)",
      "Return True if the string is a whitespace string, False otherwise.\n\n"
      ++ "A string is whitespace if all characters in the string are whitespace and there\n"
      ++ "is at least one character in the string."),
    ("isdecimal", "($self, /)",
      "Return True if the string is a decimal string, False otherwise.\n\n"
      ++ "A string is a decimal string if all characters in the string are decimal and\n"
      ++ "there is at least one character in the string."),
    ("isdigit", "($self, /)",
      "Return True if the string is a digit string, False otherwise.\n\n"
      ++ "A string is a digit string if all characters in the string are digits and there\n"
      ++ "is at least one character in the string."),
    ("isnumeric", "($self, /)",
      "Return True if the string is a numeric string, False otherwise.\n\n"
      ++ "A string is numeric if all characters in the string are numeric and there is at\n"
      ++ "least one character in the string."),
    ("isalpha", "($self, /)",
      "Return True if the string is an alphabetic string, False otherwise.\n\n"
      ++ "A string is alphabetic if all characters in the string are alphabetic and there\n"
      ++ "is at least one character in the string."),
    ("isalnum", "($self, /)",
      "Return True if the string is an alpha-numeric string, False otherwise.\n\n"
      ++ "A string is alpha-numeric if all characters in the string are alpha-numeric and\n"
      ++ "there is at least one character in the string."),
    ("isidentifier", "($self, /)",
      "Return True if the string is a valid Python identifier, False otherwise.\n\n"
      ++ "Call keyword.iskeyword(s) to test whether string s is a reserved identifier,\n"
      ++ "such as \"def\" or \"class\"."),
    ("isprintable", "($self, /)",
      "Return True if the string is printable, False otherwise.\n\n"
      ++ "A string is printable if all of its characters are considered printable in\n"
      ++ "repr() or if it is empty."),
    ("zfill", "($self, width, /)",
      "Pad a numeric string with zeros on the left, to fill a field of the given width.\n\n"
      ++ "The string is never truncated."),
    ("format", "",
      "S.format(*args, **kwargs) -> str\n\n"
      ++ "Return a formatted version of S, using substitutions from args and kwargs.\n"
      ++ "The substitutions are identified by braces ('\x7b' and '\x7d')."),
    ("format_map", "",
      "S.format_map(mapping) -> str\n\n"
      ++ "Return a formatted version of S, using substitutions from mapping.\n"
      ++ "The substitutions are identified by braces ('\x7b' and '\x7d')."),
    ("__format__", "($self, format_spec, /)",
      "Return a formatted version of the string as described by format_spec."),
    ("__sizeof__", "($self, /)", "Return the size of the string in memory, in bytes."),
    ("__getnewargs__", "", "")]
  | anything => [
    ("__reduce_ex__", "($self, protocol, /)", "Helper for pickle."),
    ("__reduce__", "($self, /)", "Helper for pickle."),
    ("__getstate__", "($self, /)", "Helper for pickle."),
    ("__format__", "($self, format_spec, /)", "Default object formatter."),
    ("__sizeof__", "($self, /)", "Size of object in memory, in bytes."),
    ("__dir__", "($self, /)", "Default dir() implementation.")]
  | kind => [
    ("mro", "($self, /)", "Return a type's method resolution order."),
    ("__subclasses__", "($self, /)", "Return a list of immediate subclasses."),
    ("__instancecheck__", "($self, instance, /)", "Check if an object is an instance."),
    ("__subclasscheck__", "($self, subclass, /)", "Check if a class is a subclass."),
    ("__dir__", "($self, /)", "Specialized __dir__ implementation for types."),
    ("__sizeof__", "($self, /)", "Return memory consumption of the type object.")]
  | row => [
    ("__getnewargs__", "($self, /)", ""),
    ("index", "($self, value, start=0, stop=sys.maxsize, /)",
      "Return first index of value.\n\nRaises ValueError if the value is not present."),
    ("count", "($self, value, /)", "Return number of occurrences of value.")]
  | method | operation | boundMethod | boundOperation => [
    ("__reduce__", "", "")]
  | _ => []

def makers : Kind -> List Description
  | text => [
    ("__new__", "($type, *args, **kwargs)",
      "Create and return a new object.  See help(type) for accurate signature."),
    ("maketrans", "(x, y=<unrepresentable>, z=<unrepresentable>, /)",
      "Return a translation table usable for str.translate().\n\n"
      ++ "If there is only one argument, it must be a dictionary mapping Unicode\n"
      ++ "ordinals (integers) or characters to Unicode ordinals, strings or None.\n"
      ++ "Character keys will be then converted to ordinals.\n"
      ++ "If there are two arguments, they must be strings of equal length, and\n"
      ++ "in the resulting dictionary, each character in x will be mapped to the\n"
      ++ "character at the same position in y. If there is a third argument, it\n"
      ++ "must be a string, whose characters will be mapped to None in the result.")]
  | anything => [
    ("__new__", "($type, *args, **kwargs)",
      "Create and return a new object.  See help(type) for accurate signature."),
    ("__subclasshook__", "",
      "Abstract classes can override this to customize issubclass().\n\n"
      ++ "This is invoked early on by abc.ABCMeta.__subclasscheck__().\n"
      ++ "It should return True, False or NotImplemented.  If it returns\n"
      ++ "NotImplemented, the normal algorithm is used.  Otherwise, it\n"
      ++ "overrides the normal algorithm (and the outcome is cached).\n"),
    ("__init_subclass__", "",
      "This method is called when a class is subclassed.\n\n"
      ++ "The default implementation does nothing. It may be\noverridden to extend subclasses.\n")]
  | kind => [
    ("__new__", "($type, *args, **kwargs)",
      "Create and return a new object.  See help(type) for accurate signature."),
    ("__prepare__", "",
      "__prepare__() -> dict\nused to create the namespace for the class statement")]
  | row => [
    ("__new__", "($type, *args, **kwargs)",
      "Create and return a new object.  See help(type) for accurate signature."),
    ("__class_getitem__", "", "See PEP 585")]
  | nothing => [
    ("__new__", "($type, *args, **kwargs)",
      "Create and return a new object.  See help(type) for accurate signature.")]
  | _ => []

end Kind

end SpokenArithmetic.Template
