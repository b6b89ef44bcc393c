import MemberThunks.World.Value

set_option autoImplicit false

/- What the built-in classes say of themselves, line by line. -/
namespace MemberThunks

namespace Builtin

/-- The lines in which a built-in class says what it is. -/
def documentation : Builtin → List String
  | .object =>
    ["The base class of the class hierarchy.",
      "",
      "When called, it accepts no arguments and returns a new featureless",
      "instance that has no instance attributes and cannot be given any.",
      ""]
  | .bool =>
    ["bool(x) -> bool",
      "",
      "Returns True when the argument x is true, False otherwise.",
      "The builtins True and False are the only two instances of the class bool.",
      "The class bool is a subclass of the class int, and cannot be subclassed."]
  | .int =>
    ["int([x]) -> integer",
      "int(x, base=10) -> integer",
      "",
      "Convert a number or string to an integer, or return 0 if no arguments",
      "are given.  If x is a number, return x.__int__().  For floating point",
      "numbers, this truncates towards zero.",
      "",
      "If x is not a number or if base is given, then x must be a string,",
      "bytes, or bytearray instance representing an integer literal in the",
      "given base.  The literal can be preceded by '+' or '-' and be surrounded",
      "by whitespace.  The base defaults to 10.  Valid bases are 0 and 2-36.",
      "Base 0 means to interpret the base from the string as an integer literal.",
      ">>> int('0b100', base=0)",
      "4"]
  | .float =>
    ["Convert a string or number to a floating point number, if possible."]
  | .complex =>
    ["Create a complex number from a real part and an optional imaginary part.",
      "",
      "This is equivalent to (real + imag*1j) where imag defaults to 0."]
  | .str =>
    ["str(object='') -> str",
      "str(bytes_or_buffer[, encoding[, errors]]) -> str",
      "",
      "Create a new string object from the given object. If encoding or",
      "errors is specified, then the object must expose a data buffer",
      "that will be decoded using the given encoding and error handler.",
      "Otherwise, returns the result of object.__str__() (if defined)",
      "or repr(object).",
      "encoding defaults to sys.getdefaultencoding().",
      "errors defaults to 'strict'."]
  | .bytes =>
    ["bytes(iterable_of_ints) -> bytes",
      "bytes(string, encoding[, errors]) -> bytes",
      "bytes(bytes_or_buffer) -> immutable copy of bytes_or_buffer",
      "bytes(int) -> bytes object of size given by the parameter initialized with null bytes",
      "bytes() -> empty bytes object",
      "",
      "Construct an immutable array of bytes from:",
      "  - an iterable yielding integers in range(256)",
      "  - a text string encoded using the specified encoding",
      "  - any object implementing the buffer API.",
      "  - an integer"]
  | .bytearray =>
    ["bytearray(iterable_of_ints) -> bytearray",
      "bytearray(string, encoding[, errors]) -> bytearray",
      "bytearray(bytes_or_buffer) -> mutable copy of bytes_or_buffer",
      "bytearray(int) -> bytes array of size given by the parameter initialized with null bytes",
      "bytearray() -> empty bytes array",
      "",
      "Construct a mutable bytearray object from:",
      "  - an iterable yielding integers in range(256)",
      "  - a text string encoded using the specified encoding",
      "  - a bytes or a buffer object",
      "  - any object implementing the buffer API.",
      "  - an integer"]
  | .list =>
    ["Built-in mutable sequence.",
      "",
      "If no argument is given, the constructor creates a new empty list.",
      "The argument must be an iterable if specified."]
  | .dict =>
    ["dict() -> new empty dictionary",
      "dict(mapping) -> new dictionary initialized from a mapping object's",
      "    (key, value) pairs",
      "dict(iterable) -> new dictionary initialized as if via:",
      "    d = \x7b\x7d",
      "    for k, v in iterable:",
      "        d[k] = v",
      "dict(**kwargs) -> new dictionary initialized with the name=value pairs",
      "    in the keyword argument list.  For example:  dict(one=1, two=2)"]
  | .tuple =>
    ["Built-in immutable sequence.",
      "",
      "If no argument is given, the constructor returns an empty tuple.",
      "If iterable is specified the tuple is initialized from iterable's items.",
      "",
      "If the argument is a tuple, the return value is the same object."]
  | .set =>
    ["set() -> new empty set object",
      "set(iterable) -> new set object",
      "",
      "Build an unordered collection of unique elements."]
  | .frozenset =>
    ["frozenset() -> empty frozenset object",
      "frozenset(iterable) -> frozenset object",
      "",
      "Build an immutable unordered collection of unique elements."]
  | .type =>
    ["type(object) -> the object's type",
      "type(name, bases, dict, **kwds) -> a new type"]
  | _ => []

/-- What a built-in class says of itself. -/
def document (kind : Builtin) : Value :=
  match kind.documentation with
  | [] => .none
  | lines => .text ("\n".intercalate lines)

end Builtin

/-- The lines in which a built-in routine says what it does. -/
def Native.documentation : Native → List String
  | .len =>
    ["Return the number of items in a container."]
  | .max =>
    ["max(iterable, *[, default=obj, key=func]) -> value",
      "max(arg1, arg2, *args, *[, key=func]) -> value",
      "",
      "With a single iterable argument, return its biggest item. The",
      "default keyword-only argument specifies an object to return if",
      "the provided iterable is empty.",
      "With two or more arguments, return the largest argument."]

end MemberThunks
