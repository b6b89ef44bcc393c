import MemberThunks.Annotation.Term
import MemberThunks.World.Declaration

set_option autoImplicit false

/- Names that stand for values by themselves: those of the language, which are known
   everywhere, and those of the module of a world. -/
namespace MemberThunks

namespace Known

/-- The classes of the language beside those that every world names. -/
def classNames : List String :=
  ["ArithmeticError", "AssertionError", "AttributeError", "BaseException", "BaseExceptionGroup",
   "BlockingIOError", "BrokenPipeError", "BufferError", "BytesWarning", "ChildProcessError",
   "ConnectionAbortedError", "ConnectionError", "ConnectionRefusedError", "ConnectionResetError",
   "DeprecationWarning", "EOFError", "EncodingWarning", "Exception", "ExceptionGroup",
   "FileExistsError", "FileNotFoundError", "FloatingPointError", "FutureWarning", "GeneratorExit",
   "ImportError", "ImportWarning", "IndentationError", "IndexError", "InterruptedError",
   "IsADirectoryError", "KeyError", "KeyboardInterrupt", "LookupError", "MemoryError",
   "ModuleNotFoundError", "NameError", "NotADirectoryError", "NotImplementedError", "OSError",
   "OverflowError", "PendingDeprecationWarning", "PermissionError", "ProcessLookupError",
   "RecursionError", "ReferenceError", "ResourceWarning", "RuntimeError", "RuntimeWarning",
   "StopAsyncIteration", "StopIteration", "SyntaxError", "SyntaxWarning", "SystemError",
   "SystemExit", "TabError", "TimeoutError", "TypeError", "UnboundLocalError", "UnicodeDecodeError",
   "UnicodeEncodeError", "UnicodeError", "UnicodeTranslateError", "UnicodeWarning", "UserWarning",
   "ValueError", "Warning", "ZeroDivisionError", "classmethod", "enumerate", "filter", "map",
   "memoryview", "property", "range", "reversed", "slice", "staticmethod", "super", "zip"]

def routineNames : List String :=
  ["__build_class__", "__import__", "abs", "aiter", "all", "anext", "any", "ascii", "bin",
   "breakpoint", "callable", "chr", "compile", "delattr", "dir", "divmod", "eval", "exec", "format",
   "getattr", "globals", "hasattr", "hash", "hex", "id", "input", "isinstance", "issubclass",
   "iter", "locals", "min", "next", "oct", "open", "ord", "pow", "print", "repr", "round",
   "setattr", "sorted", "sum", "vars"]

/-- The routine of a name as a value. -/
def routine (name : String) : Value :=
  .foreign (.other "" "builtin_function_or_method") ("<built-in function " ++ name ++ ">")

def constants : List (String × Value) := [
  ("None", .none), ("True", .bool true), ("False", .bool false), ("__debug__", .bool true),
  ("Ellipsis", Annotation.ellipsis),
  ("NotImplemented", .foreign (.other "" "NotImplementedType") "NotImplemented"),
  ("__name__", .text "builtins"), ("__package__", .text ""),
  ("__spec__", .foreign (.other "_frozen_importlib" "ModuleSpec") "ModuleSpec(name='builtins')"),
  ("__loader__", .cls (.builtin (.other "_frozen_importlib" "BuiltinImporter"))),
  ("copyright", .foreign (.other "_sitebuiltins" "_Printer") "copyright"),
  ("credits", .foreign (.other "_sitebuiltins" "_Printer") "credits"),
  ("license", .foreign (.other "_sitebuiltins" "_Printer")
    "Type license() to see the full license text"),
  ("help", .foreign (.other "_sitebuiltins" "_Helper")
    "Type help() for interactive help, or help(object) for help about object."),
  ("exit", .foreign (.other "_sitebuiltins" "Quitter")
    "Use exit() or Ctrl-D (i.e. EOF) to exit"),
  ("quit", .foreign (.other "_sitebuiltins" "Quitter")
    "Use quit() or Ctrl-D (i.e. EOF) to exit"),
  ("len", .native .len), ("max", .native .max)]

/-- What a name stands for everywhere. -/
def value? (name : String) : Option Value :=
  match Builtin.named.lookup name, constants.lookup name with
  | some kind, _ => some (.cls (.builtin kind))
  | none, some value => some value
  | none, none =>
    if name = "EnvironmentError" || name = "IOError" then
      some (.cls (.builtin (.other "" "OSError")))
    else if classNames.contains name then some (.cls (.builtin (.other "" name)))
    else if routineNames.contains name then some (routine name)
    else none

end Known

namespace World

/-- What every module has besides its classes. -/
def moduleEntries : List (String × Value) := [
  ("__name__", .text moduleTitle), ("__doc__", .none), ("__package__", .none),
  ("__loader__", .none), ("__spec__", .none)]

/-- What the module of the world has under a name. -/
def moduleValue? (world : World) (name : String) : Option Value :=
  match world.exported? name with
  | some target => some (.cls target)
  | none => moduleEntries.lookup name

end World

end MemberThunks
