import MemberThunks.Entries
import MemberThunks.Text.Character

set_option autoImplicit false

/- Options of compilation: whether the source of generated code is kept for display, and
   what the names of its files begin with. -/
namespace MemberThunks

structure Options where
  registersSource : Bool
  namePrefix : String
deriving DecidableEq

namespace Options

def standard : Options := ⟨true, "latebound"⟩

def registerVariable : String := "LATEBOUND_REGISTER_SOURCE"
def prefixVariable : String := "LATEBOUND_NAME_PREFIX"

/-- The settings that mean no. -/
def negatives : List String := ["0", "false", "no", "off", ""]

def trimmed (text : String) : String :=
  String.ofList
    ((text.toList.dropWhile Character.isBlank).reverse.dropWhile Character.isBlank).reverse

/-- A setting means yes unless it is one of the words for no, in any case and between
any blanks. -/
def isAffirmative (setting : String) : Bool := !negatives.contains (trimmed setting).toLower

def ofEnvironment (environment : Entries String String) : Options :=
  ⟨((environment.lookup registerVariable).map isAffirmative).getD standard.registersSource,
    (environment.lookup prefixVariable).getD standard.namePrefix⟩

/-- The name of the file of a piece of generated code. -/
def fileName (options : Options) (name : String) (serial : Int) : String :=
  "<" ++ options.namePrefix ++ " " ++ name ++ "#" ++ toString serial ++ ">"

end Options

end MemberThunks
