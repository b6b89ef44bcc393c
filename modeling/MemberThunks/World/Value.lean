import MemberThunks.World.ClassRef

set_option autoImplicit false

/- Values and type forms. A type form is a declared type as it is written, before
   any check is made of it; values and type forms contain each other, since a
   literal type lists values and a value may be a type form. Floats are texts: they
   are passed through and never computed with. What is not a number equals only itself,
   and so does a literal type that lists values without a hash; both carry a mark.

   Every instance of a class of the world has an address, under which the store
   keeps its attributes. An instance of a subclass of a built-in class also carries
   a built-in value, and a member of an enumeration a label and a value. -/
namespace MemberThunks

inductive Spelling where
  | subscript
  | bar
deriving DecidableEq

inductive Variance where
  | invariant
  | covariant
  | contravariant
deriving DecidableEq

inductive Native where
  | len
  | max
deriving DecidableEq

/-- How a class with arguments is made, which decides how it is written. -/
inductive Head where
  /-- By a built-in class or one that derives from it. -/
  | native
  /-- By a class with type parameters. -/
  | parametric
  /-- By an alias of the typing vocabulary. -/
  | vocabulary (name : String)
deriving DecidableEq

mutual

inductive Value where
  | none
  | bool (truth : Bool)
  | int (number : Int)
  | float (digits : String)
  | nan (mark : Nat)
  | complex (real imaginary : String)
  | text (content : String)
  | octets (content : List Nat)
  /-- Octets that can be changed. -/
  | buffer (content : List Nat)
  | list (items : List Value)
  | tuple (items : List Value)
  | dict (entries : List (Value × Value))
  | set (items : List Value)
  | frozenset (items : List Value)
  | object (address : Nat) (cls : ClassRef)
  | wrapped (address : Nat) (cls : ClassRef) (content : Value)
  | enumMember (address : Nat) (cls : ClassRef) (label : String) (content : Value)
  | cls (target : ClassRef)
  | function (index : Nat) (qualname : String)
  /-- An object that is called like the function it holds but is not bound by an access. -/
  | callable (index : Nat) (qualname : String)
  | native (routine : Native)
  | bound (receiver callee : Value)
  | form (written : TypeForm)
  /-- A value of which only the class and the text can be told. -/
  | foreign (kind : Builtin) (shown : String)
  /-- A value of which the class and the text can be told, and what it holds by name. -/
  | holder (kind : Builtin) (shown : String) (held : List (String × Value))

inductive TypeForm where
  | cls (target : ClassRef)
  | none
  /-- A name of the typing vocabulary that stands for no class. -/
  | special (name : String)
  /-- An unsubscripted alias of a class. -/
  | shorthand (name : String) (origin : ClassRef)
  | union (spelling : Spelling) (members : List TypeForm)
  | generic (head : Head) (origin : ClassRef) (arguments : List TypeForm)
  /-- The callables of a result, each with the same parameters. -/
  | callable (parameters : List TypeForm) (result : TypeForm)
  | annotated (base : TypeForm) (metadata : List Value)
  | newType (name : String) (base : TypeForm)
  | literal (values : List Value) (mark : Nat)
  /-- A type parameter, which the typing vocabulary itself may have. -/
  | parameter (name : String) (variance : Variance) (shared : Bool)
  /-- A string in the place of a type. -/
  | text (content : String)
  /-- A string inside another type. -/
  | forward (content : String)
  | classVar (base : TypeForm)
  | final (base : TypeForm)
  /-- Any other value in the place of a type. -/
  | value (content : Value)

end

deriving instance Inhabited for Value
deriving instance Inhabited for TypeForm

namespace TypeForm

def object : TypeForm := cls .object
def noneType : TypeForm := cls .noneType

def isObject : TypeForm → Bool
  | cls (.builtin .object) => true
  | _ => false

def isNoneType : TypeForm → Bool
  | cls (.builtin .noneType) => true
  | _ => false

def isParameter : TypeForm → Bool
  | parameter _ _ _ => true
  | _ => false

def isCallableAlias : TypeForm → Bool
  | callable _ _ => true
  | _ => false

/-- The class of a type form taken as a value. -/
def kind : TypeForm → Builtin
  | special "Literal" => .other "typing" "_LiteralSpecialForm"
  | special _ => .other "typing" "_SpecialForm"
  | shorthand "Tuple" _ => .other "typing" "_TupleType"
  | shorthand "Callable" _ => .other "typing" "_CallableType"
  | shorthand _ _ => .other "typing" "_SpecialGenericAlias"
  | union .subscript _ => .other "typing" "_UnionGenericAlias"
  | union .bar _ => .other "types" "UnionType"
  | generic .native _ _ => .other "types" "GenericAlias"
  | callable _ _ => .other "typing" "_CallableGenericAlias"
  | annotated _ _ => .other "typing" "_AnnotatedAlias"
  | newType _ _ => .other "typing" "NewType"
  | literal _ _ => .other "typing" "_LiteralGenericAlias"
  | parameter _ _ _ => .other "typing" "TypeVar"
  | forward _ => .other "typing" "ForwardRef"
  | _ => .other "typing" "_GenericAlias"

end TypeForm

namespace Value

/-- The value a type form is, where it is an ordinary value. -/
def ofForm : TypeForm → Value
  | .cls target => cls target
  | .none => none
  | .text content => text content
  | .value content => content
  | written => form written

/-- The type form that a value used as a declared type is. -/
def toForm : Value → TypeForm
  | cls target => .cls target
  | none => .none
  | text content => .text content
  | form written => written
  | other => .value other

/-- The class of a class. -/
def metaclass : ClassRef → Builtin
  | .enumeration _ _ => .enumType
  | .builtin .enum | .builtin .reprEnum | .builtin .intEnum | .builtin .strEnum => .enumType
  | .builtin .any => .anyType
  | .builtin (.abstract _) => .abstractType
  | _ => .type

/-- The module of the running program, of which callable objects and type parameters are. -/
def programTitle : String := "__main__"

def typeOf : Value → ClassRef
  | none => .noneType
  | bool _ => .builtin .bool
  | int _ => .builtin .int
  | float _ | nan _ => .builtin .float
  | complex _ _ => .builtin .complex
  | text _ => .builtin .str
  | octets _ => .builtin .bytes
  | buffer _ => .builtin .bytearray
  | list _ => .builtin .list
  | tuple _ => .builtin .tuple
  | dict _ => .builtin .dict
  | set _ => .builtin .set
  | frozenset _ => .builtin .frozenset
  | object _ owner | wrapped _ owner _ | enumMember _ owner _ _ => owner
  | cls target => .builtin (metaclass target)
  | function _ _ => .builtin (.other "" "function")
  | callable _ _ => .builtin (.other programTitle "CallableObject")
  | native _ => .builtin (.other "" "builtin_function_or_method")
  | bound _ _ => .builtin (.other "" "method")
  | form written => .builtin written.kind
  | foreign kind _ | holder kind _ _ => .builtin kind

/-- Where the store keeps the attributes of a value. -/
def address? : Value → Option Nat
  | object address _ | wrapped address _ _ | enumMember address _ _ _ => some address
  | _ => Option.none

/-- An object with another class. -/
def withClass (target : ClassRef) : Value → Value
  | object address _ => object address target
  | wrapped address _ content => wrapped address target content
  | enumMember address _ label content => enumMember address target label content
  | other => other

/-- Whether what a value holds are entries, to be looked up and not told. -/
def isProxy : Value → Bool
  | holder (.other "" "mappingproxy") _ _ => true
  | _ => false

/-- The built-in value that a value acts as. -/
def payload : Value → Value
  | wrapped _ _ content | enumMember _ (.enumeration _ true) _ content => content
  | other => other

def isNone : Value → Bool
  | none => true
  | _ => false

end Value

end MemberThunks
