import MemberThunks.TypeForm.Vocabulary

set_option autoImplicit false

/- The parts of a form with arguments: what it is made of, its arguments, and the type
   parameters among them, for which other forms can be put. -/
namespace MemberThunks.TypeForm

mutual

/-- The type parameters in a form, in the order in which they stand there. -/
def parametersIn : TypeForm → List TypeForm
  | parameter name variance shared => [parameter name variance shared]
  | union _ members => parametersAmong members
  | generic _ _ arguments => parametersAmong arguments
  | callable parameters result => parametersAmong parameters ++ parametersIn result
  | annotated base _ => parametersIn base
  | literal values _ => parametersInValues values
  | classVar base | final base => parametersIn base
  | _ => []
termination_by structural form => form

def parametersAmong : List TypeForm → List TypeForm
  | [] => []
  | form :: rest => parametersIn form ++ parametersAmong rest
termination_by structural forms => forms

def parametersInValues : List Value → List TypeForm
  | [] => []
  | .form written :: rest => parametersIn written ++ parametersInValues rest
  | _ :: rest => parametersInValues rest
termination_by structural values => values

end

/-- The type parameters that a form has, each once. -/
def parameters (form : TypeForm) : List TypeForm := distinct form.parametersIn

/-- What a form with arguments is made of. -/
def originPart? : TypeForm → Option Value
  | shorthand _ origin => some (.cls origin)
  | generic (.vocabulary name) origin _ =>
    some (if (aliases.lookup name).isSome then .cls origin else .form (special name))
  | generic _ origin _ => some (.cls origin)
  | callable _ _ => some (.cls (.builtin (.abstract .callable)))
  | union .subscript _ => some (.form (special "Union"))
  | annotated base _ => some (Value.ofForm base)
  | literal _ _ => some (.form (special "Literal"))
  | classVar _ => some (.form (special "ClassVar"))
  | final _ => some (.form (special "Final"))
  | _ => Option.none

/-- The arguments of a form. -/
def arguments? : TypeForm → Option (List Value)
  | union _ members => some (members.map Value.ofForm)
  | generic _ _ arguments => some (arguments.map Value.ofForm)
  | callable parameters result => some ((parameters ++ [result]).map Value.ofForm)
  | annotated base _ | classVar base | final base => some [Value.ofForm base]
  | literal values _ => some values
  | _ => Option.none

/-- The name of the vocabulary that a form goes by, if it goes by one; forms that are made of
one may still have none. -/
def vocabularyName? : TypeForm → Option (Option String)
  | special name | shorthand name _ => some (some name)
  | generic (.vocabulary name) _ _ =>
    some (if (aliases.lookup name).isSome then some name else Option.none)
  | callable _ _ => some (some "Callable")
  | union .subscript members =>
    some (if members.length = 2 && members.any isNoneType then some "Optional" else Option.none)
  | generic .parametric _ _ | annotated _ _ | literal _ _ | classVar _ | final _ => some Option.none
  | _ => Option.none

/-- The aliases whose members are the instances of one built-in class, which is made by calling
it and not the alias. -/
def uncalledAliases : List String := ["Dict", "FrozenSet", "List", "Set", "Tuple", "Type"]

/-- Whether a call of an alias makes an instance. -/
def makesInstances : TypeForm → Bool
  | shorthand name _ | generic (.vocabulary name) _ _ => !uncalledAliases.contains name
  | _ => true

/-- Whether an alias takes a list of parameters for one of its own. -/
def takesLists : TypeForm → Bool
  | generic .parametric _ _ | callable _ _ => true
  | _ => false

/-- What a type parameter keeps under a name. The text parameter of the vocabulary is one of
two classes. -/
def parameterEntry? (label : String) (variance : Variance) (shared : Bool) :
    String → Option Value
  | "__name__" => some (.text label)
  | "__bound__" => some .none
  | "__constraints__" =>
    some (.tuple (if shared && label = "AnyStr" then
      [.cls (.builtin .bytes), .cls (.builtin .str)] else []))
  | "__covariant__" => some (.bool (variance == .covariant))
  | "__contravariant__" => some (.bool (variance == .contravariant))
  | _ => Option.none

/-- What a string inside another type keeps under a name. -/
def forwardEntry? (content : String) : String → Option Value
  | "__forward_arg__" => some (.text content)
  | "__forward_is_argument__" => some (.bool true)
  | "__forward_is_class__" => some (.bool false)
  | "__forward_module__" => some .none
  | _ => Option.none

/-- What an alias, or a form made of one, keeps under a name. -/
def aliasEntry? (form : TypeForm) : String → Option Value
  | "_name" => form.vocabularyName?.map fun label => (label.map Value.text).getD .none
  | "_inst" => some (.bool form.makesInstances)
  | "__slots__" => some .none
  | "_nparams" =>
    match form with
    | shorthand name _ =>
      (aliases.lookup name).map fun rule => .int ((rule.2.map Int.ofNat).getD (-1))
    | _ => Option.none
  | "_paramspec_tvars" => form.arguments?.map fun _ => .bool form.takesLists
  | "__metadata__" =>
    match form with
    | annotated _ metadata => some (.tuple metadata)
    | _ => Option.none
  | _ => Option.none

/-- What a form itself keeps under a name. -/
def entry? (form : TypeForm) (name : String) : Option Value :=
  match name, form with
  | "__name__", newType label _ | "__qualname__", newType label _ => some (.text label)
  | "__supertype__", newType _ base => some (Value.ofForm base)
  | "_name", special label => some (.text label)
  | _, newType _ _ | _, special _ => Option.none
  | _, parameter label variance shared => parameterEntry? label variance shared name
  | _, forward content => forwardEntry? content name
  | "__origin__", _ => form.originPart?
  | "__args__", _ => form.arguments?.map Value.tuple
  | "__parameters__", _ =>
    form.arguments?.map fun _ => .tuple (form.parameters.map Value.ofForm)
  | "__unpacked__", generic .native _ _ => some (.bool false)
  | _, generic .native _ _ | _, union .bar _ => Option.none
  | _, _ => form.aliasEntry? name

/-- The names under which a form keeps what it is made of, in the order in which it does. -/
def keptNames : TypeForm → List String
  | shorthand _ _ => ["_inst", "_name", "__origin__", "__slots__", "_nparams"]
  | newType _ _ => ["__qualname__", "__name__", "__supertype__", "__module__"]
  | parameter _ _ shared =>
    ["__name__", "__covariant__", "__contravariant__", "__bound__", "__constraints__"] ++
      (if shared then [] else ["__module__"])
  | form =>
    ["_inst", "_name", "__origin__", "__slots__", "__args__", "__parameters__",
      "_paramspec_tvars"] ++
      (if (form.vocabularyName?.bind fun name => name).isSome then [] else ["__module__"]) ++
      (match form with
        | annotated _ _ => ["__metadata__"]
        | _ => [])

/-- The name that a form without one of its own gives for itself. -/
def givenName? : TypeForm → Option String
  | special name => some name
  | annotated _ _ => some "Annotated"
  | union .subscript members =>
    some (if members.length = 2 && members.any isNoneType then "Optional" else "Union")
  | shorthand name _ | generic (.vocabulary name) _ _ => some name
  | callable _ _ => some "Callable"
  | literal _ _ => some "Literal"
  | classVar _ => some "ClassVar"
  | final _ => some "Final"
  | _ => Option.none

end MemberThunks.TypeForm
