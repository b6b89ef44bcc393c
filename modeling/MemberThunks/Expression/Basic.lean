import MemberThunks.Text.Identifier
import MemberThunks.Text.Quoted

set_option autoImplicit false

/- Trees of generated expressions and how they are written. -/
namespace MemberThunks

inductive Literal where
  | number (value : Int)
  | text (content : String)
deriving DecidableEq

namespace Literal

def source : Literal → String
  | number value => toString value
  | text content => Quoted.quote content

end Literal

/-- What is wrong with the keywords of a call. -/
inductive KeywordFault where
  /-- A keyword that no call can give. -/
  | reserved
  | repeated (name : String)
deriving DecidableEq

namespace KeywordFault

/-- The name that the language keeps for itself: it can be read but not given a value. -/
def reservedName : String := "__debug__"

/-- The fault of the first keyword that has one: it is reserved, or given again. -/
def find? : List String → Option KeywordFault
  | [] => none
  | name :: rest =>
    if name = reservedName then some reserved
    else if rest.contains name then some (repeated name)
    else find? rest

end KeywordFault

inductive Expression where
  | name (label : String)
  /-- A member written after a dot. -/
  | dot (target : Expression) (label : String)
  | subscript (target : Expression) (index : Literal)
  | literal (content : Literal)
  | call (callee : Expression) (arguments : List Expression)
      (keywords : List (String × Expression))

deriving instance Inhabited for Expression

namespace Expression

/-- The builtin that reads a member by any name. -/
def readerName : String := "getattr"

mutual

def source : Expression → String
  | name label => label
  | dot target label => target.source ++ "." ++ label
  | subscript target index => target.source ++ "[" ++ index.source ++ "]"
  | literal content => content.source
  | call callee arguments keywords =>
    callee.source ++ "(" ++ ", ".intercalate (sources arguments ++ keywordSources keywords) ++ ")"
termination_by structural expression => expression

def sources : List Expression → List String
  | [] => []
  | expression :: rest => expression.source :: sources rest
termination_by structural expressions => expressions

def keywordSources : List (String × Expression) → List String
  | [] => []
  | (keyword, expression) :: rest =>
    (keyword ++ "=" ++ expression.source) :: keywordSources rest
termination_by structural keywords => keywords

end

mutual

/-- The names an expression refers to, in the order they are written. -/
def names : Expression → List String
  | name label => [label]
  | dot target _ => target.names
  | subscript target _ => target.names
  | literal _ => []
  | call callee arguments keywords => callee.names ++ namesAll arguments ++ namesKeywords keywords
termination_by structural expression => expression

def namesAll : List Expression → List String
  | [] => []
  | expression :: rest => expression.names ++ namesAll rest
termination_by structural expressions => expressions

def namesKeywords : List (String × Expression) → List String
  | [] => []
  | (_, expression) :: rest => expression.names ++ namesKeywords rest
termination_by structural keywords => keywords

end

/-- The first name that stands in a list twice, by its second place. -/
def repeated? : List String → Option String
  | names => (names.zipIdx.find? fun entry => (names.take entry.2).contains entry.1).map (·.1)

mutual

/-- What is wrong with the keywords of the first call where something is; a call is looked
at before its parts. -/
def keywordFault? : Expression → Option KeywordFault
  | name _ | literal _ => none
  | dot target _ => target.keywordFault?
  | subscript target _ => target.keywordFault?
  | call callee arguments keywords =>
    (KeywordFault.find? (keywords.map (·.1))).or
      (callee.keywordFault?.or
        ((keywordFaultInAll? arguments).or (keywordFaultInKeywords? keywords)))
termination_by structural expression => expression

def keywordFaultInAll? : List Expression → Option KeywordFault
  | [] => none
  | expression :: rest => expression.keywordFault?.or (keywordFaultInAll? rest)
termination_by structural expressions => expressions

def keywordFaultInKeywords? : List (String × Expression) → Option KeywordFault
  | [] => none
  | (_, expression) :: rest => expression.keywordFault?.or (keywordFaultInKeywords? rest)
termination_by structural keywords => keywords

end

/-- The member of an instance: after a dot where its name allows that, else through
the reader by name. -/
def member (target : Expression) (label : String) : Expression :=
  if Identifier.isPlain label then dot target label
  else call (name readerName) [target, literal (.text label)] []

end Expression

end MemberThunks
