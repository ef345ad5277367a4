/-!
The kinds of types a schema defines, and the kinds of operations it offers.
-/

namespace SchemaExplorer

/-- What a type is. The three roots are told apart by their names, all others by the keyword that
introduces them. -/
inductive TypeKind where
  | enum
  | inputObject
  | interface
  | list
  | mutation
  | nonNull
  | object
  | query
  | scalar
  | subscription
  | union
deriving DecidableEq, Repr

namespace TypeKind

def all : List TypeKind :=
  [enum, inputObject, interface, list, mutation, nonNull, object, query, scalar, subscription,
    union]

def name : TypeKind → String
  | enum => "Enum"
  | inputObject => "InputObject"
  | interface => "Interface"
  | list => "List"
  | mutation => "Mutation"
  | nonNull => "NonNull"
  | object => "Object"
  | query => "Query"
  | scalar => "Scalar"
  | subscription => "Subscription"
  | union => "Union"

def ofName? (name : String) : Option TypeKind :=
  all.find? (·.name = name)

theorem ofName?_name (kind : TypeKind) : ofName? kind.name = some kind := by
  cases kind <;> decide

/-- The kind that a keyword announces; a word that is no keyword announces an object. -/
def ofKeyword (keyword : String) : TypeKind :=
  if keyword = "enum" then enum
  else if keyword = "input" then inputObject
  else if keyword = "interface" then interface
  else if keyword = "scalar" then scalar
  else if keyword = "union" then union
  else object

/-- The kind of a type called `typeName` that `keyword` introduces: a root if it has the name of
one, whatever the keyword. -/
def classify (keyword typeName : String) : TypeKind :=
  if typeName = "Query" then query
  else if typeName = "Mutation" then mutation
  else if typeName = "Subscription" then subscription
  else ofKeyword keyword

/-- Types of these kinds have a list of fields. -/
def hasFields : TypeKind → Bool
  | interface | mutation | object | query | subscription => true
  | _ => false

def isRootOperation : TypeKind → Bool
  | mutation | query | subscription => true
  | _ => false

/-- Types of these kinds have no body: they end on the line that introduces them. -/
def isSelfTerminating : TypeKind → Bool
  | scalar | union => true
  | _ => false

end TypeKind

/-- The three kinds of operations. -/
inductive OperationKind where
  | mutation
  | query
  | subscription
deriving DecidableEq, Repr

namespace OperationKind

def all : List OperationKind :=
  [mutation, query, subscription]

/-- The name of the type whose fields are the operations of this kind. -/
def rootTypeName : OperationKind → String
  | mutation => "Mutation"
  | query => "Query"
  | subscription => "Subscription"

/-- The kind of the type that has `rootTypeName`. -/
def typeKind : OperationKind → TypeKind
  | mutation => .mutation
  | query => .query
  | subscription => .subscription

def ofName? (name : String) : Option OperationKind :=
  all.find? (·.rootTypeName = name)

end OperationKind

end SchemaExplorer
