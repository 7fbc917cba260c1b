/-!
Contract: the three root operation categories.

Owns: `OperationKind`, its names and the root type each one has by default.
-/

namespace SdlProjection

inductive OperationKind where
  | query
  | mutation
  | subscription
deriving DecidableEq, Repr

namespace OperationKind

/-- All kinds, in the order in which a root type name is looked up. -/
def all : List OperationKind := [.query, .mutation, .subscription]

def name : OperationKind → String
  | .query => "query"
  | .mutation => "mutation"
  | .subscription => "subscription"

/-- The root type name in force when no `schema` block binds another. -/
def defaultRoot : OperationKind → String
  | .query => "Query"
  | .mutation => "Mutation"
  | .subscription => "Subscription"

def ofName? (name : String) : Option OperationKind :=
  all.find? fun kind => kind.name == name

end OperationKind

end SdlProjection
