/-!
# Transaction modes

The isolation level and the access mode of a transaction, with the words by which SQL knows them.
-/

namespace TxRetry

/-- How far a transaction is shielded from others that run at the same time. -/
inductive IsolationLevel where
  | readCommitted
  | repeatableRead
  | serializable
  deriving DecidableEq, Repr, Inhabited

/-- The words for an isolation level in SQL. -/
def IsolationLevel.sql : IsolationLevel → String
  | .readCommitted => "READ COMMITTED"
  | .repeatableRead => "REPEATABLE READ"
  | .serializable => "SERIALIZABLE"

/-- Whether a transaction may write. -/
inductive AccessMode where
  | readWrite
  | readOnly
  deriving DecidableEq, Repr, Inhabited

/-- The words for an access mode in SQL. -/
def AccessMode.sql : AccessMode → String
  | .readWrite => "READ WRITE"
  | .readOnly => "READ ONLY"

end TxRetry
