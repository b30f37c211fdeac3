import SpanTelemetry.Protocol.Peer

namespace SpanTelemetry.Attributes

/-!
# Database attributes

* `databaseType` — the type of the calls to a database system.
* `databasePort` — the port that a database system listens on by default.
* `databaseTarget` — the target of a database call.
* `databaseStatement?` — what a database call asks for.
-/

/-- Database systems that are queried in SQL. -/
def sqlSystems : List String :=
  ["db2", "derby", "mariadb", "mssql", "mysql", "oracle", "postgresql", "sqlite", "other_sql",
    "hsqldb", "h2"]

/-- The type of the calls to a database system: systems that are queried in SQL share one, apart
    from two with a type of their own. -/
def databaseType (system : String) : String :=
  if system = "mysql" || system = "postgresql" then system
  else if sqlSystems.contains system then "SQL"
  else system

/-- The ports that database systems listen on by default. -/
def databasePorts : List (String × Nat) :=
  [("mongodb", 27017), ("cassandra", 9042), ("redis", 6379), ("mariadb", 3306), ("mysql", 3306),
    ("mssql", 1433), ("db2", 50000), ("oracle", 1521), ("h2", 8082), ("derby", 1527),
    ("postgresql", 5432)]

/-- The port that a database system listens on by default; zero if that is not known. -/
def databasePort (system : String) : Nat := (databasePorts.lookup system).getD 0

/-- The target of a database call: the server and the database on it, or else the system. -/
def databaseTarget (attributes : Attributes) (system : String) : Text.Written String := do
  let server ← attributes.peerTarget? (databasePort system)
  pure ((Text.joinPresent " | " server (attributes.string? AttributeKey.dbName)).getD system)

/-- What a database call asks for: its statement or else its operation. -/
def databaseStatement? (attributes : Attributes) : Option String :=
  (attributes.string? AttributeKey.dbStatement).or (attributes.string? AttributeKey.dbOperation)

end SpanTelemetry.Attributes
