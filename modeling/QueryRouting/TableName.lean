/-!
# Full names of tables

A table is known by one text: its keyspace, a point, and its name.  The rows of
the server and the statements of a client meet in this text.

## Main definitions

* `qualifiedName` — the full name.
-/

namespace QueryRouting

/-- The full name of a table: keyspace, point, table. -/
def qualifiedName (keyspace table : String) : String := keyspace ++ "." ++ table

end QueryRouting
