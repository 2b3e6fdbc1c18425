/-!
# Types on the wire

The types of parameters and columns of a Postgres server.
-/

namespace SqlCompose.Postgres

/-- A type of a parameter or a column. -/
inductive WireType where
  | bool
  | int2
  | int4
  | int8
  | float4
  | float8
  | text
  | varchar
  | bytea
  | timestamp
  | timestamptz
  | date
  | json
  | jsonb
  | uuid
  /-- A type whose values are not read. -/
  | other (name : String)
  deriving DecidableEq, Repr

namespace WireType

/-- The types by their names. -/
def table : List (String × WireType) :=
  [("bool", bool), ("int2", int2), ("int4", int4), ("int8", int8), ("float4", float4),
    ("float8", float8), ("text", text), ("varchar", varchar), ("bytea", bytea),
    ("timestamp", timestamp), ("timestamptz", timestamptz), ("date", date), ("json", json),
    ("jsonb", jsonb), ("uuid", uuid)]

def ofName (name : String) : WireType := (table.lookup name).getD (other name)

def name : WireType → String
  | bool => "bool"
  | int2 => "int2"
  | int4 => "int4"
  | int8 => "int8"
  | float4 => "float4"
  | float8 => "float8"
  | text => "text"
  | varchar => "varchar"
  | bytea => "bytea"
  | timestamp => "timestamp"
  | timestamptz => "timestamptz"
  | date => "date"
  | json => "json"
  | jsonb => "jsonb"
  | uuid => "uuid"
  | other name => name

end WireType

end SqlCompose.Postgres
