import QueryAdvisor.Json

/-!
# JSON in responses

What a response may hold. Strict JSON has no spelling for a number that is not finite, and UTF-8 no
bytes for a surrogate alone, so a value with either cannot be written. Members whose names begin with
`_sa` are reserved and never leave the service.
-/

namespace QueryAdvisor.Json

/-- The start of reserved names. -/
def reserved : Text := "_sa"

mutual

/-- The value can be written as the body of a response. -/
def isWritable : Json → Bool
  | .null => true
  | .bool _ => true
  | .int _ => true
  | .float x => x.isFinite
  | .str t => !t.hasSurrogate
  | .arr items => areWritable items
  | .obj members => membersWritable members

/-- All of the values can be written. -/
def areWritable : List Json → Bool
  | [] => true
  | v :: rest => isWritable v && areWritable rest

/-- All names and values can be written. -/
def membersWritable : List (Text × Json) → Bool
  | [] => true
  | (name, v) :: rest => !name.hasSurrogate && isWritable v && membersWritable rest

end

mutual

/-- The value without its reserved members, at every depth. -/
def withoutReserved : Json → Json
  | .null => .null
  | .bool b => .bool b
  | .int n => .int n
  | .float x => .float x
  | .str t => .str t
  | .arr items => .arr (itemsWithoutReserved items)
  | .obj members => .obj (membersWithoutReserved members)

/-- The values, each without its reserved members. -/
def itemsWithoutReserved : List Json → List Json
  | [] => []
  | v :: rest => withoutReserved v :: itemsWithoutReserved rest

/-- The members that are not reserved, each value without its own reserved members. -/
def membersWithoutReserved : List (Text × Json) → List (Text × Json)
  | [] => []
  | (name, v) :: rest =>
    if reserved.isPrefixOf name then membersWithoutReserved rest
    else (name, withoutReserved v) :: membersWithoutReserved rest

end

end QueryAdvisor.Json
