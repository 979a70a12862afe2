import QueryAdvisor.Json
import QueryAdvisor.Number.Decimal
import QueryAdvisor.Text.Quoted

/-!
# Values for people

A value as it is shown inside a sentence: a string as it stands, everything else as it would be written
in a program. Inside lists and objects strings are quoted.
-/

namespace QueryAdvisor.Json

/-- Pieces with a comma and a space between neighbours. -/
def commas : List Text → Text
  | [] => []
  | [t] => t
  | t :: rest => t ++ ((", " : Text) ++ commas rest)

mutual

/-- The value with its strings quoted. -/
def quoted (ascii : Bool) : Json → Text
  | .null => "None"
  | .bool b => if b then "True" else "False"
  | .int n => Text.ofInt n
  | .float x => x.toText
  | .str t => Text.quoted ascii t
  | .arr items => ("[" : Text) ++ commas (quotedItems ascii items) ++ ("]" : Text)
  | .obj members =>
    CodePoint.openBrace :: commas (quotedMembers ascii members) ++ [CodePoint.closeBrace]
termination_by structural v => v

/-- The items of a list, each with its strings quoted. -/
def quotedItems (ascii : Bool) : List Json → List Text
  | [] => []
  | v :: rest => quoted ascii v :: quotedItems ascii rest
termination_by structural items => items

/-- The members of an object, names and values with their strings quoted. -/
def quotedMembers (ascii : Bool) : List (Text × Json) → List Text
  | [] => []
  | (name, v) :: rest =>
    (Text.quoted ascii name ++ (": " : Text) ++ quoted ascii v) :: quotedMembers ascii rest
termination_by structural members => members

end

/-- The value as it is shown. -/
def display : Json → Text
  | .str t => t
  | v => quoted false v

end QueryAdvisor.Json
