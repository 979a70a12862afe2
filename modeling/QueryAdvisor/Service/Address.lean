import QueryAdvisor.Number.Digits
import QueryAdvisor.Text.Encoding

/-!
# Addresses

What a client asks for: a path, and behind a question mark parameters. The address may be complete or
begin with its path, with or without the first slash. A part `.` of a path stays where it is and a part
`..` goes back by one.

What cannot stand in an address as it is stands there as a percent sign and two hexadecimal digits for
each of its bytes. In a path such escapes are resolved twice, by who sends it and by who receives it; in
parameters once, and there a plus sign is a space.
-/

namespace QueryAdvisor

/-- An address, resolved. -/
structure Address where
  path : Text
  parameters : List (Text × Text)
  deriving DecidableEq, Repr

namespace Address

def slash : CodePoint := '/'
def percent : CodePoint := '%'

/-! ### Cutting -/

/-- The text before the first such code point, and the text behind it. -/
def cutAt (c : CodePoint) (t : Text) : Text × Text :=
  (t.takeWhile (· ≠ c), (t.dropWhile (· ≠ c)).drop 1)

/-- The pieces between such code points. -/
def splitAt (separator : CodePoint) : Text → List Text
  | [] => [[]]
  | c :: rest =>
    if c = separator then [] :: splitAt separator rest
    else match splitAt separator rest with
      | [] => [[c]]
      | piece :: pieces => (c :: piece) :: pieces

/-- The pieces with a separator between neighbours. -/
def join (separator : CodePoint) : List Text → Text
  | [] => []
  | [t] => t
  | t :: rest => t ++ separator :: join separator rest

/-! ### Escapes -/

/-- The byte that two hexadecimal digits write. -/
def byte? (high low : CodePoint) : Option UInt8 := do
  let high ← high.hexValue?
  let low ← low.hexValue?
  return .ofNat (16 * high + low)

/-- The bytes of a text, where an escape is one byte. -/
def escapedBytes : Text → Bytes
  | c :: high :: low :: rest =>
    match if c = percent then byte? high low else none with
    | some b => b :: escapedBytes rest
    | none => Encoding.encodePoint c ++ escapedBytes (high :: low :: rest)
  | t => Encoding.encodeUtf8 t

/-- The text with its escapes resolved. -/
def unescape (t : Text) : Text := Encoding.decodeUtf8Anyway (escapedBytes t)

/-! ### Paths -/

/-- Go on by a part of a path; `parts` are those gone so far, the last one first. -/
def enter (parts : List Text) (part : Text) : List Text :=
  if part = "." then parts
  else if part = ".." then
    if parts = [[]] then parts else parts.tail
  else part :: parts

/-- The path without parts `.` and `..`. -/
def withoutDots (path : Text) : Text :=
  join slash (((splitAt slash path).foldl enter []).reverse)

def isLetter (c : CodePoint) : Bool := c.isUpperLetter || c.isLowerLetter

def isSchemePart (c : CodePoint) : Bool := isLetter c || c.isDigit || c = '+' || c = '.' || c = '-'

/-- The address without the name of a protocol, if it begins with one. -/
def skipScheme (t : Text) : Text :=
  match t.dropWhile isSchemePart with
  | c :: rest => if c = ':' && t.head?.any isLetter then rest else t
  | [] => t

/-- The name of a server behind two slashes, and what follows it. -/
def cutServer (t : Text) : Text × Text :=
  if [slash, slash].isPrefixOf t then
    ((t.drop 2).takeWhile (· ≠ slash), (t.drop 2).dropWhile (· ≠ slash))
  else ([], t)

/-- The path of an address without parameters, with one slash in front unless the address is complete. -/
def pathOf (t : Text) : Text :=
  let (server, path) := cutServer (skipScheme t)
  if server.isEmpty || (skipScheme t).length = t.length then slash :: path.dropWhile (· = slash)
  else path

/-! ### Parameters -/

/-- A name or a value among the parameters. -/
def parameterPart (t : Text) : Text :=
  unescape (List.map (fun c => if c = ('+' : CodePoint) then (' ' : CodePoint) else c) t)

/-- The parameters that the text behind the question mark gives. -/
def parametersOf (t : Text) : List (Text × Text) :=
  ((splitAt '&' t).filter (!·.isEmpty)).map fun piece =>
    (parameterPart (cutAt '=' piece).1, parameterPart (cutAt '=' piece).2)

/-- The address that a text writes. What follows a `#` is not for the service. -/
def ofText (t : Text) : Address :=
  let (reference, query) := cutAt '?' (cutAt '#' t).1
  { path := unescape (unescape (withoutDots (pathOf reference)))
    parameters := parametersOf query }

/-- The value of a parameter; of several of that name the last one counts. -/
def parameter? (a : Address) (name : Text) : Option Text := a.parameters.reverse.lookup name

example : (ofText "v1/./x/../history/recen%2574").path = ("/v1/history/recent" : Text) := by
  decide +kernel
example : (ofText "/x?limit=%2B1&limit=+2#end").parameter? "limit" = some (" 2" : Text) := by
  decide +kernel

end Address

end QueryAdvisor
