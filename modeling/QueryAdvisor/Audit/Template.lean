import QueryAdvisor.Audit.Template.Layout

/-!
# Templates

A message can be a template for the fields of its record. What stands between two braces is a
placeholder: the name of a field, then perhaps parts of its value, a conversion behind `!`, and a code
for the layout behind `:`. Two equal braces in a row are one brace of the message. A code can hold
placeholders, but none whose code holds more.

A template is filled from the left, so of several things wrong the first one counts; what follows a
malformed place is not looked at.
-/

namespace QueryAdvisor

/-- A place of a template to be filled. -/
structure Placeholder where
  name : Text
  conversion : Option CodePoint := none
  code : Text := []
  deriving DecidableEq, Repr

/-- A piece of a template. -/
inductive TemplatePiece where
  | text (t : Text)
  | placeholder (p : Placeholder)
  /-- From here on it is no template. -/
  | malformed
  deriving DecidableEq, Repr

/-- What a value, or a part of one, is called by. -/
inductive TemplateKey where
  | name (t : Text)
  | place (n : Nat)
  | hugePlace
  deriving DecidableEq, Repr

/-- A step from a value to a part of it. -/
inductive TemplateStep where
  /-- To a part that values of its kind have. -/
  | part (name : Text)
  /-- To an item of a list, a code point of a text, or a member of an object. -/
  | item (key : TemplateKey)
  /-- From here on it is no name. -/
  | malformed
  deriving DecidableEq, Repr

namespace Template

open CodePoint (openBrace closeBrace point)

def colon : CodePoint := ':'
def exclamation : CodePoint := '!'
def openBracket : CodePoint := '['
def closeBracket : CodePoint := ']'

/-! ### Reading a template -/

/-- The name at the start of a text, the mark behind it, and what follows that. Between square brackets
no mark ends the name. -/
def readName (bracketed : Bool) : Text → Option (Text × CodePoint × Text)
  | [] => none
  | c :: rest =>
    if bracketed then (readName (c ≠ closeBracket) rest).map fun (name, t) => (c :: name, t)
    else if c = openBrace then none
    else if c = closeBrace || c = colon || c = exclamation then some ([], c, rest)
    else (readName (c = openBracket) rest).map fun (name, t) => (c :: name, t)

/-- The text before the brace that closes all those open, `depth` of them inside the text, and what
follows that brace. -/
def readCode : Nat → Text → Option (Text × Text)
  | _, [] => none
  | 0, c :: rest =>
    if c = closeBrace then some ([], rest)
    else (readCode (if c = openBrace then 1 else 0) rest).map fun (code, t) => (c :: code, t)
  | depth + 1, c :: rest =>
    let depth := if c = closeBrace then depth else if c = openBrace then depth + 2 else depth + 1
    (readCode depth rest).map fun (code, t) => (c :: code, t)

/-- What a placeholder asks for behind its name and the mark that ends it, and what follows its brace. -/
def readRequest (name : Text) (mark : CodePoint) (t : Text) : Option (Placeholder × Text) :=
  if mark = closeBrace then some ({ name := name }, t)
  else if mark = colon then
    (readCode 0 t).map fun (code, rest) => ({ name := name, code := code }, rest)
  else
    match t with
    | conversion :: mark :: rest =>
      if mark = closeBrace then some ({ name := name, conversion := some conversion }, rest)
      else if mark = colon then
        (readCode 0 rest).map fun (code, rest) =>
          ({ name := name, conversion := some conversion, code := code }, rest)
      else none
    | _ => none

/-- The placeholder behind an open brace, and what follows its closed one. -/
def readPlaceholder (t : Text) : Option (Placeholder × Text) :=
  (readName false t).bind fun (name, mark, rest) => readRequest name mark rest

/-- No brace, so that it stands for itself. -/
def isPlain (c : CodePoint) : Bool := c ≠ openBrace && c ≠ closeBrace

/-- The pieces of a template; `fuel` of them at most. -/
def piecesWithin : Nat → Text → List TemplatePiece
  | 0, _ => []
  | fuel + 1, t =>
    .text (t.takeWhile isPlain) ::
      match t.dropWhile isPlain with
      | [] => []
      | [_] => [.malformed]
      | brace :: c :: rest =>
        if c = brace then .text [brace] :: piecesWithin fuel rest
        else if brace = closeBrace then [.malformed]
        else
          match readPlaceholder (c :: rest) with
          | some (p, rest) => .placeholder p :: piecesWithin fuel rest
          | none => [.malformed]

/-- The pieces of a template. -/
def pieces (t : Text) : List TemplatePiece := piecesWithin (t.length + 1) t

/-! ### Finding values -/

/-- What a text calls a value by. Digits alone are a place. -/
def key (t : Text) : TemplateKey :=
  let digits := t.takeWhile (·.digitValue?.isSome)
  if Layout.maxCount < Layout.countOf digits then .hugePlace
  else if !digits.isEmpty && digits.length = t.length then .place (Layout.countOf digits)
  else .name t

/-- Neither mark that begins a step. -/
def isNamePart (c : CodePoint) : Bool := c ≠ point && c ≠ openBracket

/-- The steps that a text behind the name of a field asks for; `fuel` of them at most. -/
def stepsWithin : Nat → Text → List TemplateStep
  | 0, _ => []
  | _, [] => []
  | fuel + 1, c :: t =>
    if c = point then
      if (t.takeWhile isNamePart).isEmpty then [.malformed]
      else .part (t.takeWhile isNamePart) :: stepsWithin fuel (t.dropWhile isNamePart)
    else if c = openBracket then
      match t.takeWhile (· ≠ closeBracket), t.dropWhile (· ≠ closeBracket) with
      | [], _ => [.malformed]
      | _, [] => [.malformed]
      | name, _ :: rest => .item (key name) :: stepsWithin fuel rest
    else [.malformed]

/-- The steps that a text behind the name of a field asks for. -/
def steps (t : Text) : List TemplateStep := stepsWithin t.length t

/-- A part of an integer. -/
def partOfInt (name : Text) (n : Int) : Except TemplateFault Json :=
  if name = "real" || name = "numerator" then .ok (.int n)
  else if name = "imag" then .ok (.int 0)
  else if name = "denominator" then .ok (.int 1)
  else .error .unknownPart

/-- A part that values of a kind have: numbers have a real and an imaginary part, integers are ratios
too. -/
def part (name : Text) : Json → Except TemplateFault Json
  | .int n => partOfInt name n
  | .bool b => partOfInt name (if b then 1 else 0)
  | .float x =>
    if name = "real" then .ok (.float x)
    else if name = "imag" then .ok (.float .zero)
    else .error .unknownPart
  | _ => .error .unknownPart

/-- What a value holds under a key. -/
def item (key : TemplateKey) (v : Json) : Except TemplateFault Json :=
  match key, v with
  | .hugePlace, _ => .error .malformed
  | .place n, .arr items =>
    match items[n]? with
    | some v => .ok v
    | none => .error .unknownPlace
  | .place n, .str t =>
    match t[n]? with
    | some c => .ok (.str [c])
    | none => .error .unknownPlace
  | .place _, .obj _ => .error .unknownName
  | .name name, .obj members =>
    match Members.get? name members with
    | some v => .ok v
    | none => .error .unknownName
  | _, _ => .error .wrongKind

/-- The value that a step leads to. -/
def follow (v : Json) : TemplateStep → Except TemplateFault Json
  | .part name => part name v
  | .item key => item key v
  | .malformed => .error .malformed

/-- The field with a key; only names call fields. -/
def field (fields : Members) (t : Text) : Except TemplateFault Json :=
  if t.isEmpty then .error .unknownPlace
  else
    match key t with
    | .hugePlace => .error .malformed
    | .place _ => .error .unknownPlace
    | .name name =>
      match fields.get? name with
      | some v => .ok v
      | none => .error .unknownName

/-- The value that a name in a template stands for. -/
def valueOf (fields : Members) (name : Text) : Except TemplateFault Json :=
  (field fields (name.takeWhile isNamePart)).bind fun v =>
    (steps (name.dropWhile isNamePart)).foldlM follow v

/-! ### Filling -/

/-- The value after a conversion: as it is shown, in quotes, or in quotes with ASCII characters only. -/
def convert (conversion : Option CodePoint) (v : Json) : Except TemplateFault Json :=
  match conversion with
  | none => .ok v
  | some c =>
    if c = 's' then .ok (.str v.display)
    else if c = 'r' then .ok (.str (v.quoted false))
    else if c = 'a' then .ok (.str (v.quoted true))
    else .error .malformed

/-- What stands at the place of a piece; `expand` fills a code that holds placeholders. -/
def fillPiece (fields : Members) (expand : Text → Except TemplateFault Text) :
    TemplatePiece → Except TemplateFault Text
  | .text t => .ok t
  | .malformed => .error .malformed
  | .placeholder p => do
    let v ← valueOf fields p.name
    let v ← convert p.conversion v
    let code ← if p.code.contains openBrace then expand p.code else .ok p.code
    v.shown code

/-- The template with its places filled; `expand` fills codes that hold placeholders. -/
def fillWith (fields : Members) (expand : Text → Except TemplateFault Text) (t : Text) :
    Except TemplateFault Text :=
  ((pieces t).mapM (fillPiece fields expand)).map List.flatten

/-- The template with its places filled by some fields. -/
def fill (fields : Members) (t : Text) : Except TemplateFault Text :=
  fillWith fields (fillWith fields fun _ => .error .malformed) t

end Template

end QueryAdvisor
