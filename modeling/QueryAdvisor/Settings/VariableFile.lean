import QueryAdvisor.Text.Blank

/-!
# Variable files

A file of lines `NAME=value`. A name may follow the word `export` and may stand in single quotes; a
value may stand in quotes of either kind, and then goes over line ends; an unquoted value goes up to a
comment, which begins at a `#` that follows a blank. A line that fits none of this is skipped. In a value
`${NAME}` stands for the value of a variable and `${NAME:-other}` for that or, failing it, for `other`.
-/

namespace QueryAdvisor.VariableFile

open CodePoint (isBlank singleQuote doubleQuote backslash openBrace closeBrace bell backspace tab lineFeed
  verticalTab formFeed carriageReturn)

/-- A variable of a file; it has no value if no `=` follows its name. -/
abbrev Binding := Text × Option Text

/-! ### Pieces of a line -/

/-- A blank that does not end a line. -/
def isInlineBlank (c : CodePoint) : Bool := isBlank c && c ≠ lineFeed && c ≠ carriageReturn

def isLineEnd (c : CodePoint) : Bool := c = lineFeed || c = carriageReturn

def byteOrderMark : CodePoint := ⟨0xFEFF, by decide⟩
def hash : CodePoint := '#'
def equals : CodePoint := '='
def dollar : CodePoint := '$'

/-- One line end for all its spellings. -/
def unifyLineEnds : Text → Text
  | [] => []
  | [c] => if c = carriageReturn then [lineFeed] else [c]
  | c :: d :: rest =>
    if c = carriageReturn then
      if d = lineFeed then lineFeed :: unifyLineEnds rest else lineFeed :: unifyLineEnds (d :: rest)
    else c :: unifyLineEnds (d :: rest)

def skipInline (t : Text) : Text := t.dropWhile isInlineBlank

/-- The text behind the rest of its line. -/
def skipLine (t : Text) : Text := (t.dropWhile fun c => !isLineEnd c).drop 1

/-- The text behind the word `export` and blanks, if it starts so. -/
def skipExport (t : Text) : Text :=
  if ("export" : Text).isPrefixOf t && (t.drop 6).head?.any isInlineBlank then
    skipInline (t.drop 6)
  else t

/-- A name, and what follows it; none where neither a name nor a comment begins. A comment has no
name. -/
def name? (t : Text) : Option (Option Text × Text) :=
  if t.head? = some hash then some (none, t)
  else if t.head? = some singleQuote then
    let inside := t.tail.takeWhile (· ≠ singleQuote)
    let rest := t.tail.dropWhile (· ≠ singleQuote)
    if inside.isEmpty || rest.isEmpty then none else some (some inside, rest.tail)
  else
    let isName (c : CodePoint) : Bool := c ≠ equals && c ≠ hash && !isBlank c
    let name := t.takeWhile isName
    if name.isEmpty then none else some (some name, t.dropWhile isName)

/-- A quoted text behind its opening quote, and what follows its closing one; none where that is
missing. What follows a backslash belongs to the text, be it a quote or another backslash. -/
def quoted? (quote : CodePoint) (read : Text) : Text → Option (Text × Text)
  | [] => none
  | [c] => if c = quote then some (read.reverse, []) else none
  | c :: d :: rest =>
    if c = quote then some (read.reverse, d :: rest)
    else if c = backslash then quoted? quote (d :: c :: read) rest
    else quoted? quote (c :: read) (d :: rest)

/-- What an escape in single quotes stands for. -/
def singleEscapes : List (CodePoint × CodePoint) :=
  [(backslash, backslash), (singleQuote, singleQuote)]

/-- What an escape in double quotes stands for. -/
def doubleEscapes : List (CodePoint × CodePoint) :=
  [(backslash, backslash), (singleQuote, singleQuote), (doubleQuote, doubleQuote),
    ('a', bell), ('b', backspace), ('f', formFeed), ('n', lineFeed), ('r', carriageReturn),
    ('t', tab), ('v', verticalTab)]

/-- The text with its escapes replaced; a backslash that begins none stays. -/
def unescape (escapes : List (CodePoint × CodePoint)) : Text → Text
  | [] => []
  | [c] => [c]
  | c :: d :: rest =>
    if c = backslash then
      match escapes.lookup d with
      | some e => e :: unescape escapes rest
      | none => c :: unescape escapes (d :: rest)
    else c :: unescape escapes (d :: rest)

/-- The text before the first `#` that follows a blank, without that blank and those before it. -/
def beforeComment : Text → Text
  | [] => []
  | c :: rest =>
    if isBlank c && (rest.dropWhile isBlank).head? = some hash then [] else c :: beforeComment rest

/-- A value behind its `=`, and what follows it. -/
def value? (t : Text) : Option (Text × Text) :=
  match skipInline t with
  | [] => some ([], [])
  | c :: rest =>
    if c = singleQuote then
      (quoted? c [] rest).map fun (v, rest) => (unescape singleEscapes v, rest)
    else if c = doubleQuote then
      (quoted? c [] rest).map fun (v, rest) => (unescape doubleEscapes v, rest)
    else
      let line := t.takeWhile fun c => !isLineEnd c
      some (Text.trim (beforeComment line), t.dropWhile fun c => !isLineEnd c)

/-- The text behind a comment, if one is next, and the end of its line; none if anything else stands
before that end. -/
def endLine? (t : Text) : Option Text :=
  let t :=
    if (skipInline t).head? = some hash then (skipInline t).dropWhile fun c => !isLineEnd c
    else skipInline t
  match t with
  | [] => some []
  | c :: rest => if isLineEnd c then some rest else none

/-! ### Lines and files -/

/-- What stands between a name and the end of its line. -/
def afterName? (t : Text) : Option (Option Text × Text) :=
  match skipInline t with
  | [] => some (none, [])
  | c :: rest =>
    if c = equals then (value? rest).map fun (v, rest) => (some v, rest)
    else some (none, c :: rest)

/-- The variable at the start of a text, if there is one, and what follows its line. -/
def binding (t : Text) : Option Binding × Text :=
  match name? (skipExport t) with
  | none => (none, skipLine (skipExport t))
  | some (name, rest) =>
    match afterName? rest with
    | none => (none, skipLine rest)
    | some (value, rest) =>
      match endLine? rest with
      | none => (none, skipLine rest)
      | some rest => (name.map fun name => (name, value), rest)

/-- The variables of a text. Each step takes at least one code point, so `fuel` code points suffice. -/
def bindings : Nat → Text → List Binding
  | 0, _ => []
  | fuel + 1, t =>
    match t.dropWhile isBlank with
    | [] => []
    | c :: rest =>
      let (found, rest) := binding (c :: rest)
      found.toList ++ bindings fuel rest

/-! ### References -/

/-- The value of a name, the first that is there. -/
def lookup (name : Text) (values : List Binding) : Option (Option Text) := values.lookup name

/-- What a reference stands for: an unknown name for its default, a name without value for nothing. -/
def resolve (values : List Binding) (name : Text) (default : Option Text) : Text :=
  match lookup name values with
  | none => default.getD []
  | some value => value.getD []

/-- A reference behind its dollar sign: the name, the default, and what follows. -/
def reference? (t : Text) : Option (Text × Option Text × Text) :=
  if t.head? ≠ some openBrace then none
  else
    let isName (c : CodePoint) : Bool := c ≠ closeBrace && c ≠ ':'
    let name := t.tail.takeWhile isName
    match t.tail.dropWhile isName with
    | [] => none
    | c :: rest =>
      if c = closeBrace then some (name, none, rest)
      else if rest.head? = some '-' then
        match rest.tail.dropWhile (· ≠ closeBrace) with
        | [] => none
        | _ :: after => some (name, some (rest.tail.takeWhile (· ≠ closeBrace)), after)
      else none

/-- The text with its references replaced; `fuel` is at least its length. -/
def expand (values : List Binding) : Nat → Text → Text
  | 0, t => t
  | _, [] => []
  | fuel + 1, c :: rest =>
    if c = dollar then
      match reference? rest with
      | some (name, default, after) => resolve values name default ++ expand values fuel after
      | none => c :: expand values fuel rest
    else c :: expand values fuel rest

/-- Give a name a value, at its place if it has one and else at the end. -/
def assign (name : Text) (value : Option Text) : List Binding → List Binding
  | [] => [(name, value)]
  | (n, v) :: rest => if n = name then (name, value) :: rest else (n, v) :: assign name value rest

/-- The variables with their references replaced, one after the other: those before it in the file, then
those of the surroundings, are what a value can refer to. -/
def resolveAll (around : List Binding) (found : List Binding) : List Binding :=
  found.foldl (fun values (name, value) =>
    assign name (value.map fun v => expand (values ++ around) v.length v) values) []

/-- The text behind a byte order mark, if it starts with one. -/
def skipMark (t : Text) : Text := if t.head? = some byteOrderMark then t.tail else t

/-- The variables that a file sets, in surroundings with some variables set. -/
def read (around : List (Text × Text)) (file : Text) : List Binding :=
  let t := unifyLineEnds (skipMark file)
  resolveAll (around.map fun v => (v.1, some v.2)) (bindings (t.length + 1) t)

example : (read [] "A='x y' # note\nexport B=1 #c\nC=$\x7bB\x7d-$\x7bD:-z\x7d\n= bad\nE").map (·.1) =
    (["A", "B", "C", "E"] : List Text) := by decide +kernel

end QueryAdvisor.VariableFile
