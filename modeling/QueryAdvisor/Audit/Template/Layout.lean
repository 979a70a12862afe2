import QueryAdvisor.Json.Display
import QueryAdvisor.Number.Digits

/-!
# Layout of values

A value can be shown in a column: filled up to a width, cut, with its sign, its digits in groups, in
another base, with so many places. A short code asks for that, in this order: fill and alignment, sign,
`z`, `#`, `0`, width, grouping, precision, kind. Which parts go with which kinds of values is checked
when the value is known.
-/

namespace QueryAdvisor

/-- Why a template cannot be filled. -/
inductive TemplateFault where
  /-- It is no template, or asks for what a value of the kind does not offer. -/
  | malformed
  /-- Nothing has that name. -/
  | unknownName
  /-- There is no such place. -/
  | unknownPlace
  /-- The value has no such part. -/
  | unknownPart
  /-- The value is of a kind for which this cannot be asked. -/
  | wrongKind
  /-- A number is too large for this. -/
  | tooLarge
  deriving DecidableEq, Repr

/-- Where a value stands in its column. -/
inductive Alignment where
  | left
  | right
  | center
  /-- The filling goes between sign and digits. -/
  | inside
  deriving DecidableEq, Repr

/-- What a code asks for. -/
structure Layout where
  fill : CodePoint := ' '
  alignment : Alignment
  /-- What stands before a number that is not negative. -/
  sign : Option CodePoint := none
  dropZeroSign : Bool := false
  alternate : Bool := false
  width : Option Nat := none
  grouping : Option CodePoint := none
  precision : Option Nat := none
  kind : Option CodePoint := none
  deriving DecidableEq, Repr

namespace Layout

/-! ### Reading a code -/

/-- The greatest count that a code may name. -/
def maxCount : Nat := Nat.pow 2 63 - 1

/-- The count that digits of any script write. -/
def countOf (digits : Text) : Nat :=
  (digits.filterMap (·.digitValue?)).foldl (fun n d => 10 * n + d) 0

/-- A count, if one is next, and what follows it. -/
def readCount (t : Text) : Except TemplateFault (Option Nat × Text) :=
  let digits := t.takeWhile (·.digitValue?.isSome)
  if maxCount < countOf digits then .error .malformed
  else .ok (if digits.isEmpty then none else some (countOf digits), t.drop digits.length)

/-- The first code point, if it is one of these, and what follows it. -/
def readOne (choices : Text) : Text → Option CodePoint × Text
  | [] => (none, [])
  | c :: rest => if choices.contains c then (some c, rest) else (none, c :: rest)

/-- The alignment that a mark asks for. -/
def alignment? (c : CodePoint) : Option Alignment :=
  if c = '<' then some .left
  else if c = '>' then some .right
  else if c = '^' then some .center
  else if c = '=' then some .inside
  else none

/-- An alignment with a fill before it, an alignment alone, or neither; and what follows. -/
def readAlignment (t : Text) : Option CodePoint × Option Alignment × Text :=
  match t with
  | [] => (none, none, [])
  | c :: rest =>
    match rest.head?.bind alignment? with
    | some a => (some c, some a, rest.drop 1)
    | none =>
      match alignment? c with
      | some a => (none, some a, rest)
      | none => (none, none, t)

/-- A point and a count behind it, if a point is next, and what follows. -/
def readPrecision (t : Text) : Except TemplateFault (Option Nat × Text) :=
  if t.head? ≠ some CodePoint.point then .ok (none, t)
  else
    match readCount t.tail with
    | .ok (some n, rest) => .ok (some n, rest)
    | _ => .error .malformed

/-- The kinds whose digits can be grouped by threes; no kind is one of them. -/
def groupedKinds : Text := "defgEGF%"

/-- The kinds whose digits can be grouped by fours. -/
def groupedByFour : Text := "boxX"

/-- The grouping goes with the kind. -/
def canGroup (grouping kind : Option CodePoint) : Bool :=
  match grouping, kind with
  | none, _ => true
  | some _, none => true
  | some g, some k =>
    groupedKinds.contains k || (g = CodePoint.underscore && groupedByFour.contains k)

/-- The layout that a code asks for, with the alignment and the kind that count where it names none. -/
def read (alignment : Alignment) (kind : Option CodePoint) (code : Text) :
    Except TemplateFault Layout := do
  let (fill, given, t) := readAlignment code
  let (sign, t) := readOne " +-" t
  let (z, t) := readOne "z" t
  let (alternate, t) := readOne "#" t
  let (zeros, t) := if fill.isSome then (none, t) else readOne "0" t
  let (width, t) ← readCount t
  let (comma, t) := readOne "," t
  let (underscore, t) := readOne "_" t
  if comma.isSome && underscore.isSome || underscore.isSome && t.head? = some ',' then
    throw .malformed
  let (precision, t) ← readPrecision t
  if 1 < t.length then throw .malformed
  let kind := t.head? <|> kind
  let grouping := comma <|> underscore
  if !canGroup grouping kind then throw .malformed
  let inside := zeros.isSome && alignment = .right
  return {
    fill := (fill <|> zeros).getD ' '
    alignment := given.getD (if inside then .inside else alignment)
    sign := sign
    dropZeroSign := z.isSome
    alternate := alternate.isSome
    width := width
    grouping := grouping
    precision := precision
    kind := kind }

/-! ### Filling up -/

/-- How many code points are missing to the width. -/
def missing (layout : Layout) (length : Nat) : Nat := layout.width.getD 0 - length

/-- What goes before the text, between `head` and `rest` of it, and behind it. -/
def place (layout : Layout) (head rest : Text) : Text :=
  let n := layout.missing (head.length + rest.length)
  let filling (n : Nat) : Text := List.replicate n layout.fill
  match layout.alignment with
  | .left => head ++ rest ++ filling n
  | .right => filling n ++ head ++ rest
  | .center => filling (n / 2) ++ head ++ rest ++ filling (n - n / 2)
  | .inside => head ++ filling n ++ rest

/-- A text in its column. -/
def text (layout : Layout) (t : Text) : Except TemplateFault Text :=
  if layout.kind ≠ some 's' || layout.sign.isSome || layout.dropZeroSign || layout.alternate ||
      layout.alignment = .inside then
    .error .malformed
  else .ok (layout.place [] (t.take (layout.precision.getD t.length)))

/-! ### Numbers -/

/-- Digits in groups, last digit first. Zeros are added while the groups and what stands between them
take less than `least`; `fuel` groups at most. -/
def groups (separator : CodePoint) (size : Nat) : Nat → Text → Int → Text
  | 0, _, _ => []
  | fuel + 1, digits, least =>
    let length := min size (max 1 (max digits.length least.toNat))
    let group := digits.take length
    let group := group ++ List.replicate (length - group.length) CodePoint.zero
    let rest := digits.drop length
    if rest.isEmpty && least ≤ length then group
    else group ++ separator :: groups separator size fuel rest (least - length - 1)

/-- The digits before the point, grouped as the layout asks and filled with zeros up to `least`. -/
def wholeDigits (layout : Layout) (digits : Text) (least : Int) : Text :=
  let byFour := layout.kind.any fun k => groupedByFour.contains k
  if digits.isEmpty then []
  else
    match layout.grouping with
    | none => List.replicate (least.toNat - digits.length) CodePoint.zero ++ digits
    | some separator =>
      (groups separator (if byFour then 4 else 3) (digits.length + least.toNat) digits.reverse
        least).reverse

/-- What stands before a number. -/
def signText (layout : Layout) (negative : Bool) : Text :=
  if negative then ['-']
  else
    match layout.sign with
    | some c => if c = '-' then [] else [c]
    | none => []

/-- A number in its column: sign, the mark of its base, its digits, and what follows them. -/
def number (layout : Layout) (negative : Bool) (mark digits rest : Text) : Text :=
  let head := layout.signText negative ++ mark
  let least : Int :=
    if layout.fill = CodePoint.zero && layout.alignment = .inside then
      (layout.width.getD 0 : Int) - head.length - rest.length
    else 0
  layout.place head (layout.wholeDigits digits least ++ rest)

/-- The base that a kind of whole number names, and the mark of that base. -/
def base? (kind : CodePoint) : Option (Nat × Text) :=
  if kind = 'd' || kind = 'n' then some (10, [])
  else if kind = 'b' then some (2, "0b")
  else if kind = 'o' then some (8, "0o")
  else if kind = 'x' then some (16, "0x")
  else if kind = 'X' then some (16, "0X")
  else none

/-- The character with a number. -/
def character (layout : Layout) (n : Int) : Except TemplateFault Text :=
  if layout.sign.isSome || layout.alternate then .error .malformed
  else if 0 ≤ n && n < 0x110000 then .ok (layout.number false [] [] [.ofNat n.toNat])
  else .error .tooLarge

/-- The kinds for which a number is taken as a double. -/
def realKinds : Text := "eEfFgG%"

/-- The greatest precision of a double. -/
def maxPrecision : Nat := Nat.pow 2 31 - 1

/-- The kinds written with capitals. -/
def capitalKinds : Text := "EFG"

/-- The form in which a kind of double is written. -/
def form? (kind : Option CodePoint) (precision : Option Nat) : Option DecimalForm :=
  let places := precision.getD 6
  match kind with
  | none => some ((precision.map fun p => DecimalForm.general (max p 1)).getD .shortest)
  | some k =>
    if k = 'e' || k = 'E' then some (.scientific places)
    else if k = 'f' || k = 'F' || k = '%' then some (.fixed places)
    else if k = 'g' || k = 'G' || k = 'n' then some (.general (max places 1))
    else none

/-- A double in its column. -/
def real (layout : Layout) (x : Double) : Except TemplateFault Text :=
  match form? layout.kind layout.precision with
  | none => .error .malformed
  | some form =>
    if maxPrecision < layout.precision.getD 0 then .error .malformed
    else
      let percent := layout.kind = some '%'
      let x := if percent then x.times 100 else x
      let t := x.write form layout.kind.isNone layout.alternate
      let t := if layout.kind.any (capitalKinds.contains ·) then t.map CodePoint.asciiUpper else t
      let negative := x.isNegative && !(layout.dropZeroSign && x.isZeroIn form)
      .ok (layout.number negative [] (Text.leadingDigits t)
        (Text.afterDigits t ++ if percent then [('%' : CodePoint)] else []))

/-- A whole number in its column. -/
def integer (layout : Layout) (n : Int) : Except TemplateFault Text :=
  match layout.kind with
  | none => .error .malformed
  | some kind =>
    if realKinds.contains kind then
      match Double.ofInt? n with
      | none => .error .tooLarge
      | some x => layout.real x
    else if layout.precision.isSome || layout.dropZeroSign then .error .malformed
    else if kind = 'c' then layout.character n
    else
      match base? kind with
      | none => .error .malformed
      | some (base, mark) =>
        let digits := Text.ofNatInBase base 0 n.natAbs
        .ok (layout.number (n < 0) (if layout.alternate then mark else [])
          (if kind = 'X' then digits.map CodePoint.asciiUpper else digits) [])

end Layout

/-- A value as a code asks for it. -/
def Json.shown (code : Text) (v : Json) : Except TemplateFault Text :=
  if code.isEmpty then .ok v.display
  else
    match v with
    | .str t => (Layout.read .left (some 's') code).bind (·.text t)
    | .int n => (Layout.read .right (some 'd') code).bind (·.integer n)
    | .bool b => (Layout.read .right (some 'd') code).bind (·.integer (if b then 1 else 0))
    | .float x => (Layout.read .right none code).bind (·.real x)
    | _ => .error .wrongKind

end QueryAdvisor
