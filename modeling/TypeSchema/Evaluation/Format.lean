import TypeSchema.Evaluation.Item
import TypeSchema.Number.Layout
import TypeSchema.Text.Uppercase
/-!
# Values as texts

`Catalog.textOf` is the text that stands for a value where a text is wanted, and
`Catalog.formatted` the one that it has in a place with a layout. `Catalog.interpolated` fills the
places of a text that stands before a percent sign.
-/

namespace TypeSchema.Catalog

variable (cat : Catalog)

/-- The text that stands for a value where a text is wanted. -/
def textOf (t : TypeExpr) : String :=
  match t with
  | .constant (.string s) => s
  | .constant (.decimal d) => d.display
  | .member id name value =>
    if cat.derives ⟨id, []⟩ .reprEnum then
      match value with
      | .constant (.string s) => s
      | value => cat.display value
    else cat.nameOf ⟨id, []⟩ ++ "." ++ name
  | .description _ _ | .object none _ _ => cat.display t
  | .object (some _) (.builtin b) values =>
    if Builtin.exceptionNames.contains b.name ∨ b = .exception ∨ b = .baseException then
      match values with
      | [] => ""
      | [.constant (.string s)] => if b.name = "KeyError" then Text.quoted s else s
      | [value] => cat.display value
      | values => cat.display (.group .tuple values)
    else cat.display t
  | t => cat.display t

/-- A text in which characters outside ASCII stand as their escapes. -/
def asciiText (s : String) : String :=
  String.ofList (s.toList.flatMap fun c =>
    if c.toNat < 0x80 then [c]
    else if c.toNat < 0x100 then '\\' :: 'x' :: Text.hexDigits 2 c.toNat
    else if c.toNat < 0x10000 then '\\' :: 'u' :: Text.hexDigits 4 c.toNat
    else '\\' :: 'U' :: Text.hexDigits 8 c.toNat)

/-- A value as the sign of a conversion asks for it. -/
def converted (conversion : Char) (t : TypeExpr) : String :=
  match conversion with
  | 'r' => cat.display t
  | 'a' => asciiText (cat.display t)
  | _ => cat.textOf t

/-! ## Layouts -/

/-- Refuse a layout. -/
def refuseLayout {α : Type} (words : String) : Eval α := throw (.unsuitable (.text words))

/-- What is said where a kind of value has no such style. -/
def unknownStyle (style : Char) (kind : String) : String :=
  "Unknown format code " ++ listed [String.singleton style] ++ " for object of type " ++ listed [kind]

/-- A number of double width as a layout has it. -/
def formatDouble (l : Number.Layout) (x : Binary64) : Eval String := do
  let style := l.style.getD 'r'
  let isWhole := x.exponentField != Binary64.topExponent
  let (numerator, denominator) := x.magnitude
  let precision := l.precision.getD 6
  let make (parts : List Char × List Char) : Eval String :=
    return String.ofList (l.ofNumber x.isNegative [] parts.1 parts.2 3)
  if !isWhole then
    let text := (if x.isNegative then x.negate else x).display
    let shown := if "EFG".toList.contains style then Text.upper text else text
    make (shown.toList, if style = '%' then ['%'] else [])
  else match style with
    | 'f' | 'F' => make (Number.Layout.fixed numerator denominator precision)
    | 'e' | 'E' => make (Number.Layout.scientific style numerator denominator precision)
    | 'g' | 'n' => make (Number.Layout.general 'e' l.isMarked numerator denominator precision)
    | 'G' => make (Number.Layout.general 'E' l.isMarked numerator denominator precision)
    | '%' =>
      let (whole, part) := Number.Layout.fixed (numerator * 100) denominator precision
      make (whole, part ++ ['%'])
    | 'r' =>
      match l.precision with
      | some p =>
        let (whole, part) := Number.Layout.general 'e' false numerator denominator p
        make (whole, if part.isEmpty then ".0".toList else part)
      | none =>
        let text := (if x.isNegative then x.negate else x).display.toList
        make (text.takeWhile Char.isDigit, text.dropWhile Char.isDigit)
    | c => refuseLayout (unknownStyle c "float")

/-- A whole number as a layout has it. -/
def formatWhole (l : Number.Layout) (kind : String) (n : Int) : Eval String := do
  let inBase (base : Nat) (mark : String) (upper : Bool) (size : Nat) : Eval String :=
    let ds := Number.Layout.digitsIn base n.natAbs
    let ds := if upper then ds.map Char.toUpper else ds
    return String.ofList
      (l.ofNumber (n < 0) (if l.isMarked then mark.toList else []) ds [] size)
  let isFraction := "eEfFgG%".toList.contains (l.style.getD 'd')
  if isFraction then formatDouble l (Binary64.ofInt n)
  else if l.precision.isSome then
    refuseLayout "Precision not allowed in integer format specifier"
  else match l.style.getD 'd' with
    | 'd' | 'n' => inBase 10 "" false 3
    | 'b' => inBase 2 "0b" false 4
    | 'o' => inBase 8 "0o" false 4
    | 'x' => inBase 16 "0x" false 4
    | 'X' => inBase 16 "0X" true 4
    | 'c' =>
      if 0 ≤ n ∧ n < 0x110000 then
        return String.ofList ({ l with align := some (l.align.getD '<') }.ofText [Char.ofNat n.toNat])
      else throw (.overflow .character)
    | c => refuseLayout (unknownStyle c kind)

/-- A value as the text of a layout has it. -/
def formatted (t : TypeExpr) (layout : String) : Eval String := do
  if layout = "" then return cat.textOf t
  let read (kind : String) : Eval Number.Layout :=
    match Number.Layout.read layout.toList with
    | some l => return l
    | none =>
      refuseLayout ("Invalid format specifier " ++ listed [layout] ++ " for object of type " ++
        listed [kind])
  match t with
  | .constant (.string s) => ofText (← read "str") s
  | .member _ _ _ => ofText (← read "str") (cat.textOf t)
  | .constant (.bool b) => formatWhole (← read "bool") "bool" (if b then 1 else 0)
  | .constant (.int n) => formatWhole (← read "int") "int" n
  | .constant (.float x) => formatDouble (← read "float") x
  | t =>
    Eval.refuse (.argumentText ("unsupported format string passed to " ++ cat.kindName t ++
      ".__format__"))
where
  /-- A text as a layout has it. -/
  ofText (l : Number.Layout) (s : String) : Eval String := do
    match l.style with
    | none | some 's' => pure ()
    | some c => refuseLayout (unknownStyle c "str")
    if l.sign ≠ '-' then refuseLayout "Sign not allowed in string format specifier"
    if l.isMarked then refuseLayout "Alternate form (#) not allowed in string format specifier"
    if l.align = some '=' && l.fill ≠ '0' then
      refuseLayout "'=' alignment not allowed in string format specifier"
    let align := if l.align = some '=' then some '<' else l.align
    return String.ofList ({ l with align }.ofText s.toList)

/-! ## Texts before a percent sign -/

/-- The layout of a place in a text before a percent sign. -/
def placeLayout (flags : List Char) (width precision : Option Nat) (style : Option Char) :
    Number.Layout :=
  let isLeft := flags.contains '-'
  { fill := if flags.contains '0' && !isLeft then '0' else ' '
    align := some (if isLeft then '<' else if flags.contains '0' then '=' else '>')
    sign := if flags.contains '+' then '+' else if flags.contains ' ' then ' ' else '-'
    isMarked := flags.contains '#'
    width := width.getD 0, grouping := none, precision, style }

/-- A value in a place of a text before a percent sign. -/
def inPlace (flags : List Char) (width precision : Option Nat) (style : Char) (t : TypeExpr) :
    Eval String := do
  let l := placeLayout flags width precision
  let ofText (s : String) : Eval String :=
    let l := l none
    return String.ofList ({ l with fill := ' ' }.placed (if l.align = some '<' then '<' else '>')
      (match l.precision with
        | some n => s.toList.take n
        | none => s.toList))
  let sign := "%" ++ String.singleton style ++ " format: "
  let number := match cat.plain t with
    | .constant c => c.number?
    | _ => none
  match style, number with
  | 's', _ => ofText (cat.textOf t)
  | 'r', _ => ofText (cat.display t)
  | 'a', _ => ofText (asciiText (cat.display t))
  | 'c', some (.whole n) =>
    if 0 ≤ n ∧ n < 0x110000 then ofText (String.singleton (Char.ofNat n.toNat))
    else throw (.overflow .character)
  | 'c', _ =>
    match cat.plain t with
    | .constant (.string s) =>
      if s.length = 1 then ofText s else Eval.refuse (.argumentText "%c requires int or char")
    | _ => Eval.refuse (.argumentText "%c requires int or char")
  | 'd', some (.whole n) | 'i', some (.whole n) | 'u', some (.whole n) =>
    formatWhole { l (some 'd') with precision := none } "int" n
  | 'd', some (.double x) | 'i', some (.double x) | 'u', some (.double x) =>
    let q := Number.ofDouble x
    formatWhole { l (some 'd') with precision := none } "int" (if q < 0 then -(-q).floor else q.floor)
  | 'x', some (.whole n) | 'X', some (.whole n) | 'o', some (.whole n) =>
    formatWhole { l (some style) with precision := none } "int" n
  | style, number =>
    if "diu".toList.contains style then
      Eval.refuse (.argumentText (sign ++ "a real number is required, not " ++ cat.kindName t))
    else if "xXo".toList.contains style then
      Eval.refuse (.argumentText (sign ++ "an integer is required, not " ++ cat.kindName t))
    else match number with
      | some (.whole n) => formatDouble (l (some style)) (Binary64.ofInt n)
      | some (.double x) => formatDouble (l (some style)) x
      | _ => Eval.refuse (.argumentText ("must be real number, not " ++ cat.kindName t))

/-- A text before a percent sign whose places are filled one by one, and the values that are left
over. -/
def fillPlaces (whole : TypeExpr) : (steps place : Nat) → List Char → List TypeExpr →
    Eval (List Char × List TypeExpr)
  | 0, _, _, values => return ([], values)
  | _, _, [], values => return ([], values)
  | steps + 1, place, '%' :: '%' :: cs, values => do
    let (rest, left) ← fillPlaces whole steps (place + 2) cs values
    return ('%' :: rest, left)
  | steps + 1, place, '%' :: cs, values => do
    let (key, after) := match cs with
      | '(' :: inside =>
        let key := inside.takeWhile (· ≠ ')')
        (some (String.ofList key), inside.drop (key.length + 1))
      | cs => (none, cs)
    let flags := after.takeWhile ("-+ #0".toList.contains ·)
    let (width, after) := Number.Layout.natural? (after.drop flags.length)
    let (precision, after) := match after with
      | '.' :: rest =>
        let (n, rest) := Number.Layout.natural? rest
        (some (n.getD 0), rest)
      | rest => (none, rest)
    match after with
    | [] => throw (.unsuitable (.text "incomplete format"))
    | style :: after =>
      let read := cs.length - after.length
      if !"sracdiuxXoeEfFgG".toList.contains style then
        let code := String.ofList (Nat.toDigits 16 style.toNat)
        throw (.unsuitable (.text ("unsupported format character " ++
          listed [String.singleton style] ++ " (0x" ++ code ++ ") at index " ++
          toString (place + read))))
      let (value, left) ← match key, values with
        | some key, _ =>
          match whole with
          | .group .dict entries => do
            let value ← cat.entryOf entries (.ofText key)
            pure (value, [])
          | _ => Eval.refuse (.argumentText "format requires a mapping")
        | none, value :: left => pure (value, left)
        | none, [] => Eval.refuse (.argumentText "not enough arguments for format string")
      let shown ← cat.inPlace flags width precision style value
      let (rest, left) ← fillPlaces whole steps (place + 1 + read) after left
      return (shown.toList ++ rest, left)
  | steps + 1, place, c :: cs, values => do
    let (rest, left) ← fillPlaces whole steps (place + 1) cs values
    return (c :: rest, left)

/-- A text with a value, or the items of a tuple, in its places. -/
def interpolated (template : String) (value : TypeExpr) : Eval String := do
  let values := match value with
    | .group .tuple items => items
    | value => [value]
  let cs := template.toList
  let (filled, left) ← cat.fillPlaces value (cs.length + 1) 0 cs values
  -- A dictionary or a list need not be used up.
  let isLoose := match value with
    | .group .dict _ | .group .list _ => true
    | _ => false
  if left.isEmpty || isLoose then return String.ofList filled
  else Eval.refuse .unusedFormatArguments

end TypeSchema.Catalog
