import TypeSchema.Evaluation.Arguments
import TypeSchema.Evaluation.Kind
import TypeSchema.Evaluation.Operator
import TypeSchema.Number.Notation
/-!
# Instances of built-in classes

What a built-in class makes of its arguments. Numbers are read from text or converted, groupings take
the items of another value, and the other classes hold what they were given.

* Values that are written without a class are plain values and groupings; instances of the other
  classes are objects that hold such a value as their contents.
* An exception, and whatever else has no equality of its own, equals itself alone.
-/

namespace TypeSchema.Catalog

variable (cat : Catalog)

/-! ## Items -/

/-- What a value yields item by item, if it does. -/
def items? (t : TypeExpr) : Option (List TypeExpr) :=
  let ofPlain : TypeExpr → Option (List TypeExpr)
    | .constant (.string s) => some (characters s)
    | .constant (.bytes bs) => some (bs.map fun b => .ofInt b.toNat)
    | .group .dict entries => some (keysOf entries)
    | .group _ items => some items
    | _ => none
  match cat.plain t with
  | .subscript (.typingName .callable) _ => none
  | .subscript (.direct _) _ | .subscript (.flat _) _ => some [.unpacked t]
  | .subscript _ _ | .literal _ => some [.subscript (.form .unpack) [t]]
  | .cls id [] => if cat.isEnumeration ⟨id, []⟩ then some (cat.membersOf ⟨id, []⟩) else none
  | .object _ (.builtin .range) bounds => rangeItems? bounds
  | .object n id values =>
    match contents? (.object n id values) with
    | some inside => ofPlain inside
    | none => if cat.derives ⟨id, []⟩ .tuple then some values else none
  | t => ofPlain t

/-- What a value yields item by item, if it does. An iterator is used up. -/
def takeItems? (t : TypeExpr) : Eval (Option (List TypeExpr)) := do
  match ← Eval.iterator? t with
  | some (n, it) => do
    Eval.move n ⟨[], none⟩
    return some (← Eval.exhausted it)
  | none => return cat.items? t

/-- The items that a value yields where it has to. -/
def itemsOf (t : TypeExpr) : Eval (List TypeExpr) := do
  match ← cat.takeItems? t with
  | some items => return items
  | none => Eval.refuse (.notIterable (cat.kindName t))

/-- The items without those that are the same as an earlier one, none of which may change. -/
def setOf (items : List TypeExpr) : Eval TypeExpr :=
  match TypeExpr.changingPartOf? items with
  | some part => Eval.refuse (.unhashable (cat.kindName part))
  | none => return .group .set (TypeExpr.distinct items)

/-! ## Numbers -/

/-- The whole number that a value is converted to. -/
def toWhole (t : TypeExpr) : Eval TypeExpr :=
  match cat.plain t with
  | .constant (.string s) =>
    match Text.Numeral.integer? s.toList with
    | some n => return .ofInt n
    | none => throw (EvalError.notANumber "int() with base 10" (Text.quoted s))
  | .constant c =>
    match c.number? with
    | some (.whole n) => return .ofInt n
    | some (.double x) =>
      -- Cut off towards zero.
      let q := Number.ofDouble x
      return .ofInt (if q < 0 then -(-q).floor else q.floor)
    | _ => refused
  | _ => refused
where
  /-- The fault of a value that is no number. -/
  refused : Eval TypeExpr :=
    let demand := "a string, a bytes-like object or a real number"
    Eval.refuse (.notConvertible "int()" demand (cat.kindName t))

/-- Whether a whole number is too large for double width. -/
def exceedsDouble (n : Int) : Bool := Nat.pow 2 1024 - Nat.pow 2 970 ≤ n.natAbs

/-- The number of double width that a value is converted to. -/
def toDouble (t : TypeExpr) : Eval TypeExpr :=
  let refused : Eval TypeExpr :=
    Eval.refuse (.notConvertible "float()" "a string or a real number" (cat.kindName t))
  match cat.plain t with
  | .constant (.string s) =>
    match Number.Notation.double? s.toList with
    | some x => return .constant (.float x)
    | none => throw (.unsuitable (.notReadable "float" (Text.quoted s)))
  | .constant (.decimal d) =>
    match Number.Notation.double? d.display.toList with
    | some x => return .constant (.float x)
    | none => refused
  | .constant c =>
    match c.number? with
    | some (.whole n) =>
      if exceedsDouble n then throw (.overflow .float)
      else return .constant (.float (Binary64.ofInt n))
    | some (.double x) => return .constant (.float x)
    | _ => refused
  | _ => refused

/-- The complex number that a value is converted to. -/
def toComplex (t : TypeExpr) : Eval TypeExpr :=
  let refused : Eval TypeExpr :=
    Eval.refuse (.argumentText ("complex() first argument must be a string or a number, not " ++
      listed [cat.kindName t]))
  match cat.plain t with
  | .constant (.string s) =>
    match Number.Notation.withoutUnderscores? ' ' (Number.Notation.plainForm s.toList) with
    | none => throw (.unsuitable (.notReadable "complex" (Text.quoted s)))
    | some cs =>
      match Number.Notation.complex? cs with
      | some (x, y) => return .constant (.complex x y)
      | none => throw (.unsuitable .malformedComplex)
  | .constant c =>
    match c.number? with
    | some (.whole n) =>
      if exceedsDouble n then throw (.overflow .float)
      else return .constant (.complex (Binary64.ofInt n) ⟨0⟩)
    | some (.double x) => return .constant (.complex x ⟨0⟩)
    | some (.complex x y) => return .constant (.complex x y)
    | none => refused
  | _ => refused

/-- The decimal number of a sign, some digits and an exponent. -/
def decimalOfParts (sign digits exponent : TypeExpr) : Eval TypeExpr := do
  let refuse {α : Type} (fault : ValueFault) : Eval α := throw (.unsuitable fault)
  let isNegative ← match sign.asInt? with
    | some 0 => pure false
    | some 1 => pure true
    | _ => refuse .decimalSign
  let make : List Char → Decimal ← match exponent.asText?, exponent.asInt? with
    | some "F", _ => pure fun _ => .infinite isNegative
    | some "n", _ => pure fun ds => .undefined isNegative false ds
    | some "N", _ => pure fun ds => .undefined isNegative true ds
    | some _, _ => refuse .decimalMark
    | none, some e => pure fun ds => .finite isNegative (Number.Notation.valueOf ds) e
    | none, none => refuse .decimalExponent
  let items ← match digits with
    | .group .tuple items | .group .list items => pure items
    | _ => refuse .decimalDigits
  let ds ← items.mapM fun t =>
    match t.asInt? with
    | some d => if 0 ≤ d ∧ d ≤ 9 then pure (Char.ofNat ('0'.toNat + d.toNat)) else refuse .decimalDigits
    | none => refuse .decimalDigits
  return .constant (.decimal (make ds))

/-- The decimal number that a value is converted to. -/
def toDecimal (t : TypeExpr) : Eval TypeExpr :=
  let refused : Eval TypeExpr :=
    Eval.refuse (.argumentText ("conversion from " ++ cat.kindName t ++ " to Decimal is not supported"))
  match cat.plain t with
  | .constant (.string s) =>
    match Decimal.ofText? s.toList with
    | some d => return .constant (.decimal d)
    | none => throw (.decimal true)
  | .constant (.decimal d) => return .constant (.decimal d)
  | .constant c =>
    match c.asInt? with
    | some n => return .constant (.decimal (.ofInt n))
    | none => refused
  | .group .tuple parts | .group .list parts =>
    match parts with
    | [sign, digits, exponent] => decimalOfParts sign digits exponent
    | _ => throw (.unsuitable .decimalParts)
  | _ => refused

/-- The whole number that a value has to be. -/
def wholeOf (t : TypeExpr) : Eval Int :=
  match (cat.plain t).asInt? with
  | some n => return n
  | none => Eval.refuse (.notInteger (cat.kindName t))

/-- The least number that is too large for 64 bits with a sign. -/
def longLimit : Int := 0x8000000000000000

/-- The least number that is too large for 32 bits with a sign. -/
def shortLimit : Int := 0x80000000

/-- A whole number of 32 bits that a value has to be. -/
def shortOf (t : TypeExpr) : Eval Int := do
  let n ← cat.wholeOf t
  if n < -longLimit ∨ longLimit ≤ n then throw (.overflow .long)
  else if shortLimit ≤ n then throw (.overflow .aboveInt)
  else if n < -shortLimit then throw (.overflow .belowInt)
  else return n

/-! ## Bytes -/

/-- How many bytes there may be that are all zero. -/
def byteLimit : Nat := 0x1000000

/-- The bytes of a class that are made of a value. -/
def toBytes (className : String) (t : TypeExpr) : Eval (List UInt8) :=
  match cat.plain t with
  | .constant (.string _) => Eval.refuse .textWithoutEncoding
  | .constant (.bytes bs) => return bs
  | plain =>
    match plain.asInt? with
    | some n =>
      if n < -longLimit ∨ longLimit ≤ n then throw (.overflow .index)
      else if n < 0 then throw (.unsuitable .negativeCount)
      else if byteLimit < n then throw .outOfMemory
      else return List.replicate n.toNat 0
    | none =>
      match cat.items? t with
      | none => Eval.refuse (.notBytes (cat.kindName t) className)
      | some items => items.mapM fun item => do
        let n ← cat.wholeOf item
        if 0 ≤ n ∧ n < 256 then return n.toNat.toUInt8
        else throw (.unsuitable (.byteRange (if className = "bytes" then "bytes" else "byte")))

/-! ## Dictionaries -/

/-- The entries of a value that is a dictionary, or holds one. -/
def entries? (t : TypeExpr) : Option (List TypeExpr) :=
  match (contents? t).getD t with
  | .group .dict entries => some entries
  | _ => none

/-- A key has to be a value that does not change. -/
def checkKeyOf (key : TypeExpr) : Eval Unit :=
  match key.changingPart? with
  | some part => Eval.refuse (.unhashable (cat.kindName part))
  | none => pure ()

/-- Entries with one more, which replaces the value of an entry with the same key. -/
def putEntry (key value : TypeExpr) : List TypeExpr → List TypeExpr
  | [] => [.group .tuple [key, value]]
  | .group .tuple [k, v] :: rest =>
    if k.same key then .group .tuple [k, value] :: rest
    else .group .tuple [k, v] :: putEntry key value rest
  | t :: rest => t :: putEntry key value rest

/-- The entries of a dictionary that is made of a value: those that it has, or its items, which have
to be pairs. -/
def toEntries (isOrdered : Bool) (t : TypeExpr) : Eval (List TypeExpr) :=
  match entries? t with
  | some entries => return entries
  | none => do
    let items ← cat.itemsOf t
    items.zipIdx.foldlM (fun entries (item, i) => do
      match cat.items? item with
      | none =>
        if isOrdered then Eval.refuse (.notIterable (cat.kindName item))
        else Eval.refuse (.notAnEntry i)
      | some [key, value] =>
        cat.checkKeyOf key
        return putEntry key value entries
      | some parts =>
        if !isOrdered then throw (.unsuitable (.entryLength i parts.length))
        else if parts.length < 2 then throw (.unsuitable (.partsMissing parts.length))
        else throw (.unsuitable .tooManyParts)) []

/-- How often each item of a value occurs in it; a dictionary is taken as it is. -/
def toCounts (t : TypeExpr) : Eval (List TypeExpr) :=
  match t, entries? t with
  | .constant .none, _ => return []
  | _, some entries => return entries
  | t, none => do
    let items ← cat.itemsOf t
    items.foldlM (fun entries item => do
      cat.checkKeyOf item
      let count := (entries.findSome? fun
        | .group .tuple [k, .constant (.int n)] => if k.same item then some n else none
        | _ => none).getD 0
      return putEntry item (.ofInt (count + 1)) entries) []

/-! ## Other classes -/

/-- A described text of some parts. -/
def makeDescription (parts : List TypeExpr) : Eval TypeExpr := do
  let texts ← (parts.zipIdx).mapM fun (t, i) =>
    match (cat.plain t).asText? with
    | some s => pure s
    | none => Eval.refuse (.joinedItem i (cat.kindName t))
  return .description (← Eval.fresh) (joinWith " " texts)

/-- An address of a version that a value stands for. -/
def toAddress (version : Nat) (t : TypeExpr) : Eval Nat :=
  let read (text : List Char) : Except Text.AddressFault Nat :=
    if version = 4 then Text.Address.ofOctets text else Text.Address.ofGroups text
  let found := match (cat.plain t).asInt? with
    | some n => Text.Address.ofNumber version n
    | none => read (cat.printed (cat.plain t)).toList
  match found with
  | .ok n => return n
  | .error fault => throw (.address fault)

/-- The number of days that a value stands for. -/
def toDays (t : TypeExpr) : Eval Int :=
  match (cat.plain t).asInt? with
  | none =>
    Eval.refuse (.argumentText
      ("unsupported type for timedelta days component: " ++ cat.kindName t))
  | some n =>
    if n < -shortLimit ∨ shortLimit ≤ n then throw (.overflow .int)
    else if 999999999 < n.natAbs then throw (.overflow (.days n))
    else return n

/-- The part of a date or of a time that has to be given and is not. -/
def missingPart (name : String) (position : Nat) : Eval TypeExpr :=
  Eval.refuse (.argumentText ("function missing required argument " ++ listed [name] ++
    " (pos " ++ toString position ++ ")"))

/-- The number of days of a month. -/
def daysIn (year month : Nat) : Nat :=
  if month = 2 then
    if year % 4 = 0 ∧ (year % 100 ≠ 0 ∨ year % 400 = 0) then 29 else 28
  else if [4, 6, 9, 11].contains month then 30 else 31

/-- The parts of a date, which has to be one. -/
def dateParts (year month day : TypeExpr) : Eval (List TypeExpr) := do
  let year ← cat.shortOf year
  let month ← cat.shortOf month
  let day ← cat.shortOf day
  let refuse (words : String) : Eval (List TypeExpr) := throw (.unsuitable (.text words))
  if year < 1 ∨ 9999 < year then refuse ("year " ++ toString year ++ " is out of range")
  else if month < 1 ∨ 12 < month then refuse "month must be in 1..12"
  else if day < 1 ∨ (daysIn year.toNat month.toNat : Int) < day then
    refuse "day is out of range for month"
  else return [.ofInt year, .ofInt month, .ofInt day]

/-- Entries of a dictionary with those that are given by name. -/
def withNamed (args : Arguments) (entries : List TypeExpr) : List TypeExpr :=
  args.named.foldl (fun es (n, v) => putEntry (.ofText n) v es) entries

/-- An exception with some arguments. -/
def makeException (name : String) (positional : List TypeExpr) : Eval TypeExpr := do
  let exactly (count : Nat) : Eval Unit :=
    if positional.length = count then pure ()
    else Eval.refuse (.argumentText ("function takes exactly " ++ toString count ++
      " arguments (" ++ toString positional.length ++ " given)"))
  match name with
  | "UnicodeDecodeError" | "UnicodeEncodeError" => exactly 5
  | "UnicodeTranslateError" => exactly 4
  | "ExceptionGroup" | "BaseExceptionGroup" =>
    if positional.length ≠ 2 then
      Eval.refuse (.argumentText ("BaseExceptionGroup.__new__() takes exactly 2 arguments (" ++
        toString positional.length ++ " given)"))
  | _ => pure ()
  return .object (some (← Eval.fresh)) (.builtin (.other name)) positional

/-- An instance of a class that is known by its name alone. -/
def makeOther (name : String) (positional : List TypeExpr) : Eval TypeExpr := do
  let own : Eval TypeExpr := do
    return .object (some (← Eval.fresh)) (.builtin (.other name)) positional
  match name, positional with
  | "enumerate", t :: _ | "zip", [t] => do
    let _ ← cat.itemsOf t
    own
  | "filter", [_] => Eval.refuse (.argumentText "filter expected 2 arguments, got 1")
  | "map", [_] => Eval.refuse (.argumentText "map() must have at least two arguments.")
  | "super", [t] =>
    Eval.refuse (.argumentText ("super() argument 1 must be type, not " ++
      (if t = .constant .none then "None" else cat.kindName t)))
  | _, _ => own

/-- What is said of more arguments than a built-in class takes, the first of which are `t` and `u`. -/
def excessText (b : Builtin) (t u : TypeExpr) (count : Nat) : Option String :=
  let given := toString count
  let kind (v : TypeExpr) : String := if v = .constant .none then "None" else cat.kindName v
  let initialiser (taken : String) : String :=
    b.name ++ ".__init__() takes " ++ taken ++ " positional arguments but " ++
      toString (count + 1) ++ " were given"
  match b with
  | .bool | .float | .list | .tuple | .set | .frozenset =>
    some (b.name ++ " expected at most 1 argument, got " ++ given)
  | .orderedDict => some ("expected at most 1 arguments, got " ++ given)
  | .counter | .userList | .userDict => some (initialiser "from 1 to 2")
  | .userString | .ipv4Address | .ipv6Address => some (initialiser "2")
  | .int =>
    if 2 < count then some ("int() takes at most 2 arguments (" ++ given ++ " given)")
    else if (cat.plain u).asInt?.isNone then
      some (listed [cat.kindName u] ++ " object cannot be interpreted as an integer")
    else if (cat.plain t).asText?.isNone then
      some "int() can't convert non-string with explicit base"
    else none
  | .complex =>
    if 2 < count then some ("complex() takes at most 2 arguments (" ++ given ++ " given)")
    else if (cat.plain t).asText?.isSome then
      some "complex() can't take second arg if first is a string"
    else if (cat.plain u).asText?.isSome then some "complex() second arg can't be a string"
    else none
  | .str =>
    if 3 < count then some ("str() takes at most 3 arguments (" ++ given ++ " given)")
    else if (cat.plain u).asText?.isNone then
      some ("str() argument 'encoding' must be str, not " ++ kind u)
    else match cat.plain t with
      | .constant (.string _) => some "decoding str is not supported"
      | .constant (.bytes _) => none
      | t => some ("decoding to str: need a bytes-like object, " ++ cat.kindName t ++ " found")
  | .bytes | .bytearray =>
    if (cat.plain u).asText?.isNone then
      some (b.name ++ "() argument 'encoding' must be str, not " ++ kind u)
    else if (cat.plain t).asText?.isNone then some "encoding without a string argument"
    else none
  | .deque =>
    if 2 < count then some ("deque() takes at most 2 arguments (" ++ given ++ " given)")
    else if u ≠ .constant .none ∧ (cat.plain u).asInt?.isNone then some "an integer is required"
    else none
  | .decimal =>
    if 2 < count then some ("function takes at most 2 arguments (" ++ given ++ " given)")
    else some "optional argument must be a context"
  | .type => if count = 2 then some "type() takes 1 or 3 arguments" else none
  | _ => none

/-- What a built-in class makes of its arguments. -/
def makeBuiltin (b : Builtin) (args : Arguments) : Eval TypeExpr := do
  match b, args.positional with
  | .description, parts => cat.makeDescription parts
  | .schemaField, _ =>
    let params := schemaFieldFields.map fun f =>
      (⟨f.name, if f.hasDefault then some (.constant .none) else none⟩ : Parameter)
    return .object none (.builtin b) (← Parameter.bind "SchemaField.__init__()" true params args)
  | .typingAny, _ => Eval.refuse .anyInstance
  | .type, [t] => return cat.classOf t
  | .int, [] => return .ofInt 0
  | .int, [t] => cat.toWhole t
  | .bool, [] => return .ofBool false
  | .bool, [t] => return .ofBool (cat.isTrue t)
  | .str, [] => return .ofText ""
  | .str, [t] => return .ofText (cat.textOf t)
  | .float, [] => return .constant (.float ⟨0⟩)
  | .float, [t] => cat.toDouble t
  | .complex, [] => return .constant (.complex ⟨0⟩ ⟨0⟩)
  | .complex, [t] => cat.toComplex t
  | .decimal, [] => return .constant (.decimal (.ofInt 0))
  | .decimal, [t] => cat.toDecimal t
  | .bytes, [] => return .constant (.bytes [])
  | .bytes, [t] => return .constant (.bytes (← cat.toBytes "bytes" t))
  | .bytearray, [] => return holding b (.constant (.bytes []))
  | .bytearray, [t] => return holding b (.constant (.bytes (← cat.toBytes "bytearray" t)))
  | .list, [] => return .group .list []
  | .list, [t] => return .group .list (← cat.itemsOf t)
  | .tuple, [] => return .group .tuple []
  | .tuple, [t] => return .group .tuple (← cat.itemsOf t)
  | .set, [] => return .group .set []
  | .set, [t] => cat.setOf (← cat.itemsOf t)
  | .frozenset, [] => return holding b (.group .set [])
  | .frozenset, [t] => return holding b (← cat.setOf (← cat.itemsOf t))
  | .deque, [] => return holding b (.group .list [])
  | .deque, [t] => return holding b (.group .list (← cat.itemsOf t))
  | .dict, positional => do
    let entries ← match positional with
      | [] => pure []
      | [t] => cat.toEntries false t
      | several => Eval.refuse (.argumentText
          ("dict expected at most 1 argument, got " ++ toString several.length))
    return .group .dict (withNamed args entries)
  | .orderedDict, [] => return holding b (.group .dict (withNamed args []))
  | .orderedDict, [t] => do
    return holding b (.group .dict (withNamed args (← cat.toEntries true t)))
  | .counter, [] => return holding b (.group .dict (withNamed args []))
  | .counter, [t] => return holding b (.group .dict (← cat.toCounts t))
  | .defaultDict, [] => return holding b (.group .dict [])
  | .defaultDict, t :: _ =>
    match t with
    | .constant .none | .cls _ _ | .function _ => return holding b (.group .dict [])
    | _ => Eval.refuse (.argumentText "first argument must be callable or None")
  | .date, [t] | .datetime, [t] => do
    let _ ← cat.shortOf t
    missingPart "month" 2
  | .time, [t] => do
    let n ← cat.shortOf t
    if 0 ≤ n ∧ n < 24 then return holding b (.ofInt n) else throw (.unsuitable .hour)
  | .timedelta, [t] => return holding b (.ofInt (← cat.toDays t))
  | .ipv4Address, [t] => return holding b (.ofInt (← cat.toAddress 4 t))
  | .ipv6Address, [t] => return holding b (.ofInt (← cat.toAddress 6 t))
  | .baseException, positional => makeException "BaseException" positional
  | .exception, positional => makeException "Exception" positional
  | .genericAlias, [_] =>
    Eval.refuse (.argumentText "GenericAlias expected 2 arguments, got 1")
  | .module, [t] =>
    match (cat.plain t).asText? with
    | some _ => return .object (some (← Eval.fresh)) (.builtin b) [t]
    | none =>
      Eval.refuse (.argumentText ("module() argument 'name' must be str, not " ++
        (if t = .constant .none then "None" else cat.kindName t)))
  | .simpleNamespace, [] => return holding b (.group .dict (withNamed args []))
  | .date, [year, month, day] => do
    return .object none (.builtin b) (← cat.dateParts year month day)
  | .simpleNamespace, _ :: _ => Eval.refuse (.argumentText "no positional arguments expected")
  | .tzinfo, positional => return .object (some (← Eval.fresh)) (.builtin b) positional
  | .noneType, [] => return .constant .none
  | .slice, [upper] => return .object none (.builtin .slice) [.constant .none, upper, .constant .none]
  | .slice, [lower, upper] => return .object none (.builtin .slice) [lower, upper, .constant .none]
  | .slice, [lower, upper, step] => return .object none (.builtin .slice) [lower, upper, step]
  | .initVar, [t] => return .initVar (← Eval.fresh) t
  | .forwardRef, [t] =>
    match t.asText? with
    | some s => reference s none false
    | none =>
      Eval.refuse (.argumentText ("Forward reference must be a string -- got " ++ cat.display t))
  | .newType, [t, _] =>
    match (cat.plain t).asText? with
    | some name => return .newType ⟨← Eval.fresh, name, "__main__"⟩
    | none => return t
  | .newType, [_] => Eval.refuse (.missingArguments "NewType.__init__()" "positional" ["tp"])
  | .typeVar, t :: _ =>
    match t.asText? with
    | some name => return .typeVar ⟨← Eval.fresh, name, mainModule⟩
    | none => return .object (some (← Eval.fresh)) (.builtin b) [t]
  | .annotated, _ => Eval.refuse (.argumentText "Type Annotated cannot be instantiated.")
  | .other name, positional =>
    if Builtin.exceptionNames.contains name then makeException name positional
    else cat.makeOther name positional
  | b, t :: u :: more =>
    match cat.excessText b t u (more.length + 2) with
    | some text => Eval.refuse (.argumentText text)
    | none => Eval.refuse (.takesNothing b.name)
  | _, positional =>
    if positional.isEmpty ∧ args.named.isEmpty then
      return .object (some (← Eval.fresh)) (.builtin b) []
    else Eval.refuse (.takesNothing b.name)

end TypeSchema.Catalog
