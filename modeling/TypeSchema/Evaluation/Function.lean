import TypeSchema.Evaluation.Method
/-!
# Functions of modules

What the functions that are in scope everywhere, and some of the `typing` module, make of their arguments.
Where one of them calls another function, it does so through a `Caller`.
-/

namespace TypeSchema.Catalog

variable (cat : Catalog)

/-- Arguments that are all given by position. -/
def positionally (values : List TypeExpr) : Arguments := ⟨values, []⟩

/-- The range of the numbers of arguments that a function in scope everywhere takes. -/
def argumentRange? (name : String) : Option (Nat × Nat) :=
  let shapes : List (List String × Nat × Nat) :=
    [(["len", "repr", "ascii", "abs", "callable", "all", "any", "chr", "ord", "bin", "hex", "oct",
       "hash", "id"], 1, 1),
     (["isinstance", "issubclass", "hasattr", "divmod"], 2, 2),
     (["getattr"], 2, 3), (["next", "format"], 1, 2), (["iter"], 1, 2), (["sorted"], 1, 1),
     (["min", "max"], 1, 255)]
  shapes.findSome? fun (names, least, most) =>
    if names.contains name then some (least, most) else none

/-- Check how many arguments a function in scope everywhere is given. -/
def checkRange (name : String) (given : Nat) : Eval Unit :=
  match argumentRange? name with
  | none => pure ()
  | some (least, most) =>
    if least ≤ given ∧ given ≤ most then pure ()
    else if least = 1 ∧ most = 1 ∧ name ≠ "sorted" then
      Eval.refuse (.argumentText
        (name ++ "() takes exactly one argument (" ++ toString given ++ " given)"))
    else
      let (side, bound) :=
        if least = most then ("", least)
        else if given < least then ("at least ", least) else ("at most ", most)
      Eval.refuse (.argumentText (name ++ " expected " ++ side ++ counted bound "argument" ++
        ", got " ++ toString given))

/-! ## Attributes -/

/-- The name of an attribute that is given as a text. -/
def attributeName (t : TypeExpr) : Eval String :=
  match (cat.plain t).asText? with
  | some name => return name
  | none =>
    Eval.refuse (.argumentText ("attribute name must be string, not " ++ listed [cat.kindName t]))

/-- An attribute, if there is one. -/
def attributeOr? (t : TypeExpr) (name : String) : Eval (Option TypeExpr) :=
  tryCatch (do return some (← cat.attributeOf t name)) fun
    | .missingAttribute _ _ | .missingInModule _ _ => return none
    | e => throw e

/-- An attribute that is named by a text. -/
def getAttribute (t name : TypeExpr) (default : Option TypeExpr) : Eval TypeExpr := do
  let name ← cat.attributeName name
  match default with
  | none => cat.attributeOf t name
  | some default => return (← cat.attributeOr? t name).getD default

/-! ## Order -/

/-- An item with what it is compared by. -/
structure Ranked where
  item : TypeExpr
  key : TypeExpr

/-- Items with what a function says that they are compared by. -/
def ranked (invoke : Caller) (key : Option TypeExpr) (items : List TypeExpr) :
    Eval (List Ranked) :=
  items.mapM fun item => do
    match key with
    | none | some (.constant .none) => return ⟨item, item⟩
    | some f => return ⟨item, ← invoke f (positionally [item])⟩

/-- Put an item into items that stand in order, after those that it does not precede. -/
def insertRanked (r : Ranked) : List Ranked → Eval (List Ranked)
  | [] => return [r]
  | s :: rest => do
    if ← cat.compare .less r.key s.key then return r :: s :: rest
    else return s :: (← insertRanked r rest)

/-- Some items in order. -/
def sorted (invoke : Caller) (items : List TypeExpr) (args : Arguments) : Eval TypeExpr := do
  let isReversed := (args.named.lookup "reverse").any cat.isTrue
  -- Turned before and after, so that equal items keep their order.
  let items := if isReversed then items.reverse else items
  let all ← ranked invoke (args.named.lookup "key") items
  let inOrder ← all.foldlM (fun done r => cat.insertRanked r done) []
  let inOrder := if isReversed then inOrder.reverse else inOrder
  return .group .list (inOrder.map Ranked.item)

/-- The first of the items that no other one is less than, or greater than. -/
def extremum (invoke : Caller) (name : String) (args : Arguments) : Eval TypeExpr := do
  let items ← match args.positional with
    | [t] => cat.itemsOf t
    | several => pure several
  let op : Comparison := if name = "min" then .less else .greater
  match ← ranked invoke (args.named.lookup "key") items with
  | [] =>
    match args.named.lookup "default" with
    | some t => return t
    | none => throw (.unsuitable (.text (name ++ "() arg is an empty sequence")))
  | first :: rest => do
    let best ← rest.foldlM (fun best r => do
      if ← cat.compare op r.key best.key then return r else return best) first
    return best.item

/-! ## Numbers -/

/-- The text of a whole number in a base. -/
def inBase (base : Nat) (mark : String) (t : TypeExpr) : Eval TypeExpr := do
  let n ← cat.wholeOf t
  let digits := String.ofList (Number.Layout.digitsIn base n.natAbs)
  return .ofText ((if n < 0 then "-" else "") ++ mark ++ digits)

/-- The character of a number. -/
def characterOf (t : TypeExpr) : Eval TypeExpr := do
  let n ← cat.wholeOf t
  if 0 ≤ n ∧ n < 0x110000 then return .ofText (String.singleton (Char.ofNat n.toNat))
  else throw (.unsuitable (.text "chr() arg not in range(0x110000)"))

/-- The number of a character. -/
def numberOf (t : TypeExpr) : Eval TypeExpr :=
  let refuse (size : Nat) : Eval TypeExpr :=
    Eval.refuse (.argumentText
      ("ord() expected a character, but string of length " ++ toString size ++ " found"))
  match cat.plain t with
  | .constant (.string s) =>
    match s.toList with
    | [c] => return .ofInt c.toNat
    | cs => refuse cs.length
  | .constant (.bytes [b]) => return .ofInt b.toNat
  | .constant (.bytes bs) => refuse bs.length
  | _ =>
    Eval.refuse (.argumentText
      ("ord() expected string of length 1, but " ++ cat.kindName t ++ " found"))

/-- The sum of some items, from a value on. -/
def sumOf (items : List TypeExpr) (first : TypeExpr) : Eval TypeExpr :=
  match cat.plain first with
  | .constant (.string _) =>
    Eval.refuse (.argumentText "sum() can't sum strings [use ''.join(seq) instead]")
  | .constant (.bytes _) =>
    Eval.refuse (.argumentText "sum() can't sum bytes [use b''.join(seq) instead]")
  | _ => items.foldlM (cat.combine .add) first

/-- A number rounded to some digits after the point; to a whole number if none are asked for. -/
def roundOf (t : TypeExpr) (digits : Option TypeExpr) : Eval TypeExpr := do
  let refused : Eval TypeExpr :=
    Eval.refuse (.argumentText
      ("type " ++ cat.kindName t ++ " doesn't define __round__ method"))
  let number := match cat.plain t with
    | .constant c => c.number?
    | _ => none
  let count ← match digits with
    | none | some (.constant .none) => pure none
    | some d => do pure (some (← cat.wholeOf d))
  let toEven (q : Rat) : Int :=
    let n := (Binary64.roundedQuotient q.num.natAbs q.den : Int)
    if q < 0 then -n else n
  match number, count with
  | some (.whole n), none => return .ofInt n
  | some (.whole n), some d =>
    if 0 ≤ d then return .ofInt n
    else
      let unit := Nat.pow 10 d.natAbs
      return .ofInt (toEven (mkRat n unit) * unit)
  | some (.double x), none => return .ofInt (toEven (Number.ofDouble x))
  | some (.double x), some d =>
    let unit : Rat := (10 : Rat) ^ d
    return .constant (.float (Number.toDouble ((toEven (Number.ofDouble x * unit) : Rat) / unit)))
  | _, _ => refused

/-- The quotient of two numbers and what is left. -/
def quotientOf (x y : TypeExpr) : Eval TypeExpr := do
  let isNumber (t : TypeExpr) : Bool := match cat.plain t with
    | .constant c => c.number?.isSome
    | _ => false
  if isNumber x && isNumber y then
    return .group .tuple [← cat.combine .floorDivide x y, ← cat.combine .remainder x y]
  else Eval.refuse (.operands "divmod()" (cat.kindName x) (cat.kindName y))

/-- A power, of which what a third number leaves is taken. -/
def powerOf (base exponent : TypeExpr) (modulus : Option TypeExpr) : Eval TypeExpr := do
  match modulus with
  | none | some (.constant .none) => cat.combine .power base exponent
  | some m =>
    match (cat.plain base).asInt?, (cat.plain exponent).asInt?, (cat.plain m).asInt? with
    | some b, some e, some m =>
      if m = 0 then throw (.unsuitable (.text "pow() 3rd argument cannot be 0"))
      else if e < 0 then throw (.unsuitable (.text "base is not invertible for the given modulus"))
      else return .ofInt (Int.fmod (Int.pow b e.toNat) m)
    | _, _, _ =>
      Eval.refuse (.argumentText
        "pow() 3rd argument not allowed unless all arguments are integers")

/-! ## Iterators -/

/-- The next item of an iterator. -/
def nextOf (t : TypeExpr) (default : Option TypeExpr) : Eval TypeExpr := do
  match ← Eval.iterator? t with
  | none => Eval.refuse (.argumentText (listed [cat.kindName t] ++ " object is not an iterator"))
  | some (n, it) =>
    match it.items, it.failure, default with
    | item :: rest, _, _ => do
      Eval.move n { it with items := rest }
      return item
    -- A failure is thrown once; after it the iterator is exhausted.
    | [], some e, _ => do
      Eval.move n ⟨[], none⟩
      throw e
    | [], none, some t => return t
    | [], none, none => throw .exhausted

/-- The items of several values side by side, as far as the shortest goes. -/
def sideBySide : (steps : Nat) → List (List TypeExpr) → List (List TypeExpr)
  | 0, _ => []
  | steps + 1, rows =>
    if rows.isEmpty || rows.any List.isEmpty then []
    else rows.filterMap List.head? :: sideBySide steps (rows.map List.tail)

/-- The rows that the items of several values make. -/
def rowsOf (values : List TypeExpr) : Eval (List (List TypeExpr)) := do
  let rows ← values.mapM cat.itemsOf
  return sideBySide ((rows.map List.length).foldl max 0) rows

/-- What a class of iterators, or the class of ranges, makes of its arguments, if it is one. -/
def makeIterator? (invoke : Caller) (b : Builtin) (args : Arguments) : Option (Eval TypeExpr) :=
  match b, args.positional with
  | .range, bounds@(_ :: _) => some do
    match ← bounds.mapM cat.wholeOf with
    | [last] => return .object none (.builtin .range) [.ofInt 0, .ofInt last, .ofInt 1]
    | [first, last] => return .object none (.builtin .range) [.ofInt first, .ofInt last, .ofInt 1]
    | [first, last, step] =>
      if step = 0 then throw (.unsuitable (.text "range() arg 3 must not be zero"))
      else return .object none (.builtin .range) [.ofInt first, .ofInt last, .ofInt step]
    | several =>
      Eval.refuse (.argumentText
        ("range expected at most 3 arguments, got " ++ toString several.length))
  | .other "map", f :: first :: more => some do
    let rows ← cat.rowsOf (first :: more)
    Eval.iterator b (← Eval.gather (rows.map fun row => invoke f (positionally row)))
  | .other "filter", [f, t] => some do
    let items ← cat.itemsOf t
    let tested ← Eval.gather (items.map fun item => do
      let answer ← match f with
        | .constant .none => pure item
        | f => invoke f (positionally [item])
      return .group .tuple [.ofBool (cat.isTrue answer), item])
    let kept := tested.items.filterMap fun
      | .group .tuple [.constant (.bool true), item] => some item
      | _ => none
    Eval.iterator b { tested with items := kept }
  | .other "zip", values => some do
    let rows ← cat.rowsOf values
    Eval.iterator b ⟨rows.map fun row => .group .tuple row, none⟩
  | .other "enumerate", t :: start => some do
    let items ← cat.itemsOf t
    let first ← cat.numberArgument ((start.head? <|> args.named.lookup "start").getD (.ofInt 0)) 0
    Eval.iterator b ⟨(items.zipIdx).map fun (item, i) => .group .tuple [.ofInt (first + i), item],
      none⟩
  | .other "reversed", [t] => some do
    let isReversible := match (contents? t).getD (cat.plain t) with
      | .group .set _ => false
      | .group _ _ | .constant (.string _) | .constant (.bytes _) | .object _ _ _ => true
      | .cls _ _ => true
      | _ => false
    match if isReversible then cat.items? t else none with
    | some items => Eval.iterator b ⟨items.reverse, none⟩
    | none => Eval.refuse (.argumentText (listed [cat.kindName t] ++ " object is not reversible"))
  | _, _ => none

/-! ## Fields of dataclasses -/

/-- The fields of a dataclass that its instances store, as far as a value or a class is one. -/
def storedFields (t : TypeExpr) : Eval (List DataField) := do
  let c : Option ClassRef := match t with
    | .cls id args => some ⟨id, args⟩
    | t => (cat.classOf t).asClass?
  match c.bind cat.dataclassFields? with
  | some fields => return fields.filter (·.role = .stored)
  | none => Eval.refuse (.argumentText "must be called with a dataclass type or instance")

/-- The values of the fields of an instance of a dataclass, by name. -/
def storedValues (function : String) : TypeExpr → Eval (List (String × TypeExpr))
  | .object _ id values =>
    if (cat.dataclassFields? ⟨id, []⟩).isSome then return cat.instanceFields id values
    else Eval.refuse (.argumentText (function ++ "() should be called on dataclass instances"))
  | _ => Eval.refuse (.argumentText (function ++ "() should be called on dataclass instances"))

/-! ## Calls -/

/-- What a function of a module makes of its arguments, if it is one of those that are known. -/
def applyModuleFunction? (name : String) (args : List TypeExpr) : Option (Eval TypeExpr) :=
  match name, args with
  | "cast", [_, t] | "assert_type", [t, _] | "overload", [t] | "final", [t]
  | "no_type_check", [t] | "runtime_checkable", [t] | "unique", [t] => some (return t)
  | "get_args", [t] => some (return .group .tuple t.arguments)
  | "get_origin", [t] => some (return t.origin?.getD (.constant .none))
  | "fields", [t] => some do
    return .group .tuple ((← cat.storedFields t).map fieldObject)
  | "asdict", [t] => some do return dictionary (← cat.storedValues name t)
  | "astuple", [t] => some do return .group .tuple ((← cat.storedValues name t).map Prod.snd)
  | "is_typeddict", [t] => some (return .ofBool (t.asClass?.any cat.isTypedDict))
  | "is_dataclass", [t] =>
    let c : Option ClassRef := match t with
      | .cls id classArgs => some ⟨id, classArgs⟩
      | t => (cat.classOf t).asClass?
    some (return .ofBool (c.any fun c => (cat.dataclassFields? c).isSome))
  | "__import__", t :: _ => some do
    let path ← cat.attributeName t
    if BuiltinName.modules.contains path || cat.modules.contains path then
      return .module (if cat.modules.contains path then path else
        String.ofList (path.toList.takeWhile (· ≠ '.')))
    else throw (.missingModule path)
  | "print", _ => some (return .constant .none)
  | _, _ => none

/-- What a function that is in scope everywhere makes of its arguments. -/
def applyFunction (invoke : Caller) (name : String) (args : Arguments) : Eval TypeExpr := do
  checkRange name args.positional.length
  match name, args.positional with
  | "len", [t] => cat.lengthOf t
  | "repr", [t] => return .ofText (cat.display t)
  | "ascii", [t] => return .ofText (asciiText (cat.display t))
  | "abs", [t] =>
    let number := match cat.plain t with
      | .constant c => c.number?
      | _ => none
    match number with
    | some n =>
      return .constant (.ofNumber (if n.compare? (.whole 0) = some .lt then n.negate else n))
    | none =>
      Eval.refuse (.argumentText ("bad operand type for abs(): " ++ listed [cat.kindName t]))
  | "callable", [t] =>
    return .ofBool (match t with
      | .cls _ _ | .function _ | .newType _ | .closure _ | .method _ _ | .typingName _
      | .subscript _ _ | .annotated _ _ | .form _ | .union .named _ | .literal _ => true
      | _ => false)
  | "isinstance", [t, owner] => return .ofBool (← cat.isInstance t owner)
  | "issubclass", [t, owner] => return .ofBool (← cat.isSubclass t owner)
  | "getattr", t :: key :: default => cat.getAttribute t key default.head?
  | "hasattr", [t, key] =>
    return .ofBool (← cat.attributeOr? t (← cat.attributeName key)).isSome
  | "min", _ | "max", _ => cat.extremum invoke name args
  | "sum", t :: start => do
    cat.sumOf (← cat.itemsOf t) ((start.head? <|> args.named.lookup "start").getD (.ofInt 0))
  | "sorted", [t] => do cat.sorted invoke (← cat.itemsOf t) args
  | "any", [t] => return .ofBool ((← cat.itemsOf t).any cat.isTrue)
  | "all", [t] => return .ofBool ((← cat.itemsOf t).all cat.isTrue)
  | "next", t :: default => cat.nextOf t default.head?
  | "iter", [t] => cat.iterate t
  | "chr", [t] => cat.characterOf t
  | "ord", [t] => cat.numberOf t
  | "bin", [t] => cat.inBase 2 "0b" t
  | "oct", [t] => cat.inBase 8 "0o" t
  | "hex", [t] => cat.inBase 16 "0x" t
  | "round", t :: digits => cat.roundOf t (digits.head? <|> args.named.lookup "ndigits")
  | "divmod", [x, y] => cat.quotientOf x y
  | "pow", base :: exponent :: modulus => cat.powerOf base exponent modulus.head?
  | "format", t :: layout => do
    let layout := ((layout.head?).bind fun l => (cat.plain l).asText?).getD ""
    return .ofText (← cat.formatted t layout)
  | "hash", [t] => do
    cat.checkKeyOf t
    return .ofInt ((cat.plain t).asInt?.getD 0)
  | "vars", [t] =>
    tryCatch (cat.attributeOf t "__dict__") fun _ =>
      Eval.refuse (.argumentText "vars() argument must have __dict__ attribute")
  | name, positional =>
    (cat.applyModuleFunction? name positional).getD
      (Eval.refuse (.notCallable "builtin_function_or_method"))

end TypeSchema.Catalog
