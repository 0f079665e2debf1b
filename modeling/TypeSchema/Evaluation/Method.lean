import TypeSchema.Evaluation.TextMethod
/-!
# Methods

What the methods of plain values and of groupings make of their arguments. Values do not change: a method
that would change one gives what it gives besides.

A method that is reached through its class takes its value as the first argument.
-/

namespace TypeSchema.Catalog

variable (cat : Catalog)

/-- The number of items of a value. -/
def lengthOf (t : TypeExpr) : Eval TypeExpr :=
  match t with
  | .subscript _ _ | .literal _ => Eval.refuse (.noLength (cat.kindName t))
  | t =>
    match cat.items? t with
    | some items => return .ofInt items.length
    | none => Eval.refuse (.noLength (cat.kindName t))

/-- The class of the iterators of a value. -/
def iteratorClass (t : TypeExpr) : Builtin :=
  let name := match t with
    | .constant (.string _) => "str_ascii_iterator"
    | .constant (.bytes _) => "bytes_iterator"
    | .group .tuple _ => "tuple_iterator"
    | .group .set _ | .object _ (.builtin .frozenset) _ => "set_iterator"
    | .group .dict _ | .object _ (.builtin (.other "mappingproxy")) _ => "dict_keyiterator"
    | .object _ (.builtin .range) _ => "range_iterator"
    | .group .list _ => "list_iterator"
    | _ => "generator"
  .other name

/-- An iterator over the items of a value, or the value itself if it is one. -/
def iterate (t : TypeExpr) : Eval TypeExpr := do
  match ← Eval.iterator? t with
  | some _ => return t
  | none => Eval.iterator (iteratorClass t) ⟨← cat.itemsOf t, none⟩

/-! ## Sequences -/

/-- The first place of a value among some items. -/
def indexIn (items : List TypeExpr) (value : TypeExpr) (bounds : List TypeExpr)
    (missing : String) : Eval TypeExpr := do
  let (first, last) ← cat.between bounds items.length
  match ((items.take last).drop first).findIdx? value.equals with
  | some n => return .ofInt (first + n : Nat)
  | none => throw (.unsuitable (.text missing))

/-- What a method of a list makes of its arguments. -/
def applyListMethod (items : List TypeExpr) (name : String) (args : List TypeExpr) :
    Eval TypeExpr :=
  match name, args with
  | "index", value :: bounds =>
    cat.indexIn items value bounds (cat.display value ++ " is not in list")
  | "count", [value] => return .ofInt (items.countP value.equals)
  | "copy", _ => return .group .list items
  | "pop", key => do
    if items.isEmpty then throw (.emptied "pop from empty list")
    let n ← cat.numberArgument (key.headD (.ofInt (-1))) (-1)
    let place := if n < 0 then n + items.length else n
    match if place < 0 then none else items[place.toNat]? with
    | some t => return t
    | none => throw (.emptied "pop index out of range")
  | "extend", [t] => do
    let _ ← cat.itemsOf t
    return .constant .none
  | "remove", [value] =>
    if items.any value.equals then return .constant .none
    else throw (.unsuitable (.text "list.remove(x): x not in list"))
  | _, _ => return .constant .none

/-- What a method of a tuple makes of its arguments. -/
def applyTupleMethod (items : List TypeExpr) (name : String) (args : List TypeExpr) :
    Eval TypeExpr :=
  match name, args with
  | "index", value :: bounds => cat.indexIn items value bounds "tuple.index(x): x not in tuple"
  | "count", [value] => return .ofInt (items.countP value.equals)
  | _, _ => return .constant .none

/-! ## Dictionaries -/

/-- The value of a key, if a dictionary has it. -/
def valueOf? (entries : List TypeExpr) (key : TypeExpr) : Eval (Option TypeExpr) := do
  cat.checkKeyOf key
  return entries.findSome? fun
    | .group .tuple [k, v] => if k.same key then some v else none
    | _ => none

/-- What a dictionary shows of its entries: its keys, its values, or both. -/
def viewOf (name : String) (entries : List TypeExpr) : TypeExpr :=
  let shown := entries.filterMap fun
    | .group .tuple [k, v] =>
      some (if name = "keys" then k else if name = "values" then v else .group .tuple [k, v])
    | _ => none
  holding (.other ("dict_" ++ name)) (.group .list shown)

/-- What a method of a dictionary makes of its arguments. -/
def applyDictMethod (entries : List TypeExpr) (name : String) (args : List TypeExpr) :
    Eval TypeExpr :=
  match name, args with
  | "get", key :: default | "setdefault", key :: default => do
    return (← cat.valueOf? entries key).getD (default.headD (.constant .none))
  | "pop", key :: default => do
    match ← cat.valueOf? entries key, default with
    | some t, _ | none, t :: _ => return t
    | none, [] => throw (.missingKey (cat.display key))
  | "popitem", _ =>
    match entries.getLast? with
    | some entry => return entry
    | none => throw (.missingKey (Text.quoted "popitem(): dictionary is empty"))
  | "keys", _ | "values", _ | "items", _ => return viewOf name entries
  | "copy", _ => return .group .dict entries
  | "update", [t] => do
    let _ ← cat.toEntries false t
    return .constant .none
  | _, _ => return .constant .none

/-- A dictionary with the same value for every item of another value. -/
def dictFromKeys (keys value : TypeExpr) : Eval TypeExpr := do
  let items ← cat.itemsOf keys
  let entries ← items.foldlM (fun entries key => do
    cat.checkKeyOf key
    return putEntry key value entries) []
  return .group .dict entries

/-! ## Sets -/

/-- What a method of a set makes of its arguments, as a value that `wrap` makes of items. -/
def applySetMethod (items : List TypeExpr) (wrap : List TypeExpr → TypeExpr) (name : String)
    (args : List TypeExpr) : Eval TypeExpr := do
  let others ← if name = "add" || name = "discard" || name = "remove" then pure []
    else args.mapM cat.itemsOf
  match name, others, args with
  | "union", _, _ => do
    match ← cat.setOf (items ++ others.flatten) with
    | .group _ all => return wrap all
    | t => return t
  | "intersection", _, _ =>
    return wrap (others.foldl (fun known other => itemsIn true known other) items)
  | "difference", _, _ =>
    return wrap (others.foldl (fun known other => itemsIn false known other) items)
  | "symmetric_difference", [other], _ =>
    return wrap (itemsIn false items other ++ itemsIn false other items)
  | "issubset", [other], _ => return .ofBool (itemsIn false items other).isEmpty
  | "issuperset", [other], _ => return .ofBool (itemsIn false other items).isEmpty
  | "isdisjoint", [other], _ => return .ofBool (itemsIn true items other).isEmpty
  | "copy", _, _ => return wrap items
  | "pop", _, _ =>
    match items with
    | t :: _ => return t
    | [] => throw (.missingKey (Text.quoted "pop from an empty set"))
  | "add", _, [key] => do
    cat.checkKeyOf key
    return .constant .none
  | "remove", _, [key] => do
    cat.checkKeyOf key
    if items.any key.same then return .constant .none else throw (.missingKey (cat.display key))
  | _, _, _ => return .constant .none

/-! ## Numbers and bytes -/

/-- What a method of a number gives. -/
def applyNumberMethod (c : Constant) (name : String) : TypeExpr :=
  match c.asInt?, c, name with
  | some n, _, "bit_length" => .ofInt (if n = 0 then 0 else Nat.log2 n.natAbs + 1)
  | some n, _, "bit_count" => .ofInt ((Number.Layout.digitsIn 2 n.natAbs).count '1')
  | some n, _, "as_integer_ratio" => .group .tuple [.ofInt n, .ofInt 1]
  | some n, _, _ => .ofInt n
  | none, .float x, "is_integer" =>
    .ofBool (x.exponentField != Binary64.topExponent && (Number.ofDouble x).den == 1)
  | none, .float x, "as_integer_ratio" =>
    let q := Number.ofDouble x
    .group .tuple [.ofInt q.num, .ofInt q.den]
  | none, .complex x y, "conjugate" => .constant (.complex x y.negate)
  | none, c, _ => .constant c

/-- What a method of some bytes gives. -/
def applyByteMethod (bs : List UInt8) (name : String) : Eval TypeExpr :=
  match name with
  | "decode" =>
    match String.fromUTF8? ⟨bs.toArray⟩ with
    | some s => return .ofText s
    | none => throw (.unsuitable (.text "invalid start byte"))
  | "hex" => return .ofText (String.ofList (bs.flatMap fun b => Text.hexDigits 2 b.toNat))
  | _ => return .constant (.bytes bs)

/-! ## Classes -/

/-- The declared classes that were derived from a class directly. -/
def subclassesOf (c : ClassRef) : List TypeExpr :=
  ((cat.classes.zipIdx).filter fun (info, _) => info.bases.contains c).map fun (_, i) =>
    .cls (.declared i) []

/-! ## Calls -/

/-- The name of a method with that of its class. -/
def methodTitle (b : Builtin) (name : String) : String := b.name ++ "." ++ name ++ "()"

/-- Check the number of arguments of a method. -/
def checkShape (b : Builtin) (shape : MethodShape) (args : Arguments) : Eval Unit := do
  let given := args.positional.length
  let refuse (words : String) : Eval Unit := Eval.refuse (.argumentText words)
  let takesNames := ["split", "rsplit", "format", "splitlines", "encode", "decode", "expandtabs",
    "sort", "update"].contains shape.name
  if !args.named.isEmpty && !takesNames then
    refuse (methodTitle b shape.name ++ " takes no keyword arguments")
  else if given < shape.least ∨ shape.most < given then
    if Builtin.isSlot shape.name then
      refuse ("expected " ++ counted shape.least "argument" ++ ", got " ++ toString given)
    else if shape.most = 0 then
      refuse (methodTitle b shape.name ++ " takes no arguments (" ++ toString given ++ " given)")
    else if shape.least = 1 ∧ shape.most = 1 then
      refuse (methodTitle b shape.name ++ " takes exactly one argument (" ++ toString given ++
        " given)")
    else
      let (side, bound) :=
        if given < shape.least then ("at least ", shape.least) else ("at most ", shape.most)
      refuse (shape.name ++ " expected " ++ side ++ counted bound "argument" ++ ", got " ++
        toString given)

/-- What a method of a value makes of its arguments. -/
def applyOwnMethod (owner : TypeExpr) (name : String) (args : Arguments) : Eval TypeExpr := do
  let positional := args.positional
  match name, positional with
  | "__getitem__", [key] => return ← cat.subscript owner key
  | "__contains__", [t] => return .ofBool (← cat.contains t owner)
  | "__len__", _ => return ← cat.lengthOf owner
  | "__iter__", _ => return ← cat.iterate owner
  | "__repr__", _ => return .ofText (cat.display owner)
  | "__str__", _ => return .ofText (cat.textOf owner)
  | "__eq__", [t] => return if owner.same t then .ofBool true else .constant .notImplemented
  | "__ne__", [t] => return if owner.same t then .ofBool false else .constant .notImplemented
  | "mro", _ => return .group .list ((owner.asClass?.map cat.mro).getD [] |>.map ClassRef.toExpr)
  | "__subclasses__", _ => return .group .list ((owner.asClass?.map cat.subclassesOf).getD [])
  | name, [t] =>
    match Builtin.operators.lookup name with
    | some op => return ← cat.combine op owner t
    | none => pure ()
  | _, _ => pure ()
  match (contents? owner).getD (cat.plain owner) with
  | .constant (.string s) => cat.applyTextMethod s name args
  | .constant (.bytes bs) => applyByteMethod bs name
  | .constant c => return applyNumberMethod c name
  | .group .list items => cat.applyListMethod items name positional
  | .group .tuple items => cat.applyTupleMethod items name positional
  | .group .dict entries => cat.applyDictMethod entries name positional
  | .group .set items =>
    let wrap (items : List TypeExpr) : TypeExpr :=
      match owner with
      | .object _ (.builtin .frozenset) _ => holding .frozenset (.group .set items)
      | _ => .group .set items
    cat.applySetMethod items wrap name positional
  | .object _ id values => cat.applyTupleMethod (if cat.derives ⟨id, []⟩ .tuple then values else
      (rangeItems? values).getD []) name positional
  | _ => return .constant .none

/-- What a method of an instance of a named tuple makes of its arguments. -/
def applyTupleRecordMethod (owner : TypeExpr) (name : String) (args : Arguments) :
    Eval TypeExpr := do
  match owner with
  | .object n id values =>
    let fields := cat.instanceFields id values
    if name = "_asdict" then return dictionary fields
    let unknown := args.named.filter fun (key, _) => (fields.lookup key).isNone
    if unknown.isEmpty then
      return .object n id (fields.map fun (key, t) => (args.named.lookup key).getD t)
    else
      throw (.unsuitable (.text ("Got unexpected field names: " ++
        cat.display (.group .list (texts (unknown.map Prod.fst))))))
  | t => return t

/-- What a method of a class itself makes of its arguments. -/
def applyClassMethod (args : Arguments) : Eval TypeExpr :=
  match args.positional with
  | keys :: value => cat.dictFromKeys keys (value.headD (.constant .none))
  | [] => return .group .dict []

/-- What a method makes of its arguments. -/
def applyMethod (owner : TypeExpr) (name : String) (args : Arguments) : Eval TypeExpr := do
  match owner with
  | .cls id classArgs =>
    let c : ClassRef := ⟨id, classArgs⟩
    let slot := Builtin.objectMethods.find? (·.name = name)
    let method := cat.methodFrom? c name <|> slot.map fun shape => (Builtin.object, shape)
    match method, args.positional with
    | some (b, shape), positional =>
      if shape.isOfClass then
        checkShape b shape args
        cat.applyClassMethod args
      else match positional with
        | [] =>
          Eval.refuse (.argumentText
            ("unbound method " ++ methodTitle b name ++ " needs an argument"))
        | self :: rest =>
          if ← cat.isInstance self (.builtin b) then
            let args := { args with positional := rest }
            checkShape b shape args
            cat.applyOwnMethod self name args
          else
            Eval.refuse (.argumentText
              ("descriptor " ++ listed [name] ++ " for " ++ listed [b.name] ++
                " objects doesn't apply to a " ++ listed [cat.kindName self] ++ " object"))
    | none, positional =>
      match Builtin.type.method? name, positional with
      | some shape, _ => do
        checkShape .type shape args
        cat.applyOwnMethod owner name args
      | none, [t] => do
        if name = "__class_getitem__" then return ← cat.subscript owner t
        let values ← cat.itemsOf t
        let fields := ((cat.info id).tupleFields).getD []
        if values.length = fields.length then return .object none id values
        else
          Eval.refuse (.argumentText ("Expected " ++ counted fields.length "argument" ++ ", got " ++
            toString values.length))
      | none, _ => return .constant .none
  | owner =>
    match cat.classOf owner with
    | .cls id classArgs =>
      match cat.methodFrom? ⟨id, classArgs⟩ name with
      | some (b, shape) =>
        checkShape b shape args
        if shape.isOfClass then cat.applyClassMethod args else cat.applyOwnMethod owner name args
      | none => cat.applyTupleRecordMethod owner name args
    | _ => return .constant .none

end TypeSchema.Catalog
