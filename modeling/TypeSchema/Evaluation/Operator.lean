import TypeSchema.Evaluation.Format
/-!
# Operators

What operators make of values. A bar between types makes their union: written with bars if both
sides are classes or classes at arguments, and by name if one side is a name of the `typing`
module. Every other operator works on numbers, texts and groupings, as far as they go
together.
-/

namespace TypeSchema.Catalog

variable (cat : Catalog)

/-- Whether a value counts as true. -/
def isTrue (t : TypeExpr) : Bool :=
  match cat.plain t with
  | .constant c => c.isTrue
  | .group _ items => !items.isEmpty
  | .member id _ (.constant c) => !cat.derives ⟨id, []⟩ .flag || c.isTrue
  | .object _ id values => !cat.derives ⟨id, []⟩ .tuple || !values.isEmpty
  | _ => true

/-! ## Unions -/

/-- Whether a bar takes a value as a type by itself. -/
def isBarOperand : TypeExpr → Bool
  | .cls _ _ | .subscript (.direct _) _ | .subscript (.flat _) _ | .unpacked _ | .union .bars _
  | .constant .none => true
  | _ => false

/-- Whether a bar beside a value makes a union by name. -/
def isNamedOperand : TypeExpr → Bool
  | .form f => f ≠ .keywordOnly
  | .typingName _ | .subscript (.typingName _) _ | .subscript (.generic _) _
  | .subscript (.form _) _ | .literal _ | .union .named _ | .annotated _ _ | .forwardRef _ _ _
  | .typeVar _ | .newType _ => true
  | _ => false

/-- The class of nothing in place of nothing. -/
def orNoneType : TypeExpr → TypeExpr
  | .constant .none => .noneType
  | t => t

/-- The union of two types, if a bar makes one of them. -/
def union? (x y : TypeExpr) : Option (Eval TypeExpr) :=
  if isBarOperand x && isBarOperand y then
    if x = .constant .none ∧ y = .constant .none then none
    else some (return .unionOf .bars [orNoneType x, orNoneType y])
  else if isNamedOperand x || isNamedOperand y then some (cat.unionOfValues [x, y])
  else none

/-! ## Members of enumerations of flags -/

/-- The bits of a combination of flags. -/
def flagBits? (id : ClassId) : TypeExpr → Option Int
  | .member owner _ (.constant c) =>
    if owner = id ∧ cat.derives ⟨id, []⟩ .flag then c.asInt? else none
  | _ => none

/-- The combination of flags with some bits. -/
def flagOf (id : ClassId) (bits : Int) : TypeExpr :=
  let c : ClassRef := ⟨id, []⟩
  let members := (cat.info id).attributes.filterMap fun (name, t) =>
    (cat.flagBits? id t).map fun n => (name, n)
  match members.find? fun (_, n) => n = bits with
  | some (name, n) => .member id name (.ofInt n)
  | none =>
    let parts := (cat.membersOf c).filterMap fun
      | .member _ name (.constant k) =>
        if k.asInt?.any fun n => Number.land n bits = n then some name else none
      | _ => none
    .member id (joinWith "|" parts) (.ofInt bits)

/-- The bits of all flags of an enumeration. -/
def flagMask (id : ClassId) : Int :=
  (cat.membersOf ⟨id, []⟩).foldl (fun mask t =>
    match t with
    | .member _ _ (.constant c) => Number.lor mask (c.asInt?.getD 0)
    | _ => mask) 0

/-- A combination of flags made of two of one enumeration. -/
def combineFlags? (op : BinaryOperator) (x y : TypeExpr) : Option TypeExpr :=
  match x with
  | .member id _ _ =>
    match cat.flagBits? id x, cat.flagBits? id y with
    | some m, some n =>
      match Number.bitwise? op m n with
      | some (.ok bits) =>
        if op = .bitOr ∨ op = .bitAnd ∨ op = .bitXor then some (cat.flagOf id bits) else none
      | _ => none
    | _, _ => none
  | _ => none

/-! ## Groupings and texts -/

/-- The items of the first group that are, or are not, in the second. -/
def itemsIn (wanted : Bool) (xs ys : List TypeExpr) : List TypeExpr :=
  xs.filter fun x => (ys.any fun y => x.same y) == wanted

/-- The entries of two dictionaries; of equal keys the value of the second. -/
def mergedEntries (xs ys : List TypeExpr) : List TypeExpr :=
  let keyOfEntry : TypeExpr → TypeExpr
    | .group .tuple (k :: _) => k
    | t => t
  let later (x : TypeExpr) : TypeExpr :=
    (ys.find? fun y => (keyOfEntry x).same (keyOfEntry y)).getD x
  xs.map later ++ ys.filter fun y => !xs.any fun x => (keyOfEntry x).same (keyOfEntry y)

/-- What an operator makes of two sets or dictionaries. -/
def combineSets? (op : BinaryOperator) (x y : TypeExpr) : Option TypeExpr :=
  match x, y, op with
  | .group .set xs, .group .set ys, .bitOr => some (.group .set (xs ++ itemsIn false ys xs))
  | .group .set xs, .group .set ys, .bitAnd => some (.group .set (itemsIn true xs ys))
  | .group .set xs, .group .set ys, .subtract => some (.group .set (itemsIn false xs ys))
  | .group .set xs, .group .set ys, .bitXor =>
    some (.group .set (itemsIn false xs ys ++ itemsIn false ys xs))
  | .group .dict xs, .group .dict ys, .bitOr => some (.group .dict (mergedEntries xs ys))
  | _, _, _ => none

/-- Whether a value is a sequence that can be repeated. -/
def isSequence : TypeExpr → Bool
  | .constant (.string _) | .constant (.bytes _) | .group .tuple _ | .group .list _ => true
  | _ => false

/-- A sequence written several times in a row. -/
def repeated (t : TypeExpr) (n : Int) : TypeExpr :=
  match t with
  | .constant (.string s) => .ofText (String.join (List.replicate n.toNat s))
  | .constant (.bytes bs) => .constant (.bytes (List.replicate n.toNat bs).flatten)
  | .group g items => .group g (List.replicate n.toNat items).flatten
  | t => t

/-- The product of a sequence and a value. -/
def repetition (sequence count : TypeExpr) : Eval TypeExpr :=
  match count.asInt? with
  | some n => return repeated sequence n
  | none => Eval.refuse (.repetition (cat.kindName count))

/-- What follows a sequence on the right of a plus sign. -/
def concatenate (x y : TypeExpr) : Eval TypeExpr :=
  match x, y with
  | .constant (.string s), .constant (.string t) => return .ofText (s ++ t)
  | .constant (.bytes s), .constant (.bytes t) => return .constant (.bytes (s ++ t))
  | .constant (.bytes _), y => Eval.refuse (.byteConcatenation (cat.kindName y))
  | .group .tuple xs, .group .tuple ys => return .group .tuple (xs ++ ys)
  | .group .list xs, .group .list ys => return .group .list (xs ++ ys)
  | x, y => Eval.refuse (.concatenation (cat.kindName x) (cat.kindName y))

/-! ## Operators between two operands -/

/-- The sign of an operator where its operands do not go together. -/
def refusalSign (op : BinaryOperator) : String :=
  if op = .power then "** or pow()" else op.sign

/-- What an operator makes of two numbers, if they are numbers. -/
def combineNumbers? (op : BinaryOperator) (x y : TypeExpr) : Option (Eval TypeExpr) :=
  match x, y with
  | .constant (.bool a), .constant (.bool b) =>
    match op with
    | .bitOr => some (return .ofBool (a || b))
    | .bitAnd => some (return .ofBool (a && b))
    | .bitXor => some (return .ofBool (a != b))
    | _ => numbers x y
  | x, y => numbers x y
where
  /-- What the operator makes of two numbers that are not both truth values. -/
  numbers (x y : TypeExpr) : Option (Eval TypeExpr) :=
  match x, y with
  | .constant c, .constant d => do
    let result ← Number.combine? op (← c.number?) (← d.number?)
    return match result with
      | .ok n => return .constant (.ofNumber n)
      | .error fault => throw (.arithmetic fault)
  | _, _ => none

/-- What an operator between two operands makes of them. -/
def combine (op : BinaryOperator) (x y : TypeExpr) : Eval TypeExpr :=
  let refused := Eval.refuse (.operands (refusalSign op) (cat.kindName x) (cat.kindName y))
  -- A bar between types makes a union before anything else is tried.
  let union := if op = .bitOr then cat.union? x y else none
  match union with
  | some result => result
  | none =>
    match cat.combineFlags? op x y with
    | some t => return t
    | none =>
      let p := cat.plain x
      let q := cat.plain y
      match combineNumbers? op p q, combineSets? op p q with
      | some result, _ => result
      | none, some t => return t
      | none, none =>
        match op, p with
        | .multiply, p =>
          if isSequence p then cat.repetition p q
          else if isSequence q then cat.repetition q p
          else refused
        | .add, p => if isSequence p then cat.concatenate p q else refused
        | .remainder, .constant (.string s) => return .ofText (← cat.interpolated s y)
        | _, _ => refused

/-- What an operator before its operand makes of it. -/
def applyUnary (op : UnaryOperator) (t : TypeExpr) : Eval TypeExpr :=
  let refused (sign : String) := Eval.refuse (.operand sign (cat.kindName t))
  let number := match cat.plain t with
    | .constant c => c.number?
    | _ => none
  let flags := match t with
    | .member id _ _ => (cat.flagBits? id t).map fun bits => (id, bits)
    | _ => none
  match op, number with
  | .not, _ => return .ofBool !cat.isTrue t
  | .invert, none =>
    match flags with
    | some (id, bits) =>
      return cat.flagOf id (Number.land (Number.complement bits) (cat.flagMask id))
    | none => refused "~"
  | .plus, some n => return .constant (.ofNumber n)
  | .minus, some n => return .constant (.ofNumber n.negate)
  | .invert, some (.whole n) => return .ofInt (Number.complement n)
  | .plus, none => refused "+"
  | .minus, none => refused "-"
  | .invert, _ => refused "~"

/-! ## Comparisons -/

/-- Whether two values are one object. -/
def isSameObject (x y : TypeExpr) : Bool :=
  match x, y with
  | .constant c, .constant d => c = d
  | .group _ _, .group _ _ | .object _ _ _, .object _ _ _ => false
  | x, y => x = y

mutual

/-- The order of two values, or the two values that have none. -/
def order : TypeExpr → TypeExpr → Except (TypeExpr × TypeExpr) Ordering
  | .constant c, .constant d =>
    match c, d with
    | .string s, .string t => .ok (compare s t)
    | .bytes s, .bytes t => .ok (compareOfLessAndEq (s.map UInt8.toNat) (t.map UInt8.toNat))
    | c, d =>
      match (do Number.compare? (← c.number?) (← d.number?) : Option Ordering) with
      | some result => .ok result
      | none => .error (.constant c, .constant d)
  | .group .tuple xs, .group .tuple ys | .group .list xs, .group .list ys => orderItems xs ys
  | x, y => .error (x, y)

/-- The order of two sequences: that of the first items that differ. -/
def orderItems : List TypeExpr → List TypeExpr → Except (TypeExpr × TypeExpr) Ordering
  | [], [] => .ok .eq
  | [], _ :: _ => .ok .lt
  | _ :: _, [] => .ok .gt
  | x :: xs, y :: ys => if x.equals y then orderItems xs ys else order x y

end

/-- Whether two values stand in an order. -/
def ordered (op : Comparison) (x y : TypeExpr) : Eval Bool := do
  let p := cat.plain x
  let q := cat.plain y
  match p, q with
  | .group .set xs, .group .set ys =>
    -- Sets are ordered by inclusion, so two of them may be in no order.
    let below := xs.all fun a => ys.any fun b => a.same b
    let above := ys.all fun b => xs.any fun a => a.same b
    return match op with
      | .less => below && !above
      | .lessOrEqual => below
      | .greater => above && !below
      | _ => above
  | p, q =>
    match order p q with
    | .ok result =>
      return match op with
        | .less => result == .lt
        | .lessOrEqual => result != .gt
        | .greater => result == .gt
        | _ => result != .lt
    | .error (a, b) =>
      let (a, b) := if a = p ∧ b = q then (x, y) else (a, b)
      Eval.refuse (.order op.sign (cat.kindName a) (cat.kindName b))

/-- Whether a text stands somewhere in another. -/
def isPartOf (part : List Char) : List Char → Bool
  | [] => part.isEmpty
  | c :: cs => part.isPrefixOf (c :: cs) || isPartOf part cs

/-- Whether a value is an item of another. -/
def contains (x container : TypeExpr) : Eval Bool :=
  match (contents? container).getD (cat.plain container) with
  | .object _ (.builtin .range) bounds => return ((rangeItems? bounds).getD []).any x.same
  | .constant (.string s) =>
    match (cat.plain x).asText? with
    | some part => return isPartOf part.toList s.toList
    | none => Eval.refuse (.notInText (cat.kindName x))
  | .constant (.bytes bs) =>
    match x.asInt? with
    | some n => return bs.any fun b => (b.toNat : Int) = n
    | none => Eval.refuse (.notInBytes (cat.kindName x))
  | .group .dict entries =>
    return entries.any fun
      | .group .tuple (k :: _) => x.same k
      | _ => false
  | .group .set items => return items.any x.same
  | .group _ items => return items.any x.equals
  | .cls id [] =>
    if cat.isEnumeration ⟨id, []⟩ then
      match x with
      | .member owner _ _ => return owner = id
      | _ => Eval.refuse (.operands "'in'" (cat.kindName x) (cat.kindName container))
    else Eval.refuse (.notContainer (cat.kindName container))
  | .member id own value =>
    match cat.flagBits? id (.member id own value), cat.flagBits? id x with
    | some whole, some part => return Number.land whole part = part
    | some _, none => Eval.refuse (.operands "'in'" (cat.kindName x) (cat.kindName container))
    | none, _ => Eval.refuse (.notContainer (cat.kindName container))
  | container => Eval.refuse (.notContainer (cat.kindName container))

/-- Whether two values compare in a way. -/
def compare (op : Comparison) (x y : TypeExpr) : Eval Bool :=
  match op with
  | .equal => return (cat.plain x).equals (cat.plain y)
  | .notEqual => return !(cat.plain x).equals (cat.plain y)
  | .same => return isSameObject x y
  | .notSame => return !isSameObject x y
  | .member => cat.contains x y
  | .notMember => do return !(← cat.contains x y)
  | op => cat.ordered op x y

end TypeSchema.Catalog
