import TypeSchema.Evaluation.Attribute
import TypeSchema.Evaluation.Model
/-!
# Items between brackets

`Catalog.subscript` says what `value[key]` means for every value. Types take arguments; an
enumeration gives the member of a name; sequences give an item or a slice, and a dictionary
the value of a key.
-/

namespace TypeSchema

namespace TypeExpr

/-- The whole number that a value counts as, if it does. -/
def asInt? : TypeExpr → Option Int
  | .constant c => c.asInt?
  | _ => none

/-- The text that a value is. -/
def asText? : TypeExpr → Option String
  | .constant (.string s) => some s
  | _ => none

/-- A truth value. -/
def ofBool (b : Bool) : TypeExpr := .constant (.bool b)

/-- A whole number. -/
def ofInt (n : Int) : TypeExpr := .constant (.int n)

/-- A text. -/
def ofText (s : String) : TypeExpr := .constant (.string s)

end TypeExpr

/-- The places that a slice of `size` items takes, from its bounds and its step. -/
def slicePlaces (size : Nat) (lower upper : Option Int) (step : Int) : List Nat :=
  let least : Int := if step < 0 then -1 else 0
  let most : Int := if step < 0 then size - 1 else size
  -- A bound beyond the items is moved to the nearest place.
  let clamp (bound : Int) : Int :=
    let bound := if bound < 0 then bound + size else bound
    max least (min most bound)
  let first := (lower.map clamp).getD (if step < 0 then most else least)
  let last := (upper.map clamp).getD (if step < 0 then least else most)
  let rec go : Nat → Int → List Nat
    | 0, _ => []
    | fuel + 1, place =>
      if (0 < step ∧ place < last) ∨ (step < 0 ∧ last < place) then
        place.toNat :: go fuel (place + step)
      else []
  go size first

namespace Catalog

variable (cat : Catalog)

/-- A value as it counts in operations: a member of an enumeration whose members are numbers or
texts counts as its value. -/
def plain (t : TypeExpr) : TypeExpr :=
  match t with
  | .member id _ value =>
    if [Builtin.int, .str, .float, .bytes].any fun b => cat.derives ⟨id, []⟩ b then value else t
  | t => t

/-- Where a class finds out what brackets after it mean. -/
inductive Subscription where
  | model | generic | initVar | annotated
  | direct (b : Builtin)
  deriving DecidableEq, Repr

/-- What a class itself makes of brackets after it, if it has a say. -/
def ownSubscription? (c : ClassRef) : Option Subscription :=
  match c.id with
  | .declared _ => if (cat.info c.id).isGeneric then some .generic else none
  | .builtin .baseModel => some .model
  | .builtin .generic => some .generic
  | .builtin .initVar => some .initVar
  | .builtin .annotated => some .annotated
  | .builtin .type => none
  | .builtin b => if b.keepsArguments then some (.direct b) else none

/-- What a class, or the first of its ancestors that has a say, makes of brackets after it. -/
def subscription? (c : ClassRef) : Option Subscription :=
  if c = .builtin .type then some (.direct .type) else (cat.mro c).findSome? cat.ownSubscription?

/-- What a class binds to be called for brackets after it, if it or one of its ancestors does so before
another has a say. -/
def boundSubscription? : TypeExpr → Option TypeExpr
  | .cls id args =>
    if cat.isEnumeration ⟨id, args⟩ then none
    else
      let bound (c : ClassRef) : Option TypeExpr :=
        (cat.info c.id).attributes.lookup "__class_getitem__"
      let first := (cat.mro ⟨id, args⟩).find? fun c =>
        (bound c).isSome || (cat.ownSubscription? c).isSome
      first.bind bound
  | _ => none

/-- The member that a name in the brackets after an enumeration gives. -/
def memberNamed (c : ClassRef) (key : TypeExpr) : Eval TypeExpr := do
  match key.changingPart? with
  | some part => Eval.refuse (.unhashable (cat.kindName part))
  | none => pure ()
  let named := key.asText?.bind fun name => (cat.info c.id).attributes.lookup name
  match named.filter (isMemberOf c.id) with
  | some m => return m
  | none => throw (.missingKey (cat.display key))

/-- The name of a class that takes no arguments, as it is mentioned. -/
def bareName (c : ClassRef) : String :=
  match c.id with
  | .builtin b => b.shownName
  | .declared _ => cat.nameOf c

/-- What brackets after a class mean. -/
def subscriptClass (c : ClassRef) (key : TypeExpr) : Eval TypeExpr :=
  if cat.isEnumeration c then cat.memberNamed c key
  else match cat.subscription? c with
    | some .model => cat.subscriptModel c key
    | some .generic => cat.subscriptGeneric c key
    | some (.direct _) => cat.subscriptDirect c.id key
    | some .initVar => do return .initVar (← Eval.fresh) key
    | some .annotated => cat.subscriptAnnotated key
    | none => Eval.refuse (.notSubscriptable ("type " ++ listed [cat.bareName c]))

/-- A bound of a slice. -/
def sliceBound (t : TypeExpr) : Eval (Option Int) :=
  match t, t.asInt? with
  | _, some n => return some n
  | .constant .none, none => return none
  | _, none => Eval.refuse .sliceBounds

/-- What brackets after a sequence give: an item, or some of them. -/
def sequenceItem (what demand : String) (quotes : Bool) (ofItems : List TypeExpr → TypeExpr)
    (items : List TypeExpr) (key : TypeExpr) : Eval TypeExpr := do
  match key, (cat.plain key).asInt? with
  | _, some n =>
    let place := if n < 0 then n + items.length else n
    match if place < 0 then none else items[place.toNat]? with
    | some item => return item
    | none => throw (.outOfRange (if what = "byte" then "" else what ++ " "))
  | .object _ (.builtin .slice) [lower, upper, step], none =>
    let lower ← sliceBound lower
    let upper ← sliceBound upper
    let step := (← sliceBound step).getD 1
    if step = 0 then throw .zeroStep
    return ofItems ((slicePlaces items.length lower upper step).filterMap (items[·]?))
  | key, none =>
    let kind := cat.kindName key
    Eval.refuse (.index what demand (if quotes then listed [kind] else kind))

/-- The characters of a text as texts. -/
def characters (s : String) : List TypeExpr :=
  s.toList.map fun c => .ofText (String.singleton c)

/-- The text that some texts make together. -/
def joinedText (items : List TypeExpr) : TypeExpr :=
  .ofText (String.join (items.filterMap TypeExpr.asText?))

/-- The value of a key in a dictionary. -/
def entryOf (entries : List TypeExpr) (key : TypeExpr) : Eval TypeExpr := do
  match key.changingPart? with
  | some part => Eval.refuse (.unhashable (cat.kindName part))
  | none => pure ()
  let found := entries.findSome? fun
    | .group .tuple [k, v] => if k.same key then some v else none
    | _ => none
  match found with
  | some v => return v
  | none => throw (.missingKey (cat.display key))

/-- What an instance of a built-in class of containers holds. -/
def contents? : TypeExpr → Option TypeExpr
  | .object _ (.builtin .frozenset) [t] | .object _ (.builtin .bytearray) [t]
  | .object _ (.builtin .deque) [t] | .object _ (.builtin .counter) [t]
  | .object _ (.builtin .orderedDict) [t] | .object _ (.builtin .defaultDict) [t]
  | .object _ (.builtin (.other "mappingproxy")) [t]
  | .object _ (.builtin (.other "dict_keys")) [t] | .object _ (.builtin (.other "dict_values")) [t]
  | .object _ (.builtin (.other "dict_items")) [t] => some t
  | _ => none

/-- The keys of some entries of a dictionary. -/
def keysOf (entries : List TypeExpr) : List TypeExpr :=
  entries.filterMap fun
    | .group .tuple (k :: _) => some k
    | _ => none

/-- How many numbers a range may yield where all of them are asked for. -/
def rangeLimit : Nat := 0x100000

/-- The numbers of a range by its bounds and its step. -/
def rangeItems? (bounds : List TypeExpr) : Option (List TypeExpr) := do
  match bounds.filterMap TypeExpr.asInt? with
  | [first, last, step] =>
    let size := if 0 < step then (last - first + step - 1) / step
      else if step < 0 then (first - last - step - 1) / (-step) else 0
    some ((List.range (min size.toNat rangeLimit)).map fun (i : Nat) => .ofInt (first + step * i))
  | _ => none

/-- What `value[key]` means. -/
def subscript (value key : TypeExpr) : Eval TypeExpr :=
  let slices := "integers or slices"
  match value with
  | .cls id args => cat.subscriptClass ⟨id, args⟩ key
  | .form f => cat.subscriptForm f key
  | .typingName a => cat.subscriptAlias a key
  | .subscript _ _ | .literal _ | .union _ _ | .annotated _ _ | .unpacked _ =>
    cat.subscriptAgain value key
  | .constant (.string s) =>
    cat.sequenceItem "string" "integers" true joinedText (characters s) key
  | .constant (.bytes bytes) => do
    let item ← cat.sequenceItem "byte" slices false (.group .list) (bytes.map fun b => .ofInt b.toNat) key
    match item with
    | .group _ items =>
      return .constant (.bytes (items.filterMap fun t => t.asInt?.map fun n => n.toNat.toUInt8))
    | item => return item
  | .group .tuple items => cat.sequenceItem "tuple" slices false (.group .tuple) items key
  | .group .list items => cat.sequenceItem "list" slices false (.group .list) items key
  | .group .dict entries => cat.entryOf entries key
  | .object _ (.builtin .range) bounds =>
    cat.sequenceItem "range object" slices false (.group .list) ((rangeItems? bounds).getD []) key
  | .object n id values =>
    match id, contents? (.object n id values) with
    | .builtin .deque, some (.group .list items) =>
      cat.sequenceItem "deque" slices false (.group .list) items key
    | .builtin .counter, some (.group .dict entries) =>
      tryCatch (cat.entryOf entries key) fun
        | .missingKey _ => return .ofInt 0
        | e => throw e
    | _, some (.group .dict entries) => cat.entryOf entries key
    | id, _ =>
      if cat.derives ⟨id, []⟩ .tuple then
        cat.sequenceItem "tuple" slices false (.group .tuple) values key
      else Eval.refuse (.notSubscriptable (listed [cat.kindName value] ++ " object"))
  | value => Eval.refuse (.notSubscriptable (listed [cat.kindName value] ++ " object"))

end Catalog

end TypeSchema
