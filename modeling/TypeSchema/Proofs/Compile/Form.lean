import Mathlib.Tactic.Common
import TypeSchema.Compile
/-!
# What a type expression is compiled to

`Catalog.form` says in one place what becomes of a type expression once its wrappers are off:
a node without parts, an array of some item, or the object of a class. It mentions neither
ledger nor depth. `element_succ` is the equation that ties it to the compiler: one step of
`Compile.element` looks at the form and at nothing else of the expression, and `root_eq` says the
same of the root. The other way round, a form tells what the expression was (`formOf_cases`).
-/

namespace TypeSchema

/-! ## Wrappers -/

namespace TypeExpr

/-- What an annotation attaches is read before what is attached inside it. -/
theorem unwrap_annotated (inner : TypeExpr) (metadata : List TypeExpr) :
    (annotated inner metadata).unwrap =
      inner.unwrap.map fun (core, text) => (core, firstDescription? metadata <|> text) := by
  rw [unwrap]
  cases inner.unwrap <;> rfl

theorem unwrap_of_bare {t : TypeExpr} (hannotated : ∀ inner metadata, t ≠ .annotated inner metadata)
    (hunion : ∀ style members, t ≠ .union style members) :
    t.unwrap = if t = builtin .typingAny ∨ t = builtin .object then .error (.unconstrained t)
      else .ok (t, none) := by
  rw [unwrap]
  · exact hannotated
  · exact hunion

@[simp] theorem unwrap_subscript (head : Head) (args : List TypeExpr) :
    (subscript head args).unwrap = .ok (subscript head args, none) := by
  rw [unwrap_of_bare (by simp) (by simp), if_neg (by simp [builtin])]

end TypeExpr

/-! ## Forms -/

/-- What a type expression is compiled to. -/
inductive Form where
  /-- A node without parts. -/
  | scalar (n : Node)
  | array (item : TypeExpr) (description : Option Json)
  | object (c : ClassRef) (description : Option Json)

/-- The form of an array whose item may be missing. -/
def Form.ofItem (cause : Unresolvable) (item : Option TypeExpr) (description : Option Json) :
    Except Unresolvable Form :=
  match item with
  | none => .error cause
  | some t => .ok (.array t description)

namespace Catalog

variable (cat : Catalog)

/-- The form of an unwrapped type expression of the class `c`. -/
def formOf (core : TypeExpr) (c : ClassRef) (description : Option Json) :
    Except Unresolvable Form :=
  match cat.kindOf c with
  | .string => .ok (.scalar (.leaf .string (Compile.withFallback cat description c.toExpr)))
  | .integer => .ok (.scalar (.leaf .integer description))
  | .number => .ok (.scalar (.leaf .number description))
  | .boolean => .ok (.scalar (.leaf .boolean description))
  | .enumeration =>
    .ok (.scalar (.enum (cat.memberNames c) (Compile.withFallback cat description c.toExpr)))
  | .fixedArray => Form.ofItem (.noSingleElement core) core.elementOfTuple? description
  | .collection => Form.ofItem (.noElement core) core.elementOfCollection? description
  | .object => .ok (.object c description)

/-- The form of a type expression that was given a description. -/
def form (t : TypeExpr) (given : Option Json) : Except Unresolvable Form :=
  match t.unwrap with
  | .error cause => .error (.noAlternative cause)
  | .ok (core, found) =>
    match core.rawClass? with
    | none => .error (.unsupported core)
    | some c => cat.formOf core c (given <|> found.map .string)

end Catalog

namespace Compile

variable (cat : Catalog)

/-- One step of the compiler does what the form says. -/
theorem element_succ (limit : Int) (room : Nat) (t : TypeExpr) (given : Option Json)
    (location : Location) :
    element cat limit (room + 1) t given location =
      match cat.form t given with
      | .error cause => fail cause location
      | .ok (.scalar n) => pure n
      | .ok (.array item d) => array (element cat limit room item none location) d
      | .ok (.object c d) => object cat (element cat limit room) c.toExpr d false := by
  rw [element, Catalog.form, unwrapAt]
  cases t.unwrap with
  | error cause => rfl
  | ok unwrapped =>
      obtain ⟨core, found⟩ := unwrapped
      rw [pure_bind]
      dsimp only
      cases core.rawClass? with
      | none => rfl
      | some c =>
          dsimp only [Catalog.formOf]
          cases cat.kindOf c with
          | fixedArray => cases core.elementOfTuple? <;> rfl
          | collection => cases core.elementOfCollection? <;> rfl
          | _ => rfl

end Compile

/-! ## Forms taken apart -/

namespace Catalog

variable {cat : Catalog}

/-- An expression of a class has the form that the class decides. -/
theorem form_of_class {t core : TypeExpr} {found : Option String} {c : ClassRef}
    (hunwrap : t.unwrap = .ok (core, found)) (hclass : core.rawClass? = some c)
    (given : Option Json) :
    cat.form t given = cat.formOf core c (given <|> found.map .string) := by
  rw [form, hunwrap]
  dsimp only
  rw [hclass]

theorem ofItem_eq_ok {cause : Unresolvable} {item : Option TypeExpr} {d : Option Json} {f : Form}
    (h : Form.ofItem cause item d = .ok f) : ∃ t, item = some t ∧ f = .array t d := by
  cases item with
  | none => exact absurd h (by simp [Form.ofItem])
  | some t => exact ⟨t, rfl, (Except.ok.inj h).symm⟩

/-- The kind of the class of an expression decides which of four cases its form is. -/
theorem formOf_cases {core : TypeExpr} {c : ClassRef} {d : Option Json} {f : Form}
    (h : cat.formOf core c d = .ok f) :
    (∃ n, f = .scalar n ∧ ((∃ k e, n = .leaf k e) ∨ ∃ values e, n = .enum values e) ∧
      cat.kindOf c ≠ .fixedArray ∧ cat.kindOf c ≠ .collection ∧ cat.kindOf c ≠ .object) ∨
    (∃ item, f = .array item d ∧ cat.kindOf c = .fixedArray ∧
      core.elementOfTuple? = some item) ∨
    (∃ item, f = .array item d ∧ cat.kindOf c = .collection ∧
      core.elementOfCollection? = some item) ∨
    (f = .object c d ∧ cat.kindOf c = .object) := by
  unfold formOf at h
  cases hkind : cat.kindOf c <;> rw [hkind] at h <;> dsimp only at h
  case fixedArray =>
    obtain ⟨item, hitem, rfl⟩ := ofItem_eq_ok h
    exact .inr (.inl ⟨item, rfl, rfl, hitem⟩)
  case collection =>
    obtain ⟨item, hitem, rfl⟩ := ofItem_eq_ok h
    exact .inr (.inr (.inl ⟨item, rfl, rfl, hitem⟩))
  case object => exact .inr (.inr (.inr ⟨(Except.ok.inj h).symm, rfl⟩))
  case enumeration =>
    exact .inl ⟨_, (Except.ok.inj h).symm, .inr ⟨_, _, rfl⟩, by simp, by simp, by simp⟩
  all_goals
    exact .inl ⟨_, (Except.ok.inj h).symm, .inl ⟨_, _, rfl⟩, by simp, by simp, by simp⟩

/-- A form comes from the class behind the expression. -/
theorem form_eq_ok_iff {t : TypeExpr} {given : Option Json} {f : Form} :
    cat.form t given = .ok f ↔ ∃ core found c, t.unwrap = .ok (core, found) ∧
      core.rawClass? = some c ∧ cat.formOf core c (given <|> found.map .string) = .ok f := by
  constructor
  · intro h
    unfold form at h
    split at h
    · exact absurd h (by simp)
    · next core found hunwrap =>
      split at h
      · exact absurd h (by simp)
      · next c hclass => exact ⟨core, found, c, hunwrap, hclass, h⟩
  · rintro ⟨core, found, c, hunwrap, hclass, h⟩
    exact (form_of_class hunwrap hclass given).trans h

variable {t : TypeExpr} {given d : Option Json}

/-- A form without parts is a leaf or an enumeration. -/
theorem scalar_of_form {n : Node} (h : cat.form t given = .ok (.scalar n)) :
    (∃ k d, n = .leaf k d) ∨ ∃ values d, n = .enum values d := by
  obtain ⟨core, found, c, -, -, hform⟩ := form_eq_ok_iff.mp h
  rcases formOf_cases hform with ⟨m, hm, hleaf, -⟩ | ⟨item, hn, -⟩ | ⟨item, hn, -⟩ | ⟨hn, -⟩
  · exact Form.scalar.inj hm ▸ hleaf
  · exact absurd hn (by simp)
  · exact absurd hn (by simp)
  · exact absurd hn (by simp)

/-- A form without parts comes from a class that is neither a collection nor an object class. -/
theorem class_of_scalar {n : Node} (h : cat.form t given = .ok (.scalar n)) :
    ∃ core found c, t.unwrap = .ok (core, found) ∧ core.rawClass? = some c ∧
      cat.kindOf c ≠ .fixedArray ∧ cat.kindOf c ≠ .collection ∧ cat.kindOf c ≠ .object := by
  obtain ⟨core, found, c, hunwrap, hclass, hform⟩ := form_eq_ok_iff.mp h
  rcases formOf_cases hform with ⟨m, -, -, hkind⟩ | ⟨item, hn, -⟩ | ⟨item, hn, -⟩ | ⟨hn, -⟩
  · exact ⟨core, found, c, hunwrap, hclass, hkind⟩
  · exact absurd hn (by simp)
  · exact absurd hn (by simp)
  · exact absurd hn (by simp)

/-- An array comes from a tuple or from a collection. -/
theorem array_of_form {item : TypeExpr} (h : cat.form t given = .ok (.array item d)) :
    ∃ core found c, t.unwrap = .ok (core, found) ∧ core.rawClass? = some c ∧
      ((cat.kindOf c = .fixedArray ∧ core.elementOfTuple? = some item) ∨
        (cat.kindOf c = .collection ∧ core.elementOfCollection? = some item)) := by
  obtain ⟨core, found, c, hunwrap, hclass, hform⟩ := form_eq_ok_iff.mp h
  refine ⟨core, found, c, hunwrap, hclass, ?_⟩
  rcases formOf_cases hform with
    ⟨m, hn, -⟩ | ⟨item', hn, hkind, hitem⟩ | ⟨item', hn, hkind, hitem⟩ | ⟨hn, -⟩
  · exact absurd hn (by simp)
  · obtain ⟨rfl, -⟩ := Form.array.inj hn
    exact .inl ⟨hkind, hitem⟩
  · obtain ⟨rfl, -⟩ := Form.array.inj hn
    exact .inr ⟨hkind, hitem⟩
  · exact absurd hn (by simp)

/-- A tuple or a collection of one element is an array of it. -/
theorem exists_form_of_element {core item : TypeExpr} {found : Option String} {c : ClassRef}
    (hunwrap : t.unwrap = .ok (core, found)) (hclass : core.rawClass? = some c)
    (hitem : (cat.kindOf c = .fixedArray ∧ core.elementOfTuple? = some item) ∨
      (cat.kindOf c = .collection ∧ core.elementOfCollection? = some item))
    (given : Option Json) : ∃ d, cat.form t given = .ok (.array item d) := by
  refine ⟨given <|> found.map .string, ?_⟩
  rw [form_of_class hunwrap hclass, formOf]
  rcases hitem with ⟨hkind, hitem⟩ | ⟨hkind, hitem⟩
  · rw [hkind, hitem]
    rfl
  · rw [hkind, hitem]
    rfl

/-- An object comes from an object class. -/
theorem object_of_form {c : ClassRef} (h : cat.form t given = .ok (.object c d)) :
    ∃ core found, t.unwrap = .ok (core, found) ∧ core.rawClass? = some c ∧
      cat.kindOf c = .object := by
  obtain ⟨core, found, c', hunwrap, hclass, hform⟩ := form_eq_ok_iff.mp h
  rcases formOf_cases hform with ⟨m, hn, -⟩ | ⟨item, hn, -⟩ | ⟨item, hn, -⟩ | ⟨hn, hkind⟩
  · exact absurd hn (by simp)
  · exact absurd hn (by simp)
  · exact absurd hn (by simp)
  · obtain ⟨rfl, -⟩ := Form.object.inj hn
    exact ⟨core, found, hunwrap, hclass, hkind⟩

/-- An expression of an object class is the object of it. -/
theorem form_of_object {core : TypeExpr} {found : Option String} {c : ClassRef}
    (hunwrap : t.unwrap = .ok (core, found)) (hclass : core.rawClass? = some c)
    (hkind : cat.kindOf c = .object) (given : Option Json) :
    cat.form t given = .ok (.object c (given <|> found.map .string)) := by
  rw [form_of_class hunwrap hclass, formOf, hkind]

end Catalog

/-! ## The root -/

namespace Compile

variable {cat : Catalog} {limit : Int}

/-- The room of a root is that of its members and one more. -/
theorem roomAt_zero (hlimit : 1 ≤ limit) : roomAt limit 0 = limit.toNat + 1 := by
  simp only [roomAt]
  omega

/-- The root does what the form says as well. The object of a class is built with its definitions,
and anything else gets them afterwards. -/
theorem root_eq (hlimit : 1 ≤ limit) (t : TypeExpr) :
    root cat limit t =
      match cat.form t none with
      | .ok (.object c d) => object cat (element cat limit limit.toNat) c.toExpr d true
      | _ => (do attachDefinitions (← element cat limit (limit.toNat + 1) t none .root)) := by
  have hmembers : roomAt limit (0 + 1) = limit.toNat := by simp [roomAt]
  simp only [root, objectAt, elementAt, roomAt_zero hlimit, hmembers]
  cases hunwrap : t.unwrap with
  | error cause =>
      -- Both sides fail before they come to the definitions.
      rw [element_succ, Catalog.form, unwrapAt, hunwrap]
      rfl
  | ok unwrapped =>
      obtain ⟨core, found⟩ := unwrapped
      rw [unwrapAt, hunwrap, pure_bind]
      dsimp only
      cases hclass : core.rawClass? with
      | none =>
          rw [Catalog.form, hunwrap]
          dsimp only
          rw [hclass]
      | some c =>
          dsimp only
          split
          · next hobject =>
            rw [Catalog.form_of_object hunwrap hclass (Catalog.kindOf_eq_object_iff.mpr hobject)]
            rfl
          · next hobject =>
            split
            · next c' d hform =>
              obtain ⟨core', found', hunwrap', hclass', hkind⟩ := Catalog.object_of_form hform
              obtain ⟨rfl, rfl⟩ := Prod.mk.inj (Except.ok.inj (hunwrap.symm.trans hunwrap'))
              obtain rfl := Option.some.inj (hclass.symm.trans hclass')
              exact absurd (Catalog.kindOf_eq_object_iff.mp hkind) hobject
            · rfl

end Compile

end TypeSchema
