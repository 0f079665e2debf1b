import TypeSchema.Proofs.Compile.Derivation
/-!
# Derivations of failures

`Fails cat limit room L task location e` says how a compilation that fails came about: with `room`
levels left below the limit and the ledger `L`, the task at the location fails with `e`. The rules
go down to the place where the error arises. On the way there every member before the one that
fails was built, so derivations of successes occur in those of failures.

The main statement is `build_fails`: a compilation that fails has a derivation. A task has one
outcome at most (`Builds.not_fails`, `Fails.unique`).
-/

namespace TypeSchema

namespace Compile

/-- The error of a class whose data members cannot be listed. An undefined name is blamed on the
class. -/
def membersError (c : ClassRef) : EvalError → SchemaError
  | .undefinedName absence name =>
    .unresolvable (.undefinedName absence name) ⟨some c.toExpr, none⟩
  | cause => .unreadable cause

/-- The derivations of failing compilations. -/
inductive Fails (cat : Catalog) (limit : Int) :
    Nat → Ledger TypeExpr → Task → Location → SchemaError → Prop
  /-- No room is left. -/
  | tooDeep {L t given location} :
      Fails cat limit 0 L (.type t given) location (.tooDeep limit location)
  /-- The expression has no form. -/
  | form {room L t given location cause} : cat.form t given = .error cause →
      Fails cat limit (room + 1) L (.type t given) location (.unresolvable cause location)
  | array {room L t given location item d e} : cat.form t given = .ok (.array item d) →
      Fails cat limit room L (.type item none) location e →
      Fails cat limit (room + 1) L (.type t given) location e
  | object {room L t given location c d e} : cat.form t given = .ok (.object c d) →
      Fails cat limit room L (.object c d) location e →
      Fails cat limit (room + 1) L (.type t given) location e
  /-- The data members of a class cannot be listed. -/
  | listing {room L c d location cause} : (cat.isCustom c = true → L.get? c.toExpr = none) →
      cat.fieldsOf c = .error cause →
      Fails cat limit room L (.object c d) location (membersError c cause)
  /-- Below a class, errors are blamed on the class. -/
  | fresh {room L c d location fields e} : (cat.isCustom c = true → L.get? c.toExpr = none) →
      cat.fieldsOf c = .ok fields →
      Fails cat limit room (opened cat c L) (.members fields) ⟨some c.toExpr, none⟩ e →
      Fails cat limit room L (.object c d) location e
  /-- Below a data member, errors are blamed on the data member. -/
  | head {room L location f fields e} :
      Fails cat limit room L (.type f.type f.description) ⟨location.owner, some f.name⟩ e →
      Fails cat limit room L (.members (f :: fields)) location e
  | tail {room L L₁ location f fields n e} :
      Builds cat room L (.type f.type f.description) (.node n) L₁ →
      Fails cat limit room L₁ (.members fields) location e →
      Fails cat limit room L (.members (f :: fields)) location e

variable {cat : Catalog} {limit : Int} {L : Ledger TypeExpr} {location : Location}
  {e : SchemaError}

/-! ## Steps taken apart -/

theorem fieldsOf_throws {c : ClassRef} (h : Throws (fieldsOf cat c.toExpr) L e) :
    ∃ cause, cat.fieldsOf c = .error cause ∧ e = membersError c cause := by
  unfold fieldsOf at h
  rw [TypeExpr.asClass?_toExpr] at h
  dsimp only at h
  split at h
  · exact absurd h not_throws_pure
  · next absence name hfields =>
    exact ⟨_, hfields, (throws_throw_iff.mp h).symm⟩
  · next cause hnot hfields =>
    refine ⟨cause, hfields, (throws_throw_iff.mp h).symm.trans ?_⟩
    unfold membersError
    split
    · next absence name => exact absurd rfl (hnot absence name)
    · rfl

theorem array_throws {items : Build Node} {d : Option Json} (h : Throws (array items d) L e) :
    Throws items L e := by
  rcases throws_bind_iff.mp h with hitems | ⟨item, L₁, -, hpure⟩
  · exact hitems
  · exact absurd hpure not_throws_pure

/-- Looking a class up does not fail. -/
theorem not_throws_visited? {t : TypeExpr} : ¬Throws (visited? cat t) L e := by
  intro h
  rcases throws_bind_iff.mp h with hget | ⟨L₁, L₂, hget, hrest⟩
  · exact not_throws_get hget
  · obtain ⟨rfl, rfl⟩ := yields_get_iff.mp hget
    cases hentry : L.get? t with
    | none =>
        rw [hentry] at hrest
        exact not_throws_pure hrest
    | some entry =>
        rw [hentry] at hrest
        dsimp only at hrest
        split at hrest
        · split at hrest
          · rcases throws_bind_iff.mp hrest with hset | ⟨_, L₁, -, hpure⟩
            · exact not_throws_set hset
            · exact not_throws_pure hpure
          · exact not_throws_pure hrest
        · exact not_throws_pure hrest

theorem not_throws_attachDefinitions {m : Node} : ¬Throws (attachDefinitions m) L e := by
  intro h
  rcases throws_bind_iff.mp h with hget | ⟨L₁, L₂, hget, hrest⟩
  · exact not_throws_get hget
  · obtain ⟨rfl, rfl⟩ := yields_get_iff.mp hget
    split at hrest
    · exact not_throws_pure hrest
    · exact not_throws_pure hrest

section Object

variable {element : Element} {room : Nat}

/-- Of some members the first that fails is the failure of all. -/
theorem foldlM_throws (owner : TypeExpr)
    (hyields : ∀ {t given location L n L'}, Yields (element t given location) L n L' →
      Builds cat room L (.type t given) (.node n) L')
    (hthrows : ∀ {t given location L}, Throws (element t given location) L e →
      Fails cat limit room L (.type t given) location e)
    {fields : List SchemaField} {done : List (String × Node)}
    (h : Throws (fields.foldlM (fun done f => do
      let n ← element f.type f.description ⟨some owner, some f.name⟩
      return OrderedMap.put f.name n done) done) L e) :
    Fails cat limit room L (.members fields) ⟨some owner, none⟩ e := by
  induction fields generalizing done L with
  | nil => exact absurd h not_throws_pure
  | cons f fields ih =>
      rw [List.foldlM_cons] at h
      rcases throws_bind_iff.mp h with hhead | ⟨done', L₁, hhead, htail⟩
      · rcases throws_bind_iff.mp hhead with hn | ⟨n, L₁, -, hpure⟩
        · exact .head (hthrows hn)
        · exact absurd hpure not_throws_pure
      · obtain ⟨n, L₂, hn, hpure⟩ := yields_bind_iff.mp hhead
        obtain ⟨rfl, rfl⟩ := yields_pure_iff.mp hpure
        exact .tail (hyields hn) (ih htail)

/-- A class that is to be built fails when its members are listed or built. -/
theorem object_throws {c : ClassRef} {d : Option Json} {emitDefinitions : Bool}
    (location : Location)
    (hyields : ∀ {t given location L n L'}, Yields (element t given location) L n L' →
      Builds cat room L (.type t given) (.node n) L')
    (hthrows : ∀ {t given location L}, Throws (element t given location) L e →
      Fails cat limit room L (.type t given) location e)
    (h : Throws (object cat element c.toExpr d emitDefinitions) L e) :
    Fails cat limit room L (.object c d) location e := by
  rcases throws_bind_iff.mp h with hknown | ⟨known, L₁, hknown, hrest⟩
  · exact absurd hknown not_throws_visited?
  rcases visited?_yields hknown with ⟨rfl, rfl, hnew⟩ | ⟨entry, -, -, rfl, -⟩
  -- The class is new: registering and storing it does not fail, nor do the definitions of a root.
  · rcases throws_bind_iff.mp hrest with hobject | ⟨m, L₂, -, hattach⟩
    · rcases throws_bind_iff.mp hobject with hregister | ⟨entry, L₂, hregister, hbody⟩
      · exact absurd hregister not_throws_modifyGet
      obtain ⟨rfl, rfl⟩ := yields_modifyGet_iff.mp hregister
      rcases throws_bind_iff.mp hbody with hread | ⟨fields, L₃, hread, hbody⟩
      · obtain ⟨cause, hfields, rfl⟩ := fieldsOf_throws hread
        exact .listing hnew hfields
      obtain ⟨hfields, rfl⟩ := fieldsOf_yields hread
      rcases throws_bind_iff.mp hbody with hbuild | ⟨ps, L₄, -, hbody⟩
      · exact .fresh hnew hfields (foldlM_throws c.toExpr hyields hthrows hbuild)
      rcases throws_bind_iff.mp hbody with hstore | ⟨_, L₅, -, hpure⟩
      · exact absurd hstore not_throws_modify
      · exact absurd hpure not_throws_pure
    · split at hattach
      · exact absurd hattach not_throws_attachDefinitions
      · exact absurd hattach not_throws_pure
  · exact absurd hrest not_throws_pure

end Object

/-! ## A task fails in one way -/

section Unique

variable {room : Nat} {t : TypeExpr} {given d : Option Json}

theorem Fails.not_of_scalar {n : Node} (hform : cat.form t given = .ok (.scalar n)) :
    ¬Fails cat limit (room + 1) L (.type t given) location e := by
  intro h
  cases h with
  | form hform' => exact absurd (hform.symm.trans hform') (by simp)
  | array hform' _ => exact absurd (hform.symm.trans hform') (by simp)
  | object hform' _ => exact absurd (hform.symm.trans hform') (by simp)

/-- An array fails where its item does. -/
theorem Fails.of_array {item : TypeExpr}
    (h : Fails cat limit (room + 1) L (.type t given) location e)
    (hform : cat.form t given = .ok (.array item d)) :
    Fails cat limit room L (.type item none) location e := by
  cases h with
  | form hform' => exact absurd (hform.symm.trans hform') (by simp)
  | array hform' hitem =>
      obtain ⟨rfl, -⟩ := Form.array.inj (Except.ok.inj (hform.symm.trans hform'))
      exact hitem
  | object hform' _ => exact absurd (hform.symm.trans hform') (by simp)

/-- A type expression with the form of an object fails like the class. -/
theorem Fails.of_object {c : ClassRef}
    (h : Fails cat limit (room + 1) L (.type t given) location e)
    (hform : cat.form t given = .ok (.object c d)) :
    Fails cat limit room L (.object c d) location e := by
  cases h with
  | form hform' => exact absurd (hform.symm.trans hform') (by simp)
  | array hform' _ => exact absurd (hform.symm.trans hform') (by simp)
  | object hform' hobject =>
      obtain ⟨rfl, rfl⟩ := Form.object.inj (Except.ok.inj (hform.symm.trans hform'))
      exact hobject

/-- A class that fails is not handed out by the ledger. -/
theorem Fails.new {c : ClassRef} (h : Fails cat limit room L (.object c d) location e) :
    cat.isCustom c = true → L.get? c.toExpr = none := by
  cases h with
  | listing hnew _ => exact hnew
  | fresh hnew _ _ => exact hnew

/-- A class whose data members can be listed fails where they do. -/
theorem Fails.of_fields {c : ClassRef} {fields : List SchemaField}
    (h : Fails cat limit room L (.object c d) location e)
    (hfields : cat.fieldsOf c = .ok fields) :
    Fails cat limit room (opened cat c L) (.members fields) ⟨some c.toExpr, none⟩ e := by
  cases h with
  | listing _ hfields' => exact absurd (hfields.symm.trans hfields') (by simp)
  | fresh _ hfields' hmembers =>
      obtain rfl := Except.ok.inj (hfields.symm.trans hfields')
      exact hmembers

/-- A task that succeeds does not fail. -/
theorem Builds.not_fails {task : Task} {result : Result} {L' : Ledger TypeExpr}
    (h : Builds cat room L task result L') : ¬Fails cat limit room L task location e := by
  induction h generalizing location with
  | scalar hform => exact Fails.not_of_scalar hform
  | array hform _ ih => exact fun hfails => ih (hfails.of_array hform)
  | object hform _ ih => exact fun hfails => ih (hfails.of_object hform)
  | placeholder hcustom he _ =>
      exact fun hfails => absurd ((hfails.new hcustom).symm.trans he) (by simp)
  | reuse hcustom he _ =>
      exact fun hfails => absurd ((hfails.new hcustom).symm.trans he) (by simp)
  | fresh _ hfields _ ih => exact fun hfails => ih (hfails.of_fields hfields)
  | nil =>
      intro hfails
      cases hfails
  | cons hn _ ihn ihs =>
      intro hfails
      cases hfails with
      | head hhead => exact ihn hhead
      | tail hn' htail =>
          obtain ⟨-, rfl⟩ := hn.unique hn'
          exact ihs htail

/-- A task has one error at most. -/
theorem Fails.unique {task : Task} {e' : SchemaError}
    (h : Fails cat limit room L task location e)
    (h' : Fails cat limit room L task location e') : e = e' := by
  induction h with
  | tooDeep =>
      cases h'
      rfl
  | form hform =>
      cases h' with
      | form hform' => rw [Except.error.inj (hform.symm.trans hform')]
      | array hform' _ => exact absurd (hform.symm.trans hform') (by simp)
      | object hform' _ => exact absurd (hform.symm.trans hform') (by simp)
  | array hform _ ih => exact ih (h'.of_array hform)
  | object hform _ ih => exact ih (h'.of_object hform)
  | listing _ hfields =>
      cases h' with
      | listing _ hfields' => rw [Except.error.inj (hfields.symm.trans hfields')]
      | fresh _ hfields' _ => exact absurd (hfields.symm.trans hfields') (by simp)
  | fresh _ hfields _ ih => exact ih (h'.of_fields hfields)
  | head hhead ih =>
      cases h' with
      | head hhead' => exact ih hhead'
      | tail hn _ => exact absurd hhead hn.not_fails
  | tail hn _ ih =>
      cases h' with
      | head hhead => exact absurd hhead hn.not_fails
      | tail hn' htail =>
          obtain ⟨-, rfl⟩ := hn.unique hn'
          exact ih htail

end Unique

/-! ## Failures have derivations -/

/-- A type expression that does not compile has a derivation of its error. -/
theorem element_throws {room : Nat} {t : TypeExpr} {given : Option Json}
    (h : Throws (element cat limit room t given location) L e) :
    Fails cat limit room L (.type t given) location e := by
  induction room generalizing t given location L with
  | zero =>
      obtain rfl := throws_throw_iff.mp h
      exact .tooDeep
  | succ room ih =>
      rw [element_succ] at h
      split at h
      · next cause hform =>
        obtain rfl := throws_throw_iff.mp h
        exact .form hform
      · exact absurd h not_throws_pure
      · next item d hform => exact .array hform (ih (array_throws h))
      · next c d hform => exact .object hform (object_throws location element_yields ih h)

theorem root_throws (hlimit : 1 ≤ limit) {t : TypeExpr}
    (h : Throws (root cat limit t) .empty e) :
    Fails cat limit (limit.toNat + 1) .empty (.type t none) .root e := by
  rw [root_eq hlimit] at h
  split at h
  · next c d hform => exact .object hform (object_throws .root element_yields element_throws h)
  · rcases throws_bind_iff.mp h with hn | ⟨m, L₁, -, hattach⟩
    · exact element_throws hn
    · exact absurd hattach not_throws_attachDefinitions

end Compile

namespace Catalog

open Compile

variable {cat : Catalog} {limit : Int} {t : TypeExpr} {e : SchemaError}

/-- A compilation that fails has a limit that is no limit, or a derivation of its error. -/
theorem build_fails (h : cat.build limit t = .error e) :
    (limit < 1 ∧ e = .nonPositiveLimit limit) ∨
      (1 ≤ limit ∧ Fails cat limit (limit.toNat + 1) .empty (.type t none) .root e) := by
  unfold build at h
  split at h
  · next hlimit => exact .inl ⟨hlimit, (Except.error.inj h).symm⟩
  · next hlimit => exact .inr ⟨by omega, root_throws (by omega) h⟩

end Catalog

end TypeSchema
