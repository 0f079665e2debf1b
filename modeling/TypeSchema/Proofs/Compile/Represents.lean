import TypeSchema.Proofs.Compile.Derivation
/-!
# Nodes that represent types

`Represents cat S task result` says that a result is what the task describes, whatever the
ledger was when it was built: a derivation without its ledgers and its depth. A class of `S` may
stand as a bare reference to it, and an object may carry the description of another use of its
class; everything else is fixed by the task.
-/

namespace TypeSchema.Compile

/-- The result is what the task describes, up to references to classes of `S` and the
descriptions of objects. -/
inductive Represents (cat : Catalog) (S : ClassRef → Prop) : Task → Result → Prop
  | scalar {t given n} : cat.form t given = .ok (.scalar n) →
      Represents cat S (.type t given) (.node n)
  | array {t given item d n} : cat.form t given = .ok (.array item d) →
      Represents cat S (.type item none) (.node n) →
      Represents cat S (.type t given) (.node (.array n d none))
  | object {t given c d n} : cat.form t given = .ok (.object c d) →
      Represents cat S (.object c d) (.node n) → Represents cat S (.type t given) (.node n)
  | reference {c d} : S c →
      Represents cat S (.object c d) (.node (.reference (some (cat.referenceId c.toExpr))))
  /-- An object may have been described at another use of its class. -/
  | inline {c d e fields built} : cat.fieldsOf c = .ok fields →
      Represents cat S (.members fields) (.members built) →
      Represents cat S (.object c d) (.node (objectNode cat c e built))
  | nil : Represents cat S (.members []) (.members [])
  | cons {f fields n built} : Represents cat S (.type f.type f.description) (.node n) →
      Represents cat S (.members fields) (.members built) →
      Represents cat S (.members (f :: fields)) (.members ((f.name, n) :: built))

variable {cat : Catalog} {S S' : ClassRef → Prop} {task : Task} {result : Result}

theorem Represents.mono (hS : ∀ c, S c → S' c) (h : Represents cat S task result) :
    Represents cat S' task result := by
  induction h with
  | scalar hform => exact .scalar hform
  | array hform _ ih => exact .array hform ih
  | object hform _ ih => exact .object hform ih
  | reference hc => exact .reference (hS _ hc)
  | inline hfields _ ih => exact .inline hfields ih
  | nil => exact .nil
  | cons _ _ ihn ihs => exact .cons ihn ihs

/-- Members are represented under their names. -/
theorem Represents.keys_members {fields : List SchemaField} {built : List (String × Node)}
    (h : Represents cat S (.members fields) (.members built)) :
    OrderedMap.keys built = fields.map (·.name) := by
  induction fields generalizing built with
  | nil =>
      cases h
      rfl
  | cons f fields ih =>
      cases h with
      | cons _ hbuilt => rw [OrderedMap.keys_cons, ih hbuilt, List.map_cons]

end TypeSchema.Compile
