import TypeSchema.Console.Command
/-!
# Steps of commands and their outcomes

`outcome c r` is what the step `c` of a command comes to from the report `r`, and the report that it
leaves. A message changes nothing but the lines of a report, and it fails exactly when its text
cannot be printed; so the lemmas about messages leave open which lines there are.
-/

namespace TypeSchema.Console

variable {α β : Type} {cat : Catalog} {r : Report}

/-- What a step comes to, and the report that it leaves. -/
def outcome (c : Run α) (r : Report) : Except Failure α × Report := c.run.run r

@[simp] theorem outcome_pure (a : α) : outcome (pure a) r = (.ok a, r) := rfl

@[simp] theorem outcome_throw (e : Failure) : outcome (throw e : Run α) r = (.error e, r) := rfl

@[simp] theorem outcome_modify (f : Report → Report) :
    outcome (modify f) r = (.ok ⟨⟩, f r) := rfl

/-- A sequence goes on from what its first part left, unless that part failed. -/
theorem outcome_bind (c : Run α) (f : α → Run β) :
    outcome (c >>= f) r = match outcome c r with
      | (.ok a, r₁) => outcome (f a) r₁
      | (.error e, r₁) => (.error e, r₁) := by
  unfold outcome
  rw [ExceptT.run_bind, StateT.run_bind]
  rcases c.run.run r with ⟨_ | a, r₁⟩ <;> rfl

theorem outcome_bind_ok {c : Run α} {f : α → Run β} {a : α} {r₁ : Report}
    (h : outcome c r = (.ok a, r₁)) : outcome (c >>= f) r = outcome (f a) r₁ := by
  rw [outcome_bind, h]

theorem outcome_bind_error {c : Run α} {f : α → Run β} {e : Failure} {r₁ : Report}
    (h : outcome c r = (.error e, r₁)) : outcome (c >>= f) r = (.error e, r₁) := by
  rw [outcome_bind, h]

/-! ## Messages -/

/-- A text can be printed. -/
def Printable (markup : String) : Prop := ∃ printed, Markup.render markup.toList = .ok printed

instance (markup : String) : Decidable (Printable markup) :=
  match h : Markup.render markup.toList with
  | .ok printed => .isTrue ⟨printed, h⟩
  | .error e => .isFalse fun ⟨printed, hp⟩ => by rw [h] at hp; cases hp

/-- The same report with other lines. -/
def Report.withLines (r : Report) (lines : List String) : Report := { r with lines }

@[simp] theorem Report.withLines_withLines (r : Report) (first lines : List String) :
    (r.withLines first).withLines lines = r.withLines lines := rfl

/-- The step does nothing but print lines. -/
def Prints (c : Run Unit) : Prop := ∀ r, ∃ lines, outcome c r = (.ok (), r.withLines lines)

/-- The step fails and leaves the report as it is. -/
def Fails (c : Run α) : Prop := ∀ r, ∃ e, outcome c r = (.error e, r)

theorem prints_print {markup : String} (h : Printable markup) : Prints (print markup) := by
  intro r
  obtain ⟨printed, hprinted⟩ := h
  exact ⟨_, by rw [print, hprinted]; rfl⟩

theorem fails_print {markup : String} (h : ¬Printable markup) : Fails (print markup) := by
  intro r
  cases hrender : Markup.render markup.toList with
  | ok printed => exact absurd ⟨printed, hrender⟩ h
  | error e => exact ⟨.markup e, by rw [print, hrender]; rfl⟩

/-- A message of success can be printed. -/
def Tellable (message : String) : Prop := Printable (marked "green" "✓" message)

instance (message : String) : Decidable (Tellable message) :=
  inferInstanceAs (Decidable (Printable _))

theorem prints_succeed {message : String} (h : Tellable message) : Prints (succeed message) :=
  prints_print h

theorem fails_succeed {message : String} (h : ¬Tellable message) : Fails (succeed message) :=
  fails_print h

/-! ## Results of other parts -/

theorem outcome_load {target : String} {t : TypeExpr} (h : cat.load target = .ok t) :
    outcome (load cat target) r = (.ok t, r) := by
  rw [load, h]
  rfl

theorem fails_load {target : String} {e : TargetError} (h : cat.load target = .error e) :
    Fails (load cat target) := fun r => ⟨.target e, by rw [load, h]; rfl⟩

/-! ## Whole commands -/

/-- The report that a command starts with. -/
def Report.blank : Report :=
  { exitCode := 0, files := [], lines := [], document := none, rows := [] }

theorem finish_eq (command : Run Unit) : finish cat command = match outcome command .blank with
    | (.ok (), report) => report
    | (.error failure, report) =>
      let told := print (marked "red" "✗" ("Command failed: " ++ failureMessage cat failure))
      { (outcome told report).2 with exitCode := 1, document := none, rows := [] } := rfl

theorem finish_of_ok {command : Run Unit} (h : outcome command .blank = (.ok (), r)) :
    finish cat command = r := by rw [finish_eq, h]

/-- A command that fails leaves the files that were written before. -/
theorem finish_of_error (cat : Catalog) {command : Run Unit} {e : Failure}
    (h : outcome command .blank = (.error e, r)) :
    ∃ lines, finish cat command =
      { exitCode := 1, files := r.files, lines, document := none, rows := [] } := by
  rw [finish_eq, h]
  by_cases htold : Printable (marked "red" "✗" ("Command failed: " ++ failureMessage cat e))
  · obtain ⟨lines, hlines⟩ := prints_print htold r
    exact ⟨lines, by simp only [hlines]; rfl⟩
  · obtain ⟨_, hfails⟩ := fails_print htold r
    exact ⟨r.lines, by simp only [hfails]⟩

end TypeSchema.Console
