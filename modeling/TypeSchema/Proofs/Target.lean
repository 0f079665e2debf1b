import Mathlib.Data.List.TakeWhile
import Mathlib.Tactic.Common
import TypeSchema.Proofs.Declaration.Run
import TypeSchema.Target
/-!
# What targets name

A target has the form `module:path`, where the module has no colon, or `module.name`, where the
name has neither a dot nor a colon (`Target.Splits`). It *names* a value (`Catalog.Names`) if the
module is one of the program and the path leads from there to the value, attribute by attribute.

What a target names is loaded (`Catalog.load_of_names`), and a target that names nothing fails with
an error that says that it cannot be imported (`Catalog.exists_isImportError`). There is one
exception to both: the name of a module that starts with a dot is not looked up, and the error that
comes of it is of another kind (`Catalog.load_of_isRelative`).
-/

namespace TypeSchema

/-! ## Reading a target -/

namespace Target

variable {separator : Char} {before after : List Char}

theorem splitAtFirst?_of_notMem {cs : List Char} (h : separator ∉ cs) :
    splitAtFirst? separator cs = none := by
  have hdropped : cs.dropWhile (· ≠ separator) = [] := by
    rw [List.dropWhile_eq_nil_iff]
    rintro c hc
    simpa using fun heq : c = separator => h (heq ▸ hc)
  rw [splitAtFirst?, hdropped]

theorem splitAtFirst?_append (h : separator ∉ before) (after : List Char) :
    splitAtFirst? separator (before ++ separator :: after) = some (before, after) := by
  have hbefore : ∀ c ∈ before, decide (c ≠ separator) = true := by
    rintro c hc
    simpa using fun heq : c = separator => h (heq ▸ hc)
  rw [splitAtFirst?, List.dropWhile_append_of_pos hbefore, List.takeWhile_append_of_pos hbefore]
  simp

theorem splitAtLast?_of_notMem {cs : List Char} (h : separator ∉ cs) :
    splitAtLast? separator cs = none := by
  rw [splitAtLast?, splitAtFirst?_of_notMem (by simpa using h), Option.map_none]

theorem splitAtLast?_append (before : List Char) (h : separator ∉ after) :
    splitAtLast? separator (before ++ separator :: after) = some (before, after) := by
  have hreverse : (before ++ separator :: after).reverse =
      after.reverse ++ separator :: before.reverse := by simp
  rw [splitAtLast?, hreverse, splitAtFirst?_append (by simpa using h)]
  simp

/-- A target that contains a colon is a module and a path with the first one between them. Without
a colon it has to contain a dot, and the last one stands between them. -/
inductive Splits : (target module path : String) → Prop
  | colon {module path : String} (hmodule : ':' ∉ module.toList) :
      Splits (module ++ ":" ++ path) module path
  | dot {module path : String} (hmodule : ':' ∉ module.toList) (hpath : ':' ∉ path.toList)
      (hname : '.' ∉ path.toList) : Splits (module ++ "." ++ path) module path

variable {target module path : String}

theorem Splits.split_eq (h : Splits target module path) : split target = (module, path) := by
  cases h with
  | colon hmodule =>
      have hcs : (module ++ ":" ++ path).toList = module.toList ++ ':' :: path.toList := by simp
      rw [split, hcs, splitAtFirst?_append hmodule]
      simp
  | dot hmodule hpath hname =>
      have hcs : (module ++ "." ++ path).toList = module.toList ++ '.' :: path.toList := by simp
      have hcolon : ':' ∉ module.toList ++ '.' :: path.toList := by simp [hmodule, hpath]
      rw [split, hcs, splitAtFirst?_of_notMem hcolon, splitAtLast?_append _ hname]
      simp

/-- A target is split in one way. -/
theorem Splits.unique {module' path' : String} (h : Splits target module path)
    (h' : Splits target module' path') : module' = module ∧ path' = path :=
  Prod.mk.inj (h'.split_eq.symm.trans h.split_eq)

/-- Every target is split, or there is nothing to split it at. -/
theorem splits_or (target : String) :
    Splits target (split target).1 (split target).2 ∨ split target = ("", target) := by
  by_cases hcolon : ':' ∈ target.toList
  · obtain ⟨module, path, hcs, hmodule⟩ := List.eq_append_cons_of_mem hcolon
    have htarget : target = String.ofList module ++ ":" ++ String.ofList path := by
      rw [← String.toList_inj]
      simp [hcs]
    have hsplits : Splits target (String.ofList module) (String.ofList path) :=
      htarget ▸ .colon (by simpa using hmodule)
    rw [hsplits.split_eq]
    exact .inl hsplits
  · by_cases hdot : '.' ∈ target.toList
    · -- the last dot is the first one from the end
      obtain ⟨path, module, hcs, hpath⟩ := List.eq_append_cons_of_mem (List.mem_reverse.mpr hdot)
      have hcs : target.toList = module.reverse ++ '.' :: path.reverse := by
        simpa using congrArg List.reverse hcs
      have htarget : target = String.ofList module.reverse ++ "." ++ String.ofList path.reverse := by
        rw [← String.toList_inj]
        simp [hcs]
      have hsplits : Splits target (String.ofList module.reverse) (String.ofList path.reverse) := by
        rw [hcs] at hcolon
        have hnone : ':' ∉ module ∧ ':' ∉ path := by simpa using hcolon
        exact htarget ▸ .dot (by simpa using hnone.1) (by simpa using hnone.2) (by simpa using hpath)
      rw [hsplits.split_eq]
      exact .inl hsplits
    · rw [split, splitAtFirst?_of_notMem hcolon, Option.orElse_none, splitAtLast?_of_notMem hdot]
      simp

/-! ### Paths -/

theorem parts_cons (c : Char) (cs : List Char) :
    parts (c :: cs) = if c = '.' then [] :: parts cs else (parts cs).modifyHead (c :: ·) := by
  -- There is always a part to put a letter in front of, if only an empty one.
  have hne : ∀ cs, parts cs ≠ [] := by
    intro cs
    induction cs with
    | nil => simp [parts]
    | cons c cs ih =>
        simp only [parts, List.foldr_cons]
        split_ifs
        · simp
        · split <;> simp
  obtain ⟨p, ps, hparts⟩ := List.exists_cons_of_ne_nil (hne cs)
  rw [hparts, List.modifyHead_cons]
  rw [parts] at hparts ⊢
  rw [List.foldr_cons, hparts]

/-- The parts of a path are what stands between its dots. -/
theorem parts_eq (cs : List Char) : parts cs = cs.splitOn '.' := by
  induction cs with
  | nil => rfl
  | cons c cs ih => rw [parts_cons, ih, List.splitOn_cons_eq_if_modifyHead]; simp

theorem notMem_of_mem_parts {cs part : List Char} (h : part ∈ parts cs) : '.' ∉ part := by
  induction cs generalizing part with
  | nil => simp_all [parts]
  | cons c cs ih =>
      rw [parts_cons] at h
      split_ifs at h with hc
      · rcases List.mem_cons.mp h with rfl | h
        · simp
        · exact ih h
      · cases hparts : parts cs with
        | nil => simp [hparts] at h
        | cons p ps =>
            rw [hparts, List.modifyHead_cons] at h
            rcases List.mem_cons.mp h with rfl | h
            · have hp := ih (hparts ▸ List.mem_cons_self)
              simp [Ne.symm hc, hp]
            · exact ih (hparts ▸ List.mem_cons_of_mem _ h)

/-- The names in a path. -/
def names (path : String) : List String := (parts path.toList).map String.ofList

/-- The path of some names is written with dots between them. -/
def IsPath (names : List String) (path : String) : Prop :=
  names ≠ [] ∧ (∀ name ∈ names, '.' ∉ name.toList) ∧ path = ".".intercalate names

/-- A path can be read back in one way. -/
theorem isPath_iff {ns : List String} : IsPath ns path ↔ names path = ns := by
  rw [names, parts_eq]
  constructor
  · rintro ⟨hne, hdots, rfl⟩
    have hparts : (".".intercalate ns).toList.splitOn '.' = ns.map String.toList := by
      rw [String.toList_intercalate]
      refine List.splitOn_intercalate '.' ?_ (by simpa using hne)
      simpa using hdots
    rw [hparts]
    simp
  · rintro rfl
    refine ⟨by simp, ?_, ?_⟩
    · simp only [List.mem_map, forall_exists_index, and_imp, forall_apply_eq_imp_iff₂,
        String.toList_ofList]
      exact fun part hpart => notMem_of_mem_parts (parts_eq _ ▸ hpart)
    · have hlists : List.map (String.toList ∘ String.ofList) = id := by
        simp [Function.comp_def]
      rw [← String.toList_inj, String.toList_intercalate, List.map_map, hlists]
      exact (List.intercalate_splitOn '.').symm

end Target

/-! ## Evaluations without a trace -/

namespace Eval

variable {α : Type}

/-- The evaluation returns or fails alike after whatever was evaluated before, and leaves no trace. -/
def Traceless (a : Eval α) : Prop :=
  ∃ result : Except EvalError α, ∀ trace, a.run trace = result.map (·, trace)

@[simp] theorem traceless_pure (x : α) : Traceless (pure x : Eval α) := ⟨.ok x, fun _ => rfl⟩

@[simp] theorem traceless_throw (e : EvalError) : Traceless (throw e : Eval α) :=
  ⟨.error e, fun _ => rfl⟩

/-- What leaves no trace does the same on every way. -/
theorem Traceless.run_eq {a : Eval α} (h : Traceless a) (cat : Catalog) (trace : Trace) :
    a.run trace = (a.value cat).map (·, trace) := by
  obtain ⟨result, hresult⟩ := h
  rw [value, hresult, hresult]
  cases result <;> rfl

end Eval

namespace Catalog

open Eval

variable {cat : Catalog}

@[simp] theorem traceless_relayed {ask : Eval TypeExpr} (h : Traceless ask) (t : TypeExpr)
    (name : String) : Traceless (cat.relayed t name ask) := by
  unfold relayed
  split
  · exact traceless_pure _
  · split_ifs <;> simp [h]

@[simp] theorem traceless_classAttribute (c : ClassRef) (name : String) :
    Traceless (cat.classAttribute c name) := by
  unfold classAttribute
  split
  · exact traceless_pure _
  · split <;> simp

@[simp] theorem traceless_ownAttribute (t : TypeExpr) (name : String) :
    Traceless (cat.ownAttribute t name) := by
  unfold ownAttribute
  dsimp only
  split <;> simp

/-- Asking for an attribute leaves no trace. -/
theorem traceless_attributeOf (t : TypeExpr) (name : String) :
    Traceless (cat.attributeOf t name) := by
  fun_induction attributeOf cat t name <;> simp [*]

/-! ## What a path leads to -/

/-- The attributes of some names, one after the other, lead from a value to another. -/
inductive AttributePath (cat : Catalog) : TypeExpr → List String → TypeExpr → Prop
  | nil (t : TypeExpr) : AttributePath cat t [] t
  | cons {t u v : TypeExpr} {name : String} {names : List String}
      (hname : (cat.attributeOf t name).value cat = .ok u) (hnames : AttributePath cat u names v) :
      AttributePath cat t (name :: names) v

/-- A path leads from a module to a value: the module holds something under the first name, and the
other names lead on from there. -/
def ModulePath (cat : Catalog) (module path : String) (v : TypeExpr) : Prop :=
  ∃ name names start, Target.IsPath (name :: names) path ∧
    cat.inLayer? name (.module module) = some start ∧ AttributePath cat start names v

/-- Following some names gives what the attributes lead to. -/
theorem value_foldlM_attributeOf_iff {t v : TypeExpr} {names : List String} :
    Eval.value (names.foldlM cat.attributeOf t) cat = .ok v ↔ AttributePath cat t names v := by
  induction names generalizing t with
  | nil =>
      constructor
      · intro h
        obtain rfl : t = v := Except.ok.inj h
        exact .nil t
      · rintro ⟨⟩
        rfl
  | cons name names ih =>
      have hrun := (@traceless_attributeOf cat t name).run_eq cat (cat.newTrace none)
      have hstep : Eval.value ((name :: names).foldlM cat.attributeOf t) cat =
          (cat.attributeOf t name).value cat >>= fun u =>
            Eval.value (names.foldlM cat.attributeOf u) cat := by
        rw [List.foldlM_cons, value, StateT.run_bind, hrun]
        cases (cat.attributeOf t name).value cat <;> rfl
      rw [hstep, bind_eq_ok_iff]
      constructor
      · rintro ⟨u, hname, hnames⟩
        exact .cons hname (ih.mp hnames)
      · rintro ⟨⟩
        rename_i u hname hnames
        exact ⟨u, hname, ih.mpr hnames⟩

/-- What is reached from a module is what the path leads to. -/
theorem reach?_eq_some_iff {module path : String} {v : TypeExpr} :
    cat.reach? module (Target.names path) = some v ↔ cat.ModulePath module path v := by
  have htoOption : ∀ x : Except EvalError TypeExpr, x.toOption = some v ↔ x = .ok v := by
    intro x
    cases x <;> simp [Except.toOption]
  constructor
  · intro h
    cases hnames : Target.names path with
    | nil => simp [hnames, reach?] at h
    | cons name names =>
        rw [hnames, reach?] at h
        obtain ⟨start, hstart, hrest⟩ := Option.bind_eq_some_iff.mp h
        exact ⟨name, names, start, Target.isPath_iff.mpr hnames, hstart,
          value_foldlM_attributeOf_iff.mp ((htoOption _).mp hrest)⟩
  · rintro ⟨name, names, start, hpath, hstart, hnames⟩
    rw [Target.isPath_iff.mp hpath, reach?]
    exact Option.bind_eq_some_iff.mpr
      ⟨start, hstart, (htoOption _).mpr (value_foldlM_attributeOf_iff.mpr hnames)⟩

/-! ## Loading -/

/-- A target names a value: it consists of a module of the program and a path that leads from there
to the value. -/
def Names (cat : Catalog) (target : String) (v : TypeExpr) : Prop :=
  ∃ module path, Target.Splits target module path ∧ module ≠ "" ∧ module ∈ cat.modules ∧
    path ≠ "" ∧ cat.ModulePath module path v

end Catalog

namespace Target

/-- The module of a target starts with a dot: it is the place of a module from another one, and
there is none. -/
def IsRelative (target module : String) : Prop :=
  ∃ path, Splits target module path ∧ path ≠ "" ∧ module.startsWith "."

theorem not_isRelative_of_splits {target module path : String} (h : Splits target module path)
    (hstart : module.startsWith "." = false) (other : String) : ¬IsRelative target other := by
  rintro ⟨path', hsplits, -, hdot⟩
  rw [(h.unique hsplits).1, hstart] at hdot
  exact Bool.false_ne_true hdot

end Target

/-- Whether an error says of a target that it cannot be imported. -/
def TargetError.isImportError : TargetError → Bool
  | .relative _ => false
  | .malformed _ | .noModule .. | .notFound .. => true

namespace Catalog

variable {cat : Catalog} {target module path : String} {v : TypeExpr}

theorem not_names_of_splits (h : Target.Splits target module path) (hmodule : module ∉ cat.modules)
    (v : TypeExpr) : ¬cat.Names target v := by
  rintro ⟨module', path', hsplits, -, hmem, -⟩
  exact hmodule ((h.unique hsplits).1 ▸ hmem)

theorem isImportError_missingModule (modules : List String) (module : String) (steps : Nat)
    (name : List Char) : (Target.missingModule modules module steps name).isImportError := by
  fun_induction Target.missingModule modules module steps name <;>
    simp_all [TargetError.isImportError]

theorem load_of_malformed (h : (Target.split target).1 = "" ∨ (Target.split target).2 = "") :
    cat.load target = .error (.malformed target) := by
  simp only [load, if_pos h]
  rfl

/-- A target of the right form is loaded in two steps: the module, then the path. -/
theorem load_of_splits (h : Target.Splits target module path) (hmodule : module ≠ "")
    (hpath : path ≠ "") :
    cat.load target = cat.importModule module >>= fun _ =>
      (cat.reach? module (Target.names path)).elim (.error (TargetError.notFound path module)) .ok := by
  have hparts : ¬(module = "" ∨ path = "") := not_or.mpr ⟨hmodule, hpath⟩
  simp only [load, h.split_eq, if_neg hparts]
  cases cat.importModule module with
  | error e => rfl
  | ok imported =>
      rw [Target.names]
      cases cat.reach? module ((Target.parts path.toList).map String.ofList) <;> rfl

theorem load_of_isRelative (h : Target.IsRelative target module) :
    cat.load target = .error (.relative module) := by
  obtain ⟨path, hsplits, hpath, hdot⟩ := h
  have hmodule : module ≠ "" := by
    rintro rfl
    revert hdot
    decide
  rw [load_of_splits hsplits hmodule hpath, importModule, if_pos hdot]
  rfl

variable (hplain : ∀ module, ¬Target.IsRelative target module)
include hplain

theorem load_of_names (h : cat.Names target v) : cat.load target = .ok v := by
  obtain ⟨module, path, hsplits, hmodule, hmem, hpath, hleads⟩ := h
  have hdot : ¬module.startsWith "." := fun hdot => hplain module ⟨path, hsplits, hpath, hdot⟩
  rw [load_of_splits hsplits hmodule hpath, importModule, if_neg hdot,
    if_pos (List.contains_iff_mem.mpr hmem), reach?_eq_some_iff.mpr hleads]
  rfl

/-- A target that names nothing has no module, names one that does not exist, or has a path that
leads nowhere. -/
theorem exists_isImportError (h : ∀ v, ¬cat.Names target v) :
    ∃ e, cat.load target = .error e ∧ e.isImportError := by
  by_cases hparts : (Target.split target).1 = "" ∨ (Target.split target).2 = ""
  · exact ⟨_, load_of_malformed hparts, rfl⟩
  · obtain ⟨hmodule, hpath⟩ := not_or.mp hparts
    have hsplits := (Target.splits_or target).resolve_right fun hnone => hmodule (by rw [hnone])
    have hdot : ¬(Target.split target).1.startsWith "." :=
      fun hdot => hplain _ ⟨_, hsplits, hpath, hdot⟩
    rw [load_of_splits hsplits hmodule hpath, importModule, if_neg hdot]
    split_ifs with hmem
    · cases hreach : cat.reach? (Target.split target).1 (Target.names (Target.split target).2) with
      | none => exact ⟨_, rfl, rfl⟩
      | some v =>
          exact absurd ⟨_, _, hsplits, hmodule, List.contains_iff_mem.mp hmem, hpath,
            reach?_eq_some_iff.mp hreach⟩ (h v)
    · exact ⟨_, rfl, isImportError_missingModule _ _ _ _⟩

omit hplain

/-- What a target names is loaded, and a target that names nothing fails with an error that says that
it cannot be imported. This is so exactly if the module of the target does not start with a dot. If
it does, nothing is looked up, and the error is of another kind. -/
theorem load_named_iff (cat : Catalog) (target : String) :
    (((∀ v, cat.Names target v → cat.load target = .ok v) ∧
        ((∀ v, ¬cat.Names target v) → ∃ e, cat.load target = .error e ∧ e.isImportError)) ↔
      ∀ module, ¬Target.IsRelative target module) ∧
    ∀ module, Target.IsRelative target module → cat.load target = .error (.relative module) := by
  refine ⟨⟨fun ⟨hnames, hfails⟩ module hrelative => ?_, fun hplain =>
    ⟨fun v => load_of_names hplain, exists_isImportError hplain⟩⟩, fun _ => load_of_isRelative⟩
  -- A relative target names nothing, as it would be loaded otherwise; so it has to fail as one that
  -- cannot be imported, which it does not.
  rw [load_of_isRelative hrelative] at hnames hfails
  obtain ⟨e, he, himport⟩ := hfails fun v hv => nomatch hnames v hv
  obtain rfl := Except.error.inj he
  exact absurd himport Bool.false_ne_true

/-- A path may lead through a module of the library. Without a colon the target is split at its last
dot, and what stands before that is no module here. -/
theorem load_named_iff_uuid :
    Catalog.empty.load "app.models:uuid.UUID" = .ok (.builtin .uuid) ∧
      ∃ e, Catalog.empty.load "app.models.uuid.UUID" = .error e ∧ e.isImportError := by
  have hcolon : Target.Splits ("app.models" ++ ":" ++ "uuid.UUID") "app.models" "uuid.UUID" :=
    .colon (by decide)
  have hdot : Target.Splits ("app.models.uuid" ++ "." ++ "UUID") "app.models.uuid" "UUID" :=
    .dot (by decide) (by decide) (by decide)
  have hnames : Catalog.empty.Names "app.models:uuid.UUID" (.builtin .uuid) :=
    ⟨_, _, hcolon, by decide, by decide, by decide, "uuid", ["UUID"], .module "uuid",
      ⟨by simp, by decide, by decide⟩, rfl, .cons rfl (.nil _)⟩
  constructor
  · refine ((load_named_iff _ _).1.mpr ?_).1 _ hnames
    exact Target.not_isRelative_of_splits hcolon (by decide +kernel)
  · refine ((load_named_iff _ _).1.mpr ?_).2 ?_
    · exact Target.not_isRelative_of_splits hdot (by decide +kernel)
    · exact not_names_of_splits hdot (by decide)

/-- The module of this target starts with a dot. It names nothing, and the error does not say that it
cannot be imported. -/
theorem load_relative_target :
    (∀ v, ¬Catalog.empty.Names ".rel:Thing" v) ∧
      ¬∃ e, Catalog.empty.load ".rel:Thing" = .error e ∧ e.isImportError := by
  have hcolon : Target.Splits (".rel" ++ ":" ++ "Thing") ".rel" "Thing" := .colon (by decide)
  have hrelative : Target.IsRelative ".rel:Thing" ".rel" :=
    ⟨_, hcolon, by decide, by decide +kernel⟩
  refine ⟨not_names_of_splits hcolon (by decide), ?_⟩
  rintro ⟨e, he, himport⟩
  rw [load_of_isRelative hrelative] at he
  obtain rfl := Except.error.inj he
  exact absurd himport Bool.false_ne_true

end Catalog

end TypeSchema
