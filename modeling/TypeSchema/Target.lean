import TypeSchema.Evaluation.Scope
/-!
# Targets

A target names something a program declares: `module:path`, or `module.name`. It is split at
its first colon; without a colon, at its last dot.

A module is imported by its whole name, so `a.b` may exist without `a`. A missing module is
blamed on the first part of its name that does not exist, or, where the part before it does,
on that part being a single module.
-/

namespace TypeSchema

/-- Why a target names nothing. -/
inductive TargetError where
  | malformed (target : String)
  /-- `missing` does not exist; `parent` does, and holds no modules. -/
  | noModule (module missing : String) (parent : Option String)
  /-- A module name that starts with a dot says nothing without a module to start from. -/
  | relative (module : String)
  | notFound (path module : String)
  deriving DecidableEq, Repr

/-- The text of an error. -/
def TargetError.message : TargetError → String
  | .malformed target => "Target must look like 'module:QualName', got: " ++ target
  | .noModule module missing parent =>
    "Cannot import module '" ++ module ++ "': No module named " ++ Text.quoted missing ++
      match parent with
      | some p => "; " ++ Text.quoted p ++ " is not a package"
      | none => ""
  | .relative module =>
    "the 'package' argument is required to perform a relative import for " ++
      Text.quoted module
  | .notFound path module => "'" ++ path ++ "' not found in module '" ++ module ++ "'"

namespace Target

/-- The parts of a text between dots. -/
def parts (cs : List Char) : List (List Char) :=
  cs.foldr (fun c ps =>
    if c = '.' then [] :: ps
    else match ps with
      | p :: ps => (c :: p) :: ps
      | [] => [[c]]) [[]]

/-- What stands before and after the first `separator`, if there is one. -/
def splitAtFirst? (separator : Char) (cs : List Char) : Option (List Char × List Char) :=
  match cs.dropWhile (· ≠ separator) with
  | [] => none
  | _ :: after => some (cs.takeWhile (· ≠ separator), after)

/-- What stands before and after the last `separator`, if there is one. -/
def splitAtLast? (separator : Char) (cs : List Char) : Option (List Char × List Char) :=
  (splitAtFirst? separator cs.reverse).map fun (after, before) =>
    (before.reverse, after.reverse)

/-- The module and the path of a target; a part that is missing is empty. -/
def split (target : String) : String × String :=
  let cs := target.toList
  let (module, path) :=
    ((splitAtFirst? ':' cs).orElse fun _ => splitAtLast? '.' cs).getD ([], cs)
  (String.ofList module, String.ofList path)

/-- Why a module does not exist: the first of the names that lead to it, from the shortest
to the whole, that does not exist. -/
def missingModule (modules : List String) (module : String) :
    (steps : Nat) → (name : List Char) → TargetError
  | 0, name => .noModule module (String.ofList name) none
  | steps + 1, name =>
    match splitAtLast? '.' name with
    | none | some ([], _) => .noModule module (String.ofList name) none
    | some (parent, _) =>
      let parentName := String.ofList parent
      if modules.contains parentName then
        .noModule module (String.ofList name) (some parentName)
      else missingModule modules module steps parent

end Target

namespace Catalog

variable (cat : Catalog)

/-- Import a module. -/
def importModule (module : String) : Except TargetError Unit :=
  if module.startsWith "." then .error (.relative module)
  else if cat.modules.contains module then .ok ()
  else .error (Target.missingModule cat.modules module module.length module.toList)

/-- What is reached from a module by a name and then by attributes. -/
def reach? (module : String) : List String → Option TypeExpr
  | [] => none
  | name :: attributes => do
    let start ← cat.inLayer? name (.module module)
    (Eval.value (attributes.foldlM cat.attributeOf start) cat).toOption

/-- What a target names. -/
def load (target : String) : Except TargetError TypeExpr := do
  let (module, path) := Target.split target
  if module = "" ∨ path = "" then throw (.malformed target)
  cat.importModule module
  match cat.reach? module ((Target.parts path.toList).map String.ofList) with
  | some value => return value
  | none => throw (.notFound path module)

end Catalog

end TypeSchema
