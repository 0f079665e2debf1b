import TypeSchema.Proofs.Declaration.Steps
/-!
# The members of declared enumerations

Whatever a program declares, the names of the members of each of its enumerations are pairwise
different (`Declared.distinctMembers`). The names come from what the body of the enumeration binds,
which is a map, and nothing changes them once the class exists.
-/

namespace TypeSchema

/-- The head of a class statement that says no more than a name, and a module if there is one. -/
def ClassHead.ofName (name : String) (module : Option String) : ClassHead where
  name := name
  module := module
  fields := []
  bases := []
  params := []
  deferred := false
  description := none
  registered := none
  newModule := none
  newQualname := none

namespace Catalog

variable {cat : Catalog}

/-- The names of the members of each class. -/
def memberLists (cat : Catalog) : List (List String) := cat.classes.map ClassInfo.members

/-- No enumeration has two members of one name. -/
def DistinctMembers (cat : Catalog) : Prop := ∀ names ∈ cat.memberLists, names.Nodup

/-- In a catalog that a program has made, the members of each enumeration have different names. -/
theorem Declared.distinctMembers (h : cat.Declared) : cat.DistinctMembers := by
  intro names hnames
  obtain ⟨info, hinfo, rfl⟩ := List.mem_map.mp hnames
  have hnodup := h.forall_cores (Q := fun info => info.members.Nodup)
    (fun info hnew => hnew.members) (fun _ _ hmembers => hmembers) info.core
    (List.mem_map_of_mem hinfo)
  exact hnodup

/-- The names of the members of a class are different, also if it is a built-in one. -/
theorem DistinctMembers.nodup_info (h : cat.DistinctMembers) (id : ClassId) :
    (cat.info id).members.Nodup := by
  cases id with
  | builtin b => exact List.nodup_nil
  | declared i =>
      rw [info, List.getD_eq_getElem?_getD]
      cases hi : cat.classes[i]? with
      | none => exact List.nodup_nil
      | some info => exact h _ (List.mem_map_of_mem (List.mem_of_getElem? hi))

end Catalog

end TypeSchema
