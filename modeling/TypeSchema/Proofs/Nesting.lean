import Mathlib.Data.Set.Card
import TypeSchema.Proofs.Compile.Failure
import TypeSchema.Proofs.Cycles
/-!
# Limits that are never reached

A class of the program is opened once, and while it is open it is a place where the walk turns
back. So the classes that are open at a time are different, and below each of them the walk goes
down by one level to a data member and by one more for every layer of lists and tuples around the
type of the member. Where all classes are classes of the program this bounds the depth of the walk,
whatever cycles the classes form (`build_ne_tooDeep`).

The invariant is that the room which is left suffices for the classes that were not yet visited
(`Fails.not_tooDeep`).
-/

namespace TypeSchema

/-! ## Layers -/

/-- A number of layers of lists and tuples can be taken off an expression, one after the other and
with the wrappers around them. -/
inductive Layers (cat : Catalog) : TypeExpr → Nat → Prop
  | zero {t} : Layers cat t 0
  | tuple {t core found c item n} : t.unwrap = .ok (core, found) → core.rawClass? = some c →
      cat.kindOf c = .fixedArray → core.elementOfTuple? = some item → Layers cat item n →
      Layers cat t (n + 1)
  | collection {t core found c item n} : t.unwrap = .ok (core, found) → core.rawClass? = some c →
      cat.kindOf c = .collection → core.elementOfCollection? = some item → Layers cat item n →
      Layers cat t (n + 1)

variable {cat : Catalog}

/-- An array is one layer around its items. -/
theorem Layers.of_array {t item : TypeExpr} {given d : Option Json} {n : Nat}
    (hform : cat.form t given = .ok (.array item d)) (h : Layers cat item n) :
    Layers cat t (n + 1) := by
  obtain ⟨core, found, c, hunwrap, hclass, ⟨hkind, hitem⟩ | ⟨hkind, hitem⟩⟩ :=
    Catalog.array_of_form hform
  · exact .tuple hunwrap hclass hkind hitem h
  · exact .collection hunwrap hclass hkind hitem h

/-- Where there are layers, the outermost is an array. -/
theorem Layers.exists_item {t : TypeExpr} {n : Nat} (h : Layers cat t (n + 1))
    (given : Option Json) :
    ∃ item d, cat.form t given = .ok (.array item d) ∧ Layers cat item n := by
  cases h with
  | @tuple _ _ _ _ item _ hunwrap hclass hkind hitem hlayers =>
      obtain ⟨d, hform⟩ :=
        Catalog.exists_form_of_element hunwrap hclass (.inl ⟨hkind, hitem⟩) given
      exact ⟨item, d, hform, hlayers⟩
  | @collection _ _ _ _ item _ hunwrap hclass hkind hitem hlayers =>
      obtain ⟨d, hform⟩ :=
        Catalog.exists_form_of_element hunwrap hclass (.inr ⟨hkind, hitem⟩) given
      exact ⟨item, d, hform, hlayers⟩

/-- What is no array has no layers. -/
theorem Layers.eq_zero {t : TypeExpr} {given : Option Json} {n : Nat}
    (hform : ∀ item d, cat.form t given ≠ .ok (.array item d)) (h : Layers cat t n) : n = 0 := by
  cases n with
  | zero => rfl
  | succ n =>
      obtain ⟨item, d, hitem, -⟩ := h.exists_item given
      exact absurd hitem (hform item d)

/-- An array has one layer more than its items at most. -/
theorem Layers.le_succ {t item : TypeExpr} {given d : Option Json} {n k : Nat}
    (hform : cat.form t given = .ok (.array item d)) (hk : ∀ m, Layers cat item m → m ≤ k)
    (h : Layers cat t n) : n ≤ k + 1 := by
  cases n with
  | zero => omega
  | succ n =>
      obtain ⟨item', d', hform', hlayers⟩ := h.exists_item given
      obtain ⟨rfl, -⟩ := Form.array.inj (Except.ok.inj (hform.symm.trans hform'))
      exact Nat.succ_le_succ (hk n hlayers)

/-- Reached classes stay inside what no edge leaves. -/
theorem Reaches.of_closed {t : TypeExpr} {S : ClassRef → Prop} {c : ClassRef}
    (h : Reaches cat t c) (hroot : ∀ r, Leads cat t r → S r)
    (hedge : ∀ r d, S r → Edge cat r d → S d) : S c := by
  obtain ⟨r, hr, hpath⟩ := h
  induction hpath with
  | refl => exact hroot r hr
  | tail _ hstep ih => exact hedge _ _ ih hstep

namespace Compile

variable {limit : Int} {L L₁ : Ledger TypeExpr} {room : Nat} {task : Task} {location : Location}
  {e : SchemaError}

/-! ## Classes that are left -/

/-- The classes of `R` that were not yet visited. -/
def unvisited (R : Finset ClassRef) (L : Ledger TypeExpr) : Finset ClassRef :=
  R.filter fun c => c ∉ visited L

theorem unvisited_empty (R : Finset ClassRef) : unvisited R .empty = R :=
  Finset.filter_true_of_mem fun _ _ => List.not_mem_nil

/-- Visits are not undone. -/
theorem card_unvisited_le (h : Extends cat L L₁) (R : Finset ClassRef) :
    (unvisited R L₁).card ≤ (unvisited R L).card := by
  refine Finset.card_le_card fun c hc => ?_
  obtain ⟨hR, hunseen⟩ := Finset.mem_filter.mp hc
  refine Finset.mem_filter.mpr ⟨hR, fun hseen => hunseen ?_⟩
  obtain ⟨e, he⟩ := mem_visited_iff.mp hseen
  exact mem_visited_iff.mpr
    (Ledger.mem_keys_iff.mp (h.keys.subset (Ledger.mem_keys_iff.mpr ⟨e, he⟩)))

/-- Opening a class that is left leaves one class less. -/
theorem card_unvisited_opened {R : Finset ClassRef} {c : ClassRef} (hc : c ∈ unvisited R L) :
    (unvisited R (opened cat c L)).card + 1 = (unvisited R L).card := by
  have herase : unvisited R (opened cat c L) = (unvisited R L).erase c := by
    ext d
    have hunseen : c ∉ visited L := (Finset.mem_filter.mp hc).2
    simp only [unvisited, visited_opened, meet, if_neg hunseen, Finset.mem_filter,
      Finset.mem_erase, List.mem_append, List.mem_singleton, not_or]
    tauto
  rw [herase, Finset.card_erase_add_one hc]

/-! ## Room that suffices -/

/-- The room suffices for a task that has `left` more classes to open, where a class takes up
`size` levels. -/
def Suffices (cat : Catalog) (size left room : Nat) : Task → Prop
  | .type t _ => ∀ n, Layers cat t n → n + left * size < room
  | .object _ _ => left * size ≤ room
  | .members fields => ∀ f ∈ fields, ∀ n, Layers cat f.type n → n + left * size < room

theorem Suffices.mono {size left left' : Nat} (h : Suffices cat size left room task)
    (hle : left' ≤ left) : Suffices cat size left' room task := by
  have hmul : left' * size ≤ left * size := Nat.mul_le_mul_right size hle
  cases task with
  | type t given =>
      intro n hn
      have hlt := h n hn
      omega
  | object c d => exact Nat.le_trans hmul h
  | members fields =>
      intro f hf n hn
      have hlt := h f hf n hn
      omega

/-- What is reached from the data members of a class is reached from the class. -/
theorem Task.Reaches.of_members {c c' : ClassRef} {d : Option Json} {fields : List SchemaField}
    (hfields : cat.fieldsOf c = .ok fields) (h : Task.Reaches cat (.members fields) c') :
    Task.Reaches cat (.object c d) c' := by
  obtain ⟨r, ⟨f, hf, hleads⟩, hpath⟩ := h
  exact ⟨c, rfl, hpath.head ⟨fields, hfields, f, hf, hleads⟩⟩

/-- Where the room suffices for the classes that are left, no failure is for want of room. -/
theorem Fails.not_tooDeep {R : Finset ClassRef} {k : Nat}
    (h : Fails cat limit room L task location e) (hL : Sound cat L)
    (hreach : ∀ c, task.Reaches cat c → c ∈ R) (hcustom : ∀ c ∈ R, cat.isCustom c = true)
    (hk : ∀ c ∈ R, ∀ fields, cat.fieldsOf c = .ok fields → ∀ f ∈ fields, ∀ n,
      Layers cat f.type n → n ≤ k)
    (hroom : Suffices cat (k + 1) (unvisited R L).card room task) (bound : Int)
    (place : Location) : e ≠ .tooDeep bound place := by
  induction h with
  | tooDeep => exact absurd (hroom 0 .zero) (Nat.not_lt_zero _)
  | form _ => simp
  | array hform _ ih =>
      refine ih hL (fun c hc => hreach c ?_) fun n hn => ?_
      · exact hc.of_leads fun r => (Leads.iff_of_array hform).mpr
      · have hlt := hroom (n + 1) (.of_array hform hn)
        omega
  | object hform _ ih =>
      refine ih hL (fun c hc => hreach c ?_) ?_
      · exact hc.of_leads fun r => (Leads.iff_of_object hform).mpr
      · have hlt := hroom 0 .zero
        simp only [Suffices]
        omega
  | listing _ _ =>
      unfold membersError
      split <;> simp
  | @fresh room L c d location fields e hnew hfields _ ih =>
      have hR : c ∈ R := hreach c ⟨c, rfl, .refl⟩
      -- The class is one of the program, so it was not visited, and it is opened now for once.
      have hleft : c ∈ unvisited R L := by
        refine Finset.mem_filter.mpr ⟨hR, fun hseen => ?_⟩
        obtain ⟨entry, hentry⟩ := mem_visited_iff.mp hseen
        exact absurd ((hnew (hcustom c hR)).symm.trans hentry) (by simp)
      have hcard : (unvisited R (opened cat c L)).card + 1 = (unvisited R L).card :=
        card_unvisited_opened hleft
      refine ih (hL.opened hnew) (fun c' hc' => hreach c' (hc'.of_members hfields)) ?_
      intro f hf n hn
      have hlayers := hk c hR fields hfields f hf n hn
      have hmul : (unvisited R L).card * (k + 1) =
          (unvisited R (opened cat c L)).card * (k + 1) + (k + 1) := by
        rw [← hcard, Nat.succ_mul]
      have hle : (unvisited R L).card * (k + 1) ≤ room := hroom
      omega
  | head _ ih =>
      refine ih hL (fun c hc => hreach c ?_) (hroom _ List.mem_cons_self)
      exact hc.of_leads fun r hr => ⟨_, List.mem_cons_self, hr⟩
  | tail hn _ ih =>
      obtain ⟨hL₁, hext, -⟩ := hn.sound hL
      refine ih hL₁ (fun c hc => hreach c ?_) (Suffices.mono ?_ (card_unvisited_le hext R))
      · exact hc.of_leads fun r ⟨f, hf, hr⟩ => ⟨f, List.mem_cons_of_mem _ hf, hr⟩
      · exact fun f hf => hroom f (List.mem_cons_of_mem _ hf)

end Compile

namespace Catalog

open Compile

variable {limit : Int} {t : TypeExpr}

/-- Where a type reaches classes of the program only, a limit that has room for each of them once is
never reached. There may be `k₀` layers around the type and `k` around that of a data member. -/
theorem build_ne_tooDeep {k₀ k : Nat} (hcustom : ∀ c, Reaches cat t c → cat.isCustom c = true)
    (hk₀ : ∀ n, Layers cat t n → n ≤ k₀)
    (hk : ∀ c, Reaches cat t c → ∀ fields, cat.fieldsOf c = .ok fields → ∀ f ∈ fields, ∀ n,
      Layers cat f.type n → n ≤ k)
    (hlimit : k₀ + {c | Reaches cat t c}.encard * (k + 1) ≤ (limit.toNat : ℕ∞)) (bound : Int)
    (place : Location) : cat.build limit t ≠ .error (.tooDeep bound place) := by
  intro hbuild
  rcases build_fails hbuild with ⟨-, heq⟩ | ⟨-, hfails⟩
  · exact absurd heq (by simp)
  -- Below a limit there is room for finitely many classes only.
  have hfinite : {c | Reaches cat t c}.Finite := by
    refine Set.finite_of_encard_le_coe (k := limit.toNat) (le_trans ?_ hlimit)
    exact le_add_left (le_mul_of_one_le_right' le_add_self)
  rw [hfinite.encard_eq_coe_toFinset_card] at hlimit
  have hbound : k₀ + hfinite.toFinset.card * (k + 1) ≤ limit.toNat := by exact_mod_cast hlimit
  have hmem : ∀ c, c ∈ hfinite.toFinset ↔ Reaches cat t c := fun c => by simp
  refine hfails.not_tooDeep .empty (fun c hc => (hmem c).mpr hc)
    (fun c hc => hcustom c ((hmem c).mp hc)) (fun c hc => hk c ((hmem c).mp hc)) ?_ bound place rfl
  intro n hn
  have hlayers := hk₀ n hn
  rw [unvisited_empty]
  omega

/-- Lists of trees. -/
def treeList : TypeExpr :=
  .subscript (.direct (.builtin .list)) [(ClassRef.declared 0).toExpr]

/-- A class whose only data member is a list of its own objects. -/
def trees : Catalog := .ofFields [("Tree", [⟨"children", treeList, none⟩])]

theorem form_trees : trees.form treeList none = .ok (.array (ClassRef.declared 0).toExpr none) ∧
    trees.form (ClassRef.declared 0).toExpr none = .ok (.object (.declared 0) none) := ⟨rfl, rfl⟩

theorem layers_treeList {n : Nat} (h : Layers trees treeList n) : n ≤ 1 := by
  have hobject : ∀ item d, trees.form (ClassRef.declared 0).toExpr none ≠ .ok (.array item d) := by
    simp [form_trees]
  exact h.le_succ form_trees.1 fun m hm => Nat.le_of_eq (hm.eq_zero hobject)

theorem leads_treeList {c : ClassRef} (h : Leads trees treeList c) : c = .declared 0 :=
  (Leads.iff_of_object form_trees.2).mp ((Leads.iff_of_array form_trees.1).mp h)

theorem member_trees {fields : List SchemaField} {f : SchemaField}
    (hfields : trees.fieldsOf (.declared 0) = .ok fields) (hf : f ∈ fields) :
    f.type = treeList := by
  have heq : trees.fieldsOf (.declared 0) = .ok [⟨"children", treeList, none⟩] := rfl
  obtain rfl := Except.ok.inj (heq.symm.trans hfields)
  rw [List.mem_singleton.mp hf]

theorem reaches_treeList {c : ClassRef} (h : Reaches trees treeList c) : c = .declared 0 := by
  refine h.of_closed (fun r hr => leads_treeList hr) ?_
  rintro r d rfl ⟨fields, hfields, f, hf, hleads⟩
  rw [member_trees hfields hf] at hleads
  exact leads_treeList hleads

/-- One class and one layer around each type make three levels, and nothing less will do. -/
theorem build_ne_tooDeep_trees :
    (∀ bound place, trees.build 3 treeList ≠ .error (.tooDeep bound place)) ∧
      (trees.build 2 treeList).isOk = false := by
  have hroot : ∀ n, Layers trees treeList n → n ≤ 1 := fun n hn => layers_treeList hn
  refine ⟨fun bound place => build_ne_tooDeep ?_ hroot (k := 1) ?_ ?_ bound place,
    by decide +kernel⟩
  · intro c hc
    rw [reaches_treeList hc]
    rfl
  · intro c hc fields hfields f hf n hn
    obtain rfl := reaches_treeList hc
    rw [member_trees hfields hf] at hn
    exact layers_treeList hn
  · have hone : {c | Reaches trees treeList c}.encard ≤ 1 :=
      (Set.encard_le_encard fun c hc => reaches_treeList hc).trans
        (Set.encard_singleton (ClassRef.declared 0)).le
    calc ((1 : ℕ) : ℕ∞) + {c | Reaches trees treeList c}.encard * ((1 : ℕ) + 1)
        ≤ (1 : ℕ) + 1 * ((1 : ℕ) + 1) := by gcongr
      _ ≤ ((3 : Int).toNat : ℕ∞) := by exact_mod_cast Nat.le_refl 3

end Catalog

end TypeSchema
