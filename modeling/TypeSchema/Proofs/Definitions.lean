import TypeSchema.Proofs.Cycles
import TypeSchema.Proofs.Declaration.Members
/-!
# One definition for each flagged class

A flagged class is defined under an identifier that is derived from its qualified name, and a
definition replaces another one of the same identifier. So each flagged class has a definition of
its own exactly when their qualified names are different, as long as the digest tells these names
apart (`build_definitions_iff`). Classes of different modules can share a qualified name, since the
dot that separates the module from the class also separates a class from the one around it
(`build_definition_replaced`).
-/

namespace TypeSchema

namespace Compile

variable {cat : Catalog} {L : Ledger TypeExpr}

/-- The flagged classes, in the order in which they were visited. -/
def flaggedClasses (L : Ledger TypeExpr) : List ClassRef := (visited L).filter (Flagged L ·)

/-- Different flagged classes have different qualified names. -/
def NamesDiffer (cat : Catalog) (L : Ledger TypeExpr) : Prop :=
  ∀ c c', Flagged L c → Flagged L c' →
    cat.qualifiedName c.toExpr = cat.qualifiedName c'.toExpr → c = c'

theorem mem_flaggedClasses {c : ClassRef} : c ∈ flaggedClasses L ↔ Flagged L c := by
  rw [flaggedClasses, List.mem_filter, decide_eq_true_eq]
  refine ⟨And.right, fun hc => ⟨?_, hc⟩⟩
  obtain ⟨e, he, -⟩ := hc
  exact mem_visited_iff.mpr ⟨e, he⟩

theorem Sound.nodup_flaggedClasses (h : Sound cat L) : (flaggedClasses L).Nodup := by
  have hvisited : (visited L).Nodup := by
    refine h.wellFormed.nodup.filterMap fun t t' c hc hc' => ?_
    rw [TypeExpr.eq_toExpr_of_asClass? hc, TypeExpr.eq_toExpr_of_asClass? hc']
  exact hvisited.filter _

/-- The recursive entries have the identifiers of the flagged classes. -/
theorem Sound.map_id_recursiveEntries (h : Sound cat L) : L.recursiveEntries.map (·.id) =
    (flaggedClasses L).map fun c => cat.referenceId c.toExpr := by
  have hids : ∀ c ∈ flaggedClasses L,
      (L.get? c.toExpr).map (·.id) = some (cat.referenceId c.toExpr) := by
    intro c hc
    obtain ⟨e, he, -⟩ := mem_flaggedClasses.mp hc
    rw [he, Option.map_some, h.id_eq he]
  have hentries := congrArg (List.map (Option.map (·.id))) h.recursiveEntries_eq
  rw [List.map_map, List.map_map] at hentries
  refine List.map_injective_iff.mpr (fun _ _ => Option.some.inj) ?_
  rw [List.map_map, List.map_map]
  exact hentries.symm.trans (List.map_congr_left hids)

theorem Sound.keys_definitions (h : Sound cat L) : OrderedMap.keys L.definitions =
    ((flaggedClasses L).map fun c => cat.referenceId c.toExpr).eraseDups := by
  rw [Ledger.definitions, OrderedMap.keys_ofList, ← h.map_id_recursiveEntries, OrderedMap.keys,
    List.map_map]
  rfl

/-- Nothing is replaced exactly when the identifiers of the flagged classes are different. -/
theorem Sound.definitions_eq_iff (h : Sound cat L) :
    (L.definitions = L.recursiveEntries.map fun e => (e.id, L.node e)) ↔
      ∀ c c', Flagged L c → Flagged L c' →
        cat.referenceId c.toExpr = cat.referenceId c'.toExpr → c = c' := by
  have hkeys : OrderedMap.keys (L.recursiveEntries.map fun e => (e.id, L.node e)) =
      (flaggedClasses L).map fun c => cat.referenceId c.toExpr := by
    rw [← h.map_id_recursiveEntries, OrderedMap.keys, List.map_map]
    rfl
  have hnodup : (L.definitions = L.recursiveEntries.map fun e => (e.id, L.node e)) ↔
      ((flaggedClasses L).map fun c => cat.referenceId c.toExpr).Nodup := by
    rw [← hkeys]
    constructor
    · intro heq
      rw [← heq]
      exact OrderedMap.nodup_keys_ofList _
    · exact OrderedMap.ofList_of_nodup
  rw [hnodup, List.nodup_map_iff_inj_on h.nodup_flaggedClasses]
  simp only [mem_flaggedClasses]
  exact ⟨fun hinj c c' hc hc' => hinj c hc c' hc', fun hinj c hc c' hc' => hinj c c' hc hc'⟩

end Compile

namespace Catalog

open Compile

variable {cat : Catalog} {limit : Int} {t : TypeExpr} {n : Node}

/-- The definitions are kept under the identifiers of the flagged classes. Where the digest has no
collision among them, different flagged classes have different identifiers exactly when they have
different qualified names, and so does each of them keep a definition of its own. -/
theorem build_definitions_iff (h : cat.build limit t = .ok n)
    (hdigest : ∀ c c', Flagged (cat.visits limit t) c → Flagged (cat.visits limit t) c' →
      cat.referenceId c.toExpr = cat.referenceId c'.toExpr →
        cat.qualifiedName c.toExpr = cat.qualifiedName c'.toExpr) :
    OrderedMap.keys n.definitions = ((flaggedClasses (cat.visits limit t)).map
      fun c => cat.referenceId c.toExpr).eraseDups ∧
    (NamesDiffer cat (cat.visits limit t) ↔
      ∀ c c', Flagged (cat.visits limit t) c → Flagged (cat.visits limit t) c' → c ≠ c' →
        cat.referenceId c.toExpr ≠ cat.referenceId c'.toExpr) ∧
    (NamesDiffer cat (cat.visits limit t) ↔
      n.definitions = (cat.visits limit t).recursiveEntries.map
        fun e => (e.id, (cat.visits limit t).node e)) := by
  obtain ⟨-, m, hm, rfl⟩ := build_builds h
  have hsound := hm.complete.sound
  have hnames : NamesDiffer cat (cat.visits limit t) ↔
      ∀ c c', Flagged (cat.visits limit t) c → Flagged (cat.visits limit t) c' →
        cat.referenceId c.toExpr = cat.referenceId c'.toExpr → c = c' := by
    constructor
    · exact fun hdiffer c c' hc hc' hid => hdiffer c c' hc hc' (hdigest c c' hc hc' hid)
    -- Classes of one qualified name have one identifier.
    · exact fun hids c c' hc hc' hname => hids c c' hc hc' (congrArg NameId.ofName hname)
  rw [hm.definitions_rooted, hsound.definitions_eq_iff]
  refine ⟨hsound.keys_definitions, hnames.trans ?_, hnames⟩
  exact ⟨fun hids c c' hc hc' hne hid => hne (hids c c' hc hc' hid),
    fun hids c c' hc hc' hid => by_contra fun hne => hids c c' hc hc' hne hid⟩

theorem build_definitions_iff_households :
    ∃ n, households.build 8 (ClassRef.declared 0).toExpr = .ok n ∧ n.definitions =
      (households.visits 8 (ClassRef.declared 0).toExpr).recursiveEntries.map
        fun e => (e.id, (households.visits 8 (ClassRef.declared 0).toExpr).node e) := by
  obtain ⟨n, hn, -⟩ := exists_build_households
  have hclasses : flaggedClasses (households.visits 8 (ClassRef.declared 0).toExpr) =
      [.declared 0, .declared 1] := by decide +kernel
  have hname : households.qualifiedName (ClassRef.declared 0).toExpr ≠
      households.qualifiedName (ClassRef.declared 1).toExpr := by decide +kernel
  have hid : households.referenceId (ClassRef.declared 0).toExpr ≠
      households.referenceId (ClassRef.declared 1).toExpr := by decide +kernel
  -- What tells the two classes apart tells all flagged classes apart.
  have hinj : ∀ f : ClassRef → String, f (.declared 0) ≠ f (.declared 1) → ∀ c c',
      Flagged (households.visits 8 (ClassRef.declared 0).toExpr) c →
      Flagged (households.visits 8 (ClassRef.declared 0).toExpr) c' → f c = f c' → c = c' := by
    intro f hf c c' hc hc' heq
    have hmem := mem_flaggedClasses.mpr hc
    have hmem' := mem_flaggedClasses.mpr hc'
    rw [hclasses, List.mem_pair] at hmem hmem'
    rcases hmem with rfl | rfl <;> rcases hmem' with rfl | rfl
    · rfl
    · exact absurd heq hf
    · exact absurd heq.symm hf
    · rfl
  refine ⟨n, hn, (build_definitions_iff hn fun c c' hc hc' heq => ?_).2.2.mp ?_⟩
  · rw [hinj (fun c => households.referenceId c.toExpr) hid c c' hc hc' heq]
  · exact hinj (fun c => households.qualifiedName c.toExpr) hname

/-- A shop with a class of carts that has a class of items in its body, and a module of the shop
that is called like the carts and has a class of items too. An order holds an item of either. -/
def orders : Catalog :=
  let inside : Expression := .path ["Cart", "Item"]
  let outside : Expression := .name "Item"
  let declare (cat : Catalog) (d : Decl) : Catalog := (cat.declare d).2
  let carts := declare empty
    (.cls .plain (.ofName "Cart" (some "shop")) [.cls .plain (.ofName "Item" none) []])
  let nested := declare carts
    (.register inside [.field "next" (.subscript (.name "list") [inside]) none] false)
  let module := declare nested (.cls .plain (.ofName "Item" (some "shop.Cart")) [])
  let items := declare module (.register outside
    [.field "label" (.name "str") none, .field "next" (.subscript (.name "list") [outside]) none]
    false)
  let order := declare items (.cls .plain (.ofName "Order" none) [])
  declare order (.register (.name "Order")
    [.field "inside" inside none, .field "outside" outside none] false)

/-- Both classes of items are flagged, and there is one definition, that of the second. -/
theorem build_definition_replaced :
    orders.Declared ∧
    ∃ n, orders.build 8 (ClassRef.declared 3).toExpr = .ok n ∧ n.definitions.length = 1 ∧
      Flagged (orders.visits 8 (ClassRef.declared 3).toExpr) (.declared 0) ∧
      Flagged (orders.visits 8 (ClassRef.declared 3).toExpr) (.declared 2) ∧
      orders.moduleOf? (ClassRef.declared 0).toExpr ≠ orders.moduleOf? (ClassRef.declared 2).toExpr ∧
      orders.referenceId (ClassRef.declared 0).toExpr =
        orders.referenceId (ClassRef.declared 2).toExpr := by
  obtain ⟨n, hn, hlength⟩ : ∃ n, orders.build 8 (ClassRef.declared 3).toExpr = .ok n ∧
      (n.definitions.length == 1) = true := exists_build (by decide +kernel)
  have hdeclared : orders.Declared :=
    .declare _ (.declare _ (.declare _ (.declare _ (.declare _ (.declare _ .empty)))))
  exact ⟨hdeclared, n, hn, beq_iff_eq.mp hlength, by decide +kernel, by decide +kernel,
    by decide +kernel, by decide +kernel⟩

end Catalog

end TypeSchema
