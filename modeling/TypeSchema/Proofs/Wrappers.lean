import TypeSchema.Proofs.Congruence
/-!
# Taking off the wrappers

A type expression may stand in annotations and in unions with `None`, nested in whatever order. To
*peel* it is to take such layers off one by one (`Peels`), noting what the annotations among them
attach. What no layer is left of is a *core*, unless it admits every value. `TypeExpr.unwrap` peels as
far as it goes: it comes to the core and to the description that is met first on the way, or it fails
where a union of several types, or a type that every value has, is in the way (`unwrap_eq_iff`).

The unions in question are *proper*: they list two types or more, and none of them twice. Unions are
made in this form (`isProper_unionOf`).
-/

namespace TypeSchema.TypeExpr

/-! ## Proper unions -/

mutual

/-- Whether every union around a type expression lists two types or more, and none of them twice. -/
def isProper : TypeExpr → Bool
  | annotated inner _ => isProper inner
  | union _ members =>
    decide (2 ≤ members.length) && decide (members.Pairwise fun x y => same x y = false) &&
      allProper members
  | _ => true

/-- Whether some type expressions have proper unions around them. -/
def allProper : List TypeExpr → Bool
  | [] => true
  | t :: ts => isProper t && allProper ts

end

theorem allProper_iff {ts : List TypeExpr} :
    allProper ts = true ↔ ∀ t ∈ ts, t.isProper = true := by
  induction ts with
  | nil => simp [allProper]
  | cons t ts ih => simp [allProper, ih]

theorem isProper_union_iff {style : UnionStyle} {members : List TypeExpr} :
    (union style members).isProper = true ↔ 2 ≤ members.length ∧
      members.Pairwise (fun x y => same x y = false) ∧ ∀ t ∈ members, t.isProper = true := by
  rw [isProper, Bool.and_eq_true_iff, Bool.and_eq_true_iff, decide_eq_true_iff, decide_eq_true_iff,
    allProper_iff, and_assoc]

theorem unionMembers_ne_nil {t : TypeExpr} (h : t.isProper = true) : unionMembers t ≠ [] := by
  unfold unionMembers
  split
  · rintro rfl
    exact absurd (isProper_union_iff.mp h).1 (by simp)
  · exact List.cons_ne_nil _ _

/-- Unions are made proper. -/
theorem isProper_unionOf (style : UnionStyle) {members : List TypeExpr} (hne : members ≠ [])
    (h : ∀ t ∈ members, t.isProper = true) : (unionOf style members).isProper = true := by
  obtain ⟨m, ms, rfl⟩ := List.exists_cons_of_ne_nil hne
  have hmember : ∀ t ∈ distinct ((m :: ms).flatMap unionMembers), t.isProper = true := by
    intro t ht
    obtain ⟨m', hm', htm⟩ := List.mem_flatMap.mp (mem_of_mem_distinct ht)
    unfold unionMembers at htm
    split at htm
    · exact (isProper_union_iff.mp (h _ hm')).2.2 t htm
    · obtain rfl := List.mem_singleton.mp htm
      exact h t hm'
  have hflat : distinct ((m :: ms).flatMap unionMembers) ≠ [] := by
    obtain ⟨t, ts, hts⟩ := List.exists_cons_of_ne_nil (unionMembers_ne_nil (h m List.mem_cons_self))
    rw [List.flatMap_cons, hts, List.cons_append, distinct]
    exact List.cons_ne_nil _ _
  unfold unionOf
  split
  · next t heq => exact hmember t (heq ▸ List.mem_singleton_self t)
  · next hsingle =>
    refine isProper_union_iff.mpr ⟨?_, pairwise_distinct _, hmember⟩
    have hzero : (distinct ((m :: ms).flatMap unionMembers)).length ≠ 0 :=
      fun hlength => hflat (List.length_eq_zero_iff.mp hlength)
    have hone : (distinct ((m :: ms).flatMap unionMembers)).length ≠ 1 := by
      intro hlength
      obtain ⟨t, ht⟩ := List.length_eq_one_iff.mp hlength
      exact hsingle t ht
    omega

/-- What is annotated keeps its unions. -/
theorem isProper_annotate (inner : TypeExpr) (metadata : List TypeExpr) :
    (annotate inner metadata).isProper = inner.isProper := by
  unfold annotate
  split
  · rw [isProper, isProper]
  · rw [isProper]

/-- A proper union has a member besides `None`. -/
theorem countP_pos_of_isProper {style : UnionStyle} {members : List TypeExpr}
    (h : (union style members).isProper = true) : 0 < members.countP (· ≠ noneType) := by
  obtain ⟨hlength, hdistinct, -⟩ := isProper_union_iff.mp h
  rw [List.countP_pos_iff]
  by_contra hnone
  have hall : ∀ t ∈ members, t = noneType := by simpa using hnone
  -- Two members that are both `None` are the same.
  obtain ⟨x, y, rest, rfl⟩ : ∃ x y rest, members = x :: y :: rest := by
    rcases members with _ | ⟨x, _ | ⟨y, rest⟩⟩
    · simp at hlength
    · simp at hlength
    · exact ⟨x, y, rest, rfl⟩
  have hxy : same x y = false := (List.pairwise_cons.mp hdistinct).1 y List.mem_cons_self
  rw [hall x (by simp), hall y (by simp)] at hxy
  exact Bool.eq_false_iff.mp hxy (same_noneType_iff.mpr rfl)

/-! ## Peeling -/

/-- Some of the wrappers of a type expression come off: what their annotations attach, from the outside
in, and what is left. A union comes off if it has one member besides `None`. -/
inductive Peels : TypeExpr → List TypeExpr → TypeExpr → Prop
  | refl (t : TypeExpr) : Peels t [] t
  | annotated {inner rest : TypeExpr} {metadata more : List TypeExpr} :
      Peels inner more rest → Peels (.annotated inner metadata) (metadata ++ more) rest
  | optional {style : UnionStyle} {members attached : List TypeExpr} {t rest : TypeExpr} :
      members.filter (· ≠ noneType) = [t] → Peels t attached rest →
      Peels (.union style members) attached rest

/-- A type expression that is no wrapper and no type that every value has. -/
def IsCore (t : TypeExpr) : Prop :=
  t.isBare = true ∧ t ≠ builtin .typingAny ∧ t ≠ builtin .object

/-- What is in the way of peeling to a core. -/
inductive Blocks : TypeExpr → UnwrapError → Prop
  /-- A union of several types. -/
  | several {style : UnionStyle} {members : List TypeExpr} :
      2 ≤ members.countP (· ≠ noneType) →
      Blocks (.union style members) (.severalAlternatives (.union style members))
  /-- A type that every value has. -/
  | unconstrained {t : TypeExpr} :
      t = builtin .typingAny ∨ t = builtin .object → Blocks t (.unconstrained t)

theorem firstDescription?_append (m n : List TypeExpr) :
    firstDescription? (m ++ n) = (firstDescription? m <|> firstDescription? n) := by
  unfold firstDescription?
  rw [List.findSome?_append, Option.or_eq_orElse]
  rfl

/-- Peeling first changes nothing but the description, which is the first that was met. -/
theorem Peels.unwrap_eq {t rest : TypeExpr} {attached : List TypeExpr} (h : Peels t attached rest) :
    t.unwrap = rest.unwrap.map fun (core, text) =>
      (core, firstDescription? attached <|> text) := by
  induction h with
  | refl t => cases t.unwrap <;> rfl
  | @annotated inner rest metadata more _ ih =>
      rw [unwrap_annotated, ih]
      cases rest.unwrap with
      | error e => rfl
      | ok unwrapped =>
          rw [Except.map, Except.map, Except.map, firstDescription?_append]
          cases firstDescription? metadata <;> rfl
  | optional hmembers _ ih => rw [unwrap_union_of_filter hmembers, ih]

theorem unwrap_of_isCore {t : TypeExpr} (h : t.IsCore) : t.unwrap = .ok (t, none) := by
  rw [unwrap_of_isBare h.1, if_neg (not_or.mpr h.2)]

theorem Blocks.unwrap_eq {t : TypeExpr} {e : UnwrapError} (h : Blocks t e) : t.unwrap = .error e := by
  cases h with
  | @several style members hmembers =>
      rw [unwrap]
      split
      · next hone => omega
      · rfl
  | unconstrained hany =>
      rw [unwrap_of_isBare (by rcases hany with rfl | rfl <;> rfl), if_pos hany]

theorem Peels.unwrap_of_isCore {t core : TypeExpr} {attached : List TypeExpr}
    (h : Peels t attached core) (hcore : core.IsCore) :
    t.unwrap = .ok (core, firstDescription? attached) := by
  rw [h.unwrap_eq, TypeExpr.unwrap_of_isCore hcore, Except.map]
  cases firstDescription? attached <;> rfl

theorem Peels.unwrap_of_blocks {t last : TypeExpr} {attached : List TypeExpr} {e : UnwrapError}
    (h : Peels t attached last) (hblocks : Blocks last e) : t.unwrap = .error e := by
  rw [h.unwrap_eq, hblocks.unwrap_eq]
  rfl

/-- Every type expression is peeled until a core is left, or something is in the way. -/
theorem exists_peels {t : TypeExpr} (h : t.isProper = true) :
    ∃ attached last, Peels t attached last ∧ (last.IsCore ∨ ∃ e, Blocks last e) := by
  induction hsize : sizeOf t using Nat.strongRecOn generalizing t with
  | ind size ih =>
      by_cases hbare : t.isBare = true
      · by_cases hany : t = builtin .typingAny ∨ t = builtin .object
        · exact ⟨[], t, .refl t, .inr ⟨_, .unconstrained hany⟩⟩
        · exact ⟨[], t, .refl t, .inl ⟨hbare, not_or.mp hany⟩⟩
      cases t with
      | annotated inner metadata =>
          have hsmaller : sizeOf inner < size :=
            hsize ▸ sizeOf_lt_of_mem_parts List.mem_cons_self
          obtain ⟨attached, last, hpeels, hlast⟩ := ih _ hsmaller (t := inner) h rfl
          exact ⟨metadata ++ attached, last, .annotated hpeels, hlast⟩
      | union style members =>
          have hpos := countP_pos_of_isProper h
          by_cases hseveral : 2 ≤ members.countP (· ≠ noneType)
          · exact ⟨[], _, .refl _, .inr ⟨_, .several hseveral⟩⟩
          -- There is one member besides `None`, and it goes on there.
          · obtain ⟨x, hx⟩ : ∃ x, members.filter (· ≠ noneType) = [x] := by
              rw [← List.length_eq_one_iff, ← List.countP_eq_length_filter]
              omega
            have hmem : x ∈ members := List.mem_of_mem_filter (hx ▸ List.mem_singleton_self x)
            have hsmaller : sizeOf x < size := hsize ▸ sizeOf_lt_of_mem_parts hmem
            obtain ⟨attached, last, hpeels, hlast⟩ :=
              ih _ hsmaller ((isProper_union_iff.mp h).2.2 x hmem) rfl
            exact ⟨attached, last, .optional hx hpeels, hlast⟩
      | _ => exact absurd rfl hbare

theorem exists_peels_of_unwrap_ok {t core : TypeExpr} {text : Option String}
    (h : t.isProper = true) (hunwrap : t.unwrap = .ok (core, text)) :
    ∃ attached, Peels t attached core ∧ core.IsCore ∧ text = firstDescription? attached := by
  obtain ⟨attached, last, hpeels, hcore | ⟨e, hblocks⟩⟩ := exists_peels h
  · have heq := hunwrap.symm.trans (hpeels.unwrap_of_isCore hcore)
    obtain ⟨rfl, rfl⟩ := Prod.mk.inj (Except.ok.inj heq)
    exact ⟨attached, hpeels, hcore, rfl⟩
  · exact absurd (hunwrap.symm.trans (hpeels.unwrap_of_blocks hblocks)) nofun

theorem exists_peels_of_unwrap_error {t : TypeExpr} {e : UnwrapError} (h : t.isProper = true)
    (hunwrap : t.unwrap = .error e) : ∃ attached last, Peels t attached last ∧ Blocks last e := by
  obtain ⟨attached, last, hpeels, hcore | ⟨e', hblocks⟩⟩ := exists_peels h
  · exact absurd (hunwrap.symm.trans (hpeels.unwrap_of_isCore hcore)) nofun
  · obtain rfl := Except.error.inj (hunwrap.symm.trans (hpeels.unwrap_of_blocks hblocks))
    exact ⟨attached, last, hpeels, hblocks⟩

/-- `unwrap` peels a type expression to its core, which it leaves alone, and comes to the text of the
first description that is attached on the way; or it fails, exactly if a union of several types or a
type that every value has is in the way. -/
theorem unwrap_eq_iff {t : TypeExpr} (h : t.isProper = true) :
    (∀ core text, t.unwrap = .ok (core, text) ↔ ∃ attached, Peels t attached core ∧ core.IsCore ∧
      text = firstDescription? attached) ∧
    (∀ core text, t.unwrap = .ok (core, text) → core.unwrap = .ok (core, none)) ∧
    ∀ e, t.unwrap = .error e ↔ ∃ attached last, Peels t attached last ∧ Blocks last e := by
  refine ⟨fun core text => ⟨exists_peels_of_unwrap_ok h, ?_⟩, fun core text hunwrap => ?_,
    fun e => ⟨exists_peels_of_unwrap_error h, ?_⟩⟩
  · rintro ⟨attached, hpeels, hcore, rfl⟩
    exact hpeels.unwrap_of_isCore hcore
  · obtain ⟨attached, -, hcore, -⟩ := exists_peels_of_unwrap_ok h hunwrap
    exact unwrap_of_isCore hcore
  · rintro ⟨attached, last, hpeels, hblocks⟩
    exact hpeels.unwrap_of_blocks hblocks

/-- A number that is described twice. -/
def describedCount : TypeExpr :=
  annotate (builtin .int) [.description 0 "A count", .description 1 "A number"]

/-- The number or nothing, in another annotation. -/
def optionalCount : TypeExpr :=
  annotate (unionOf .named [noneType, describedCount]) [.constant (.string "optional")]

/-- What is inside is the class of whole numbers, described as a count. -/
theorem unwrap_optionalCount :
    optionalCount.isProper = true ∧ optionalCount.unwrap = .ok (builtin .int, some "A count") ∧
      (builtin .int).unwrap = .ok (builtin .int, none) := by
  have hmembers : ∀ t ∈ [noneType, describedCount], t.isProper = true := by
    simp only [List.forall_mem_cons]
    exact ⟨rfl, rfl, nofun⟩
  have hproper : optionalCount.isProper = true :=
    (isProper_annotate _ _).trans (isProper_unionOf .named (List.cons_ne_nil _ _) hmembers)
  have hcount : Peels describedCount
      ([.description 0 "A count", .description 1 "A number"] ++ []) (builtin .int) :=
    .annotated (.refl _)
  have hpeels : Peels optionalCount
      ([.constant (.string "optional")] ++ [.description 0 "A count", .description 1 "A number"])
      (builtin .int) := by
    have heq : optionalCount = .annotated (.union .named [noneType, describedCount])
        [.constant (.string "optional")] := by decide +kernel
    rw [heq]
    exact .annotated (.optional (by decide) hcount)
  have hint : (builtin .int).IsCore := ⟨rfl, by decide, by decide⟩
  have hunwrap := ((unwrap_eq_iff hproper).1 _ (some "A count")).mpr ⟨_, hpeels, hint, rfl⟩
  exact ⟨hproper, hunwrap, (unwrap_eq_iff hproper).2.1 _ _ hunwrap⟩

end TypeSchema.TypeExpr
