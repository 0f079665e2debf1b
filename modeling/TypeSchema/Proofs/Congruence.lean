import TypeSchema.Proofs.Compile.Form
import TypeSchema.Proofs.Compile.Root
import TypeSchema.Proofs.Equality
import TypeSchema.Proofs.Spellings
/-!
# Equal type expressions are compiled alike

The compiler goes by the syntax of a type expression, and equality does not: it takes unions as sets
and the plain values among metadata by their worth. The two fit together. From two type expressions
that are the same, the wrappers come off in the same way (`unwrap_agree`), the class inside is one
class (`rawClass?_of_same`), and the items of arrays are the same again (`elementOfTuple?_agree`,
`elementOfCollection?_agree`); so the compiler comes to the same node and leaves the same ledger, or
fails on both (`element_coincide`).

All this is about *tidy* expressions, in whose unions no two members are the same. A union is tidy
when it is made, since repetitions are taken out (`isTidy_unionOf`).
-/

namespace TypeSchema

namespace TypeExpr

/-! ## Tidy expressions -/

mutual

/-- Whether no union lists a member twice, and only brackets are unpacked. -/
def isTidy : TypeExpr → Bool
  | union _ members => decide (members.Pairwise fun x y => same x y = false) && allTidy members
  | subscript _ args => allTidy args
  | annotated inner _ => isTidy inner
  | unpacked (subscript _ args) => allTidy args
  | unpacked _ => false
  | _ => true

/-- Whether some type expressions are tidy. -/
def allTidy : List TypeExpr → Bool
  | [] => true
  | t :: ts => isTidy t && allTidy ts

end

theorem allTidy_iff {ts : List TypeExpr} : allTidy ts = true ↔ ∀ t ∈ ts, t.isTidy = true := by
  induction ts with
  | nil => simp [allTidy]
  | cons t ts ih => simp [allTidy, ih]

theorem isTidy_union_iff {style : UnionStyle} {members : List TypeExpr} :
    (union style members).isTidy = true ↔
      members.Pairwise (fun x y => same x y = false) ∧ ∀ t ∈ members, t.isTidy = true := by
  rw [isTidy, Bool.and_eq_true_iff, decide_eq_true_iff, allTidy_iff]

/-- What is left when repetitions are taken out has none. -/
theorem pairwise_distinct (ts : List TypeExpr) :
    (distinct ts).Pairwise fun x y => same x y = false := by
  induction ts with
  | nil => exact .nil
  | cons t ts ih =>
      rw [distinct, List.pairwise_cons]
      refine ⟨fun y hy => ?_, ih.filter _⟩
      simpa using (List.mem_filter.mp hy).2

theorem mem_of_mem_distinct {t : TypeExpr} {ts : List TypeExpr} (h : t ∈ distinct ts) : t ∈ ts := by
  induction ts with
  | nil => exact h
  | cons t' ts ih =>
      rw [distinct, List.mem_cons] at h
      rcases h with rfl | h
      · exact List.mem_cons_self
      · exact List.mem_cons_of_mem _ (ih (List.mem_filter.mp h).1)

/-- Unions are built tidy. -/
theorem isTidy_unionOf (style : UnionStyle) {members : List TypeExpr}
    (h : ∀ t ∈ members, t.isTidy = true) : (unionOf style members).isTidy = true := by
  have hflat : ∀ t ∈ distinct (members.flatMap unionMembers), t.isTidy = true := by
    intro t ht
    obtain ⟨m, hm, htm⟩ := List.mem_flatMap.mp (mem_of_mem_distinct ht)
    unfold unionMembers at htm
    split at htm
    · exact (isTidy_union_iff.mp (h _ hm)).2 t htm
    · obtain rfl := List.mem_singleton.mp htm
      exact h t hm
  unfold unionOf
  split
  · next t heq => exact hflat t (by rw [heq]; exact List.mem_singleton_self t)
  · exact isTidy_union_iff.mpr ⟨pairwise_distinct _, hflat⟩

/-! ## Wrappers -/

/-- Whether an expression is no wrapper. -/
def isBare : TypeExpr → Bool
  | annotated _ _ | union _ _ => false
  | _ => true

/-- The first member that is not `None` is the only one. -/
theorem unwrapSole_of_filter {members : List TypeExpr} {t : TypeExpr}
    (h : members.filter (· ≠ noneType) = [t]) : unwrapSole members = t.unwrap := by
  induction members with
  | nil => simp at h
  | cons m members ih =>
      rw [unwrapSole]
      by_cases hm : m = noneType
      · rw [if_pos hm]
        exact ih (by simpa [hm] using h)
      · rw [if_neg hm]
        rw [List.filter_cons_of_pos (by simpa using hm)] at h
        rw [(List.cons.inj h).1]

theorem unwrap_union (style : UnionStyle) (members : List TypeExpr) :
    (union style members).unwrap =
      match members.filter (· ≠ noneType) with
      | [t] => t.unwrap
      | _ => .error (.severalAlternatives (.union style members)) := by
  rw [unwrap, List.countP_eq_length_filter]
  split
  · next hone =>
    obtain ⟨t, ht⟩ := List.length_eq_one_iff.mp hone
    rw [ht]
    exact unwrapSole_of_filter ht
  · next hone =>
    split
    · next t ht => exact absurd (by rw [ht]; rfl) hone
    · rfl

/-- Two attempts to unwrap come to the same: a description and expressions that are the same, or
nothing. -/
def CoresAgree : Except UnwrapError (TypeExpr × Option String) →
    Except UnwrapError (TypeExpr × Option String) → Prop
  | .ok (core, text), .ok (core', text') =>
    same core core' = true ∧ text = text' ∧ core.isTidy = true ∧ core'.isTidy = true ∧
      core.isBare = true
  | .error _, .error _ => True
  | _, _ => False

theorem firstDescription?_of_same {m n : List TypeExpr}
    (h : List.Forall₂ (fun x y => same x y = true) m n) :
    firstDescription? m = firstDescription? n := by
  unfold firstDescription?
  induction h with
  | nil => rfl
  | @cons x y xs ys hxy _ ih =>
      rw [List.findSome?_cons, List.findSome?_cons, ih]
      cases (alike_of_same hxy).twins <;> simp_all [same]

theorem isBare_of_same {s t : TypeExpr} (h : same s t = true) : s.isBare = t.isBare := by
  cases (alike_of_same h).twins <;> rfl

theorem unwrap_of_isBare {t : TypeExpr} (h : t.isBare = true) :
    t.unwrap = if t = builtin .typingAny ∨ t = builtin .object then .error (.unconstrained t)
      else .ok (t, none) :=
  unwrap_of_bare (fun _ _ heq => absurd h (heq ▸ nofun)) fun _ _ heq => absurd h (heq ▸ nofun)

/-- Of two unions that are the same, either both have one member that is not `None`, or neither. -/
theorem filter_of_same {xs ys : List TypeExpr}
    (hxs : ∀ x ∈ xs, ∃ y ∈ ys, same x y = true) (hys : ∀ y ∈ ys, ∃ x ∈ xs, same x y = true)
    (hdistinct : ys.Pairwise fun x y => same x y = false) {x : TypeExpr}
    (h : xs.filter (· ≠ noneType) = [x]) :
    ∃ y, ys.filter (· ≠ noneType) = [y] ∧ same x y = true := by
  have hmem : ∀ {t ts}, t ∈ List.filter (· ≠ noneType) ts ↔ t ∈ ts ∧ t ≠ noneType := by
    simp [List.mem_filter]
  -- What is not `None` in one union is the same as something that is not `None` in the other.
  have hall : ∀ y ∈ ys.filter (· ≠ noneType), same x y = true := by
    intro y hy
    obtain ⟨z, hz, hzy⟩ := hys y (hmem.mp hy).1
    have hz' : z ∈ xs.filter (· ≠ noneType) := by
      refine hmem.mpr ⟨hz, ?_⟩
      rintro rfl
      exact (hmem.mp hy).2 (same_noneType_iff.mp hzy)
    rw [h, List.mem_singleton] at hz'
    exact hz' ▸ hzy
  have hx : x ∈ xs ∧ x ≠ noneType := hmem.mp (by rw [h]; exact List.mem_singleton_self x)
  obtain ⟨y, hy, hxy⟩ := hxs x hx.1
  have hy' : y ∈ ys.filter (· ≠ noneType) := by
    refine hmem.mpr ⟨hy, ?_⟩
    rintro rfl
    exact hx.2 (same_noneType_iff.mp (same_symm hxy))
  have hpairwise := hdistinct.filter (· ≠ noneType)
  cases hfilter : ys.filter (· ≠ noneType) with
  | nil => exact absurd (hfilter ▸ hy') List.not_mem_nil
  | cons z zs =>
      rw [hfilter] at hall hpairwise
      cases zs with
      | nil => exact ⟨z, rfl, hall z List.mem_cons_self⟩
      | cons w ws =>
          have hzw : same z w = true :=
            same_trans (same_symm (hall z List.mem_cons_self))
              (hall w (List.mem_cons_of_mem _ List.mem_cons_self))
          rw [(List.pairwise_cons.mp hpairwise).1 w List.mem_cons_self] at hzw
          exact absurd hzw nofun

theorem unwrap_union_of_filter {style : UnionStyle} {members : List TypeExpr} {t : TypeExpr}
    (h : members.filter (· ≠ noneType) = [t]) : (union style members).unwrap = t.unwrap := by
  rw [unwrap_union, h]

theorem exists_error_of_filter (style : UnionStyle) {members : List TypeExpr}
    (h : ∀ t, members.filter (· ≠ noneType) ≠ [t]) :
    ∃ e, (union style members).unwrap = .error e := by
  rw [unwrap_union]
  split
  · next t ht => exact absurd ht (h t)
  · exact ⟨_, rfl⟩

/-- Without wrappers, only the two types that every value has are told apart. -/
theorem unwrap_agree_of_isBare {s t : TypeExpr} (h : same s t = true) (hbare : s.isBare = true)
    (hs : s.isTidy = true) (ht : t.isTidy = true) : CoresAgree s.unwrap t.unwrap := by
  have hcore : (s = builtin .typingAny ∨ s = builtin .object) ↔
      (t = builtin .typingAny ∨ t = builtin .object) := by
    constructor
    · rintro (rfl | rfl)
      · exact .inl (same_cls_iff.mp h)
      · exact .inr (same_cls_iff.mp h)
    · rintro (rfl | rfl)
      · exact .inl (same_cls_iff.mp (same_symm h))
      · exact .inr (same_cls_iff.mp (same_symm h))
  rw [unwrap_of_isBare hbare, unwrap_of_isBare ((isBare_of_same h).symm.trans hbare)]
  by_cases hany : s = builtin .typingAny ∨ s = builtin .object
  · rw [if_pos hany, if_pos (hcore.mp hany)]
    trivial
  · rw [if_neg hany, if_neg (hany ∘ hcore.mpr)]
    exact ⟨h, rfl, hs, ht, hbare⟩

/-- The wrappers of expressions that are the same come off in the same way. -/
theorem unwrap_agree {s t : TypeExpr} (h : same s t = true) (hs : s.isTidy = true)
    (ht : t.isTidy = true) : CoresAgree s.unwrap t.unwrap := by
  induction hsize : sizeOf s using Nat.strongRecOn generalizing s t with
  | ind size ih =>
      by_cases hbare : s.isBare = true
      · exact unwrap_agree_of_isBare h hbare hs ht
      cases s with
      | annotated x m =>
          obtain ⟨y, n, rfl, hxy, hmn⟩ := same_annotated_iff.mp h
          have hagree := ih (sizeOf x) (hsize ▸ sizeOf_lt_of_mem_parts List.mem_cons_self) hxy hs ht
            rfl
          rw [unwrap_annotated, unwrap_annotated, firstDescription?_of_same hmn]
          cases hx : x.unwrap <;> cases hy : y.unwrap <;> simp_all [CoresAgree, Except.map]
      | union style xs =>
          obtain ⟨style', ys, rfl, hxs, hys⟩ := same_union_iff.mp h
          obtain ⟨hdistinct, hxs'⟩ := isTidy_union_iff.mp hs
          obtain ⟨hdistinct', hys'⟩ := isTidy_union_iff.mp ht
          -- Only the one member that is not `None` counts, if there is one.
          by_cases hone : ∃ x, xs.filter (· ≠ noneType) = [x]
          · obtain ⟨x, hx⟩ := hone
            obtain ⟨y, hy, hxy⟩ := filter_of_same hxs hys hdistinct' hx
            have hmemx : x ∈ xs := List.mem_of_mem_filter (hx ▸ List.mem_singleton_self x)
            have hmemy : y ∈ ys := List.mem_of_mem_filter (hy ▸ List.mem_singleton_self y)
            rw [unwrap_union_of_filter hx, unwrap_union_of_filter hy]
            exact ih _ (hsize ▸ sizeOf_lt_of_mem_parts hmemx) hxy (hxs' x hmemx) (hys' y hmemy) rfl
          · have hone' : ∀ y, ys.filter (· ≠ noneType) ≠ [y] := by
              intro y hy
              obtain ⟨x, hx, -⟩ := filter_of_same
                (fun y hy => (hys y hy).imp fun x hx => ⟨hx.1, same_symm hx.2⟩)
                (fun x hx => (hxs x hx).imp fun y hy => ⟨hy.1, same_symm hy.2⟩) hdistinct hy
              exact hone ⟨x, hx⟩
            obtain ⟨e, he⟩ := exists_error_of_filter style (not_exists.mp hone)
            obtain ⟨e', he'⟩ := exists_error_of_filter style' hone'
            rw [he, he']
            trivial
      | _ => exact absurd rfl hbare

/-! ## Classes and arguments -/

theorem exists_subscript_of_isTidy {x : TypeExpr} (h : (unpacked x).isTidy = true) :
    ∃ g xs, x = subscript g xs ∧ ∀ t ∈ xs, t.isTidy = true := by
  cases x with
  | subscript g xs => exact ⟨g, xs, rfl, allTidy_iff.mp h⟩
  | _ => exact absurd h nofun

theorem rawClass?_subscript_of_asWritten {g h : Head} (xs ys : List TypeExpr)
    (hg : g.asWritten = h.asWritten) :
    (subscript g xs).rawClass? = (subscript h ys).rawClass? := by
  cases g <;> cases h <;> simp_all [Head.asWritten, rawClass?, rawType, origin?]

@[simp] theorem rawClass?_unpacked_subscript (g : Head) (xs : List TypeExpr) :
    (unpacked (subscript g xs)).rawClass? = (subscript g xs).rawClass? := by
  cases g <;> rfl

/-- Expressions that are the same have one class inside. -/
theorem rawClass?_of_same {s t : TypeExpr} (h : same s t = true) (hbare : s.isBare = true)
    (hs : s.isTidy = true) : s.rawClass? = t.rawClass? := by
  cases (alike_of_same h).twins
  case subscript =>
    obtain ⟨h, ys, heq, hg, -⟩ := same_subscript_iff.mp h
    rw [heq]
    exact rawClass?_subscript_of_asWritten _ _ hg
  case unpacked =>
    obtain ⟨g, xs, rfl, -⟩ := exists_subscript_of_isTidy hs
    obtain ⟨y, hy, hxy⟩ := same_unpacked_iff.mp h
    obtain ⟨h, ys, rfl, hg, -⟩ := same_subscript_iff.mp hxy
    rw [hy, rawClass?_unpacked_subscript, rawClass?_unpacked_subscript]
    exact rawClass?_subscript_of_asWritten _ _ hg
  case cls => rw [same_cls_iff.mp h]
  case typingName => rw [same_typingName_iff.mp h]
  case annotated => exact absurd hbare nofun
  case union => exact absurd hbare nofun
  all_goals rfl

theorem arguments_unpacked (x : TypeExpr) : (unpacked x).arguments = x.arguments := by
  rw [arguments]

theorem arguments_subscript {g : Head} {xs : List TypeExpr} {c : ClassRef}
    (hclass : (subscript g xs).rawClass? = some c) (hc : c ≠ .builtin .abcCallable) :
    (subscript g xs).arguments = xs := by
  unfold arguments
  split <;>
    simp_all [rawClass?, rawType, origin?, asClass?, builtin, Alias.origin, ClassRef.builtin]

/-- Expressions that are the same have arguments that are the same, unless they are callables. -/
theorem arguments_of_same {s t : TypeExpr} {c : ClassRef} (h : same s t = true)
    (hbare : s.isBare = true) (hs : s.isTidy = true) (ht : t.isTidy = true)
    (hclass : s.rawClass? = some c) (hc : c ≠ .builtin .abcCallable) :
    List.Forall₂ (fun x y => same x y = true) s.arguments t.arguments ∧
      (∀ x ∈ s.arguments, x.isTidy = true) ∧ ∀ y ∈ t.arguments, y.isTidy = true := by
  have hclass' : t.rawClass? = some c := (rawClass?_of_same h hbare hs).symm.trans hclass
  cases s with
  | subscript g xs =>
      obtain ⟨g', ys, rfl, -, hargs⟩ := same_subscript_iff.mp h
      rw [arguments_subscript hclass hc, arguments_subscript hclass' hc]
      exact ⟨hargs, allTidy_iff.mp hs, allTidy_iff.mp ht⟩
  | unpacked x =>
      obtain ⟨g, xs, rfl, hxs⟩ := exists_subscript_of_isTidy hs
      obtain ⟨y, rfl, hxy⟩ := same_unpacked_iff.mp h
      obtain ⟨g', ys, rfl, -, hargs⟩ := same_subscript_iff.mp hxy
      obtain ⟨g'', ys', heq, hys⟩ := exists_subscript_of_isTidy ht
      obtain ⟨rfl, rfl⟩ := TypeExpr.subscript.inj heq
      rw [rawClass?_unpacked_subscript] at hclass hclass'
      rw [arguments_unpacked, arguments_unpacked, arguments_subscript hclass hc,
        arguments_subscript hclass' hc]
      exact ⟨hargs, hxs, hys⟩
  | cls i xs =>
      obtain rfl := same_cls_iff.mp h
      exact ⟨.nil, by simp [arguments], by simp [arguments]⟩
  | typingName a =>
      obtain rfl := same_typingName_iff.mp h
      exact ⟨.nil, by simp [arguments], by simp [arguments]⟩
  | annotated _ _ => exact absurd hbare nofun
  | union _ _ => exact absurd hbare nofun
  | _ => exact absurd hclass nofun

/-! ## Items of arrays -/

/-- Two searches for the item of an array come to the same: expressions that are the same, or
nothing. -/
def ItemsAgree : Option TypeExpr → Option TypeExpr → Prop
  | some x, some y => same x y = true ∧ x.isTidy = true ∧ y.isTidy = true
  | none, none => True
  | _, _ => False

theorem eq_of_reduced? {c d : Constant} (hd : d.reduced? = some c)
    (hc : c = .none ∨ c = .ellipsis) : d = c := by
  cases d with
  | bool _ | int _ | float _ | decimal _ =>
      obtain ⟨_, _, rfl⟩ := Option.map_eq_some_iff.mp hd
      simp at hc
  | complex x y =>
      rw [Constant.reduced?] at hd
      split at hd
      · exact absurd hd nofun
      · split at hd
        · obtain ⟨_, _, rfl⟩ := Option.map_eq_some_iff.mp hd
          simp at hc
        · obtain rfl := Option.some.inj hd
          simp at hc
  | _ => exact Option.some.inj hd

/-- Only itself is the same as `None`, or as the three dots. -/
theorem same_constant_iff {c : Constant} {t : TypeExpr} (hc : c = .none ∨ c = .ellipsis) :
    same (constant c) t = true ↔ t = constant c := by
  have hreduced : c.reduced? = some c := by rcases hc with rfl | rfl <;> rfl
  cases t with
  | constant d =>
      rw [same, constant_same_iff, hreduced]
      constructor
      · rintro ⟨e, he, hd⟩
        obtain rfl := Option.some.inj he
        rw [eq_of_reduced? hd hc]
      · intro h
        obtain rfl := constant.inj h
        exact ⟨d, rfl, hreduced⟩
  | _ => simp [same]

theorem asElement?_agree {x y : TypeExpr} (h : same x y = true) (hx : x.isTidy = true)
    (hy : y.isTidy = true) : ItemsAgree x.asElement? y.asElement? := by
  by_cases hnone : x = constant .none
  · subst hnone
    rw [(same_constant_iff (.inl rfl)).mp h]
    trivial
  · have hnone' : y ≠ constant .none := by
      rintro rfl
      exact hnone ((same_constant_iff (.inl rfl)).mp (same_symm h))
    rw [asElement?_of_ne hnone, asElement?_of_ne hnone']
    exact ⟨h, hx, hy⟩

/-- The item of a tuple is its first argument, if three dots or only equal ones follow it. -/
theorem elementOfTuple?_cons {t x : TypeExpr} {xs : List TypeExpr} (h : t.arguments = x :: xs) :
    t.elementOfTuple? =
      if xs = [constant .ellipsis] ∨ xs.all (equals x) = true then x.asElement? else none := by
  rw [elementOfTuple?, h]
  split
  · next heq =>
    obtain ⟨rfl, rfl⟩ := List.cons.inj heq
    rw [if_pos (.inl rfl)]
  · next heq => exact absurd heq (by simp)
  · next hdots heq =>
    obtain ⟨rfl, rfl⟩ := List.cons.inj heq
    have hne : xs ≠ [constant .ellipsis] := by
      rintro rfl
      exact hdots rfl
    simp [hne]

theorem all_equals_congr {x y : TypeExpr} {xs ys : List TypeExpr} (hxy : same x y = true)
    (h : List.Forall₂ (fun x y => same x y = true) xs ys) (hall : xs.all (equals x) = true) :
    ys.all (equals y) = true := by
  rw [List.all_eq_true] at hall ⊢
  induction h with
  | nil => exact nofun
  | cons hab _ ih =>
      intro b hb
      rcases List.mem_cons.mp hb with rfl | hb
      · exact equals_congr (hall _ List.mem_cons_self) hxy hab
      · exact ih (fun a ha => hall a (List.mem_cons_of_mem _ ha)) b hb

theorem eq_dots_of_forall₂ {ys : List TypeExpr}
    (h : List.Forall₂ (fun x y => same x y = true) [constant .ellipsis] ys) :
    ys = [constant .ellipsis] := by
  obtain ⟨y, rest, hy, hrest, rfl⟩ := List.forall₂_cons_left_iff.mp h
  rw [(same_constant_iff (.inr rfl)).mp hy, List.forall₂_nil_left_iff.mp hrest]

theorem forall₂_same_symm {xs ys : List TypeExpr}
    (h : List.Forall₂ (fun x y => same x y = true) xs ys) :
    List.Forall₂ (fun x y => same x y = true) ys xs :=
  h.flip.imp fun _ _ => same_symm

section

variable {s t : TypeExpr}

theorem elementOfTuple?_agree
    (h : List.Forall₂ (fun x y => same x y = true) s.arguments t.arguments)
    (hs : ∀ x ∈ s.arguments, x.isTidy = true) (ht : ∀ y ∈ t.arguments, y.isTidy = true) :
    ItemsAgree s.elementOfTuple? t.elementOfTuple? := by
  cases hxs : s.arguments with
  | nil =>
      rw [hxs, List.forall₂_nil_left_iff] at h
      rw [elementOfTuple?, elementOfTuple?, hxs, h]
      trivial
  | cons x xs =>
      rw [hxs] at h hs
      obtain ⟨y, ys, hxy, hrest, hys⟩ := List.forall₂_cons_left_iff.mp h
      rw [hys] at ht
      rw [elementOfTuple?_cons hxs, elementOfTuple?_cons hys]
      have hiff : (xs = [constant .ellipsis] ∨ xs.all (equals x) = true) ↔
          (ys = [constant .ellipsis] ∨ ys.all (equals y) = true) := by
        constructor
        · rintro (rfl | hall)
          · exact .inl (eq_dots_of_forall₂ hrest)
          · exact .inr (all_equals_congr hxy hrest hall)
        · rintro (rfl | hall)
          · exact .inl (eq_dots_of_forall₂ (forall₂_same_symm hrest))
          · exact .inr (all_equals_congr (same_symm hxy) (forall₂_same_symm hrest) hall)
      by_cases hall : xs = [constant .ellipsis] ∨ xs.all (equals x) = true
      · rw [if_pos hall, if_pos (hiff.mp hall)]
        exact asElement?_agree hxy (hs x List.mem_cons_self) (ht y List.mem_cons_self)
      · rw [if_neg hall, if_neg (hall ∘ hiff.mpr)]
        trivial

theorem elementOfCollection?_agree
    (h : List.Forall₂ (fun x y => same x y = true) s.arguments t.arguments)
    (hs : ∀ x ∈ s.arguments, x.isTidy = true) (ht : ∀ y ∈ t.arguments, y.isTidy = true) :
    ItemsAgree s.elementOfCollection? t.elementOfCollection? := by
  rw [elementOfCollection?, elementOfCollection?]
  generalize s.arguments = xs at h hs
  generalize t.arguments = ys at h ht
  cases h with
  | nil => trivial
  | cons hxy hrest =>
      cases hrest with
      | nil => exact asElement?_agree hxy (hs _ List.mem_cons_self) (ht _ List.mem_cons_self)
      | cons _ _ => trivial

end

end TypeExpr

/-! ## Forms and outcomes -/

/-- Two type expressions have forms that come to the same, or none. -/
def FormsAgree : Except Unresolvable Form → Except Unresolvable Form → Prop
  | .ok (.scalar m), .ok (.scalar n) => m = n
  | .ok (.array x d), .ok (.array y e) =>
    TypeExpr.same x y = true ∧ x.isTidy = true ∧ y.isTidy = true ∧ d = e
  | .ok (.object b d), .ok (.object c e) => b = c ∧ d = e
  | .error _, .error _ => True
  | _, _ => False

namespace Catalog

open TypeExpr

variable {cat : Catalog} {s t : TypeExpr} {given : Option Json}

theorem ofItem_agree {i j : Unresolvable} {x y : Option TypeExpr} (h : ItemsAgree x y)
    (d : Option Json) : FormsAgree (Form.ofItem i x d) (Form.ofItem j y d) := by
  cases x <;> cases y
  · trivial
  · exact h.elim
  · exact h.elim
  · exact ⟨h.1, h.2.1, h.2.2, rfl⟩

theorem ne_callable_of_kindOf {c : ClassRef} {k : TypeKind} (h : cat.kindOf c = k)
    (hk : k ≠ .object) : c ≠ .builtin .abcCallable := by
  rintro rfl
  exact hk (h.symm.trans rfl)

theorem formOf_agree {c : ClassRef} {d : Option Json} (h : same s t = true)
    (hbare : s.isBare = true) (hs : s.isTidy = true) (ht : t.isTidy = true)
    (hclass : s.rawClass? = some c) : FormsAgree (cat.formOf s c d) (cat.formOf t c d) := by
  unfold formOf
  cases hkind : cat.kindOf c with
  | fixedArray =>
      obtain ⟨hargs, hs, ht⟩ :=
        arguments_of_same h hbare hs ht hclass (ne_callable_of_kindOf hkind nofun)
      exact ofItem_agree (elementOfTuple?_agree hargs hs ht) d
  | collection =>
      obtain ⟨hargs, hs, ht⟩ :=
        arguments_of_same h hbare hs ht hclass (ne_callable_of_kindOf hkind nofun)
      exact ofItem_agree (elementOfCollection?_agree hargs hs ht) d
  | object => exact ⟨rfl, rfl⟩
  | _ => exact rfl

/-- Expressions that are the same have forms that come to the same. -/
theorem form_agree (cat : Catalog) (given : Option Json) (h : same s t = true)
    (hs : s.isTidy = true) (ht : t.isTidy = true) :
    FormsAgree (cat.form s given) (cat.form t given) := by
  have hcores := unwrap_agree h hs ht
  unfold form
  cases hunwrap : s.unwrap with
  | error cause =>
      cases hunwrap' : t.unwrap with
      | error cause' => trivial
      | ok found' => exact (hunwrap ▸ hunwrap' ▸ hcores : CoresAgree (.error _) (.ok _)).elim
  | ok found =>
      cases hunwrap' : t.unwrap with
      | error cause' => exact (hunwrap ▸ hunwrap' ▸ hcores : CoresAgree (.ok _) (.error _)).elim
      | ok found' =>
          rw [hunwrap, hunwrap'] at hcores
          obtain ⟨core, text⟩ := found
          obtain ⟨core', text'⟩ := found'
          obtain ⟨hcore, rfl, htidy, htidy', hbare⟩ := hcores
          dsimp only
          rw [← rawClass?_of_same hcore hbare htidy]
          cases hclass : core.rawClass? with
          | none => trivial
          | some c => exact formOf_agree hcore hbare htidy htidy' hclass

end Catalog

namespace Compile

open TypeExpr

variable {cat : Catalog} {L : Ledger TypeExpr}

/-- Two steps come to the same from a ledger: to one result or each to an error, and to one
ledger. -/
def Coincide {α : Type} (b b' : Build α) (L : Ledger TypeExpr) : Prop :=
  (outcome b L).1.toOption = (outcome b' L).1.toOption ∧ (outcome b L).2 = (outcome b' L).2

theorem yields_iff_toOption {α : Type} {b : Build α} {a : α} {L' : Ledger TypeExpr} :
    Yields b L a L' ↔ (outcome b L).1.toOption = some a ∧ (outcome b L).2 = L' := by
  unfold Yields
  rcases outcome b L with ⟨e | a', L₁⟩ <;> simp [Except.toOption]

theorem Coincide.yields_iff {α : Type} {b b' : Build α} (h : Coincide b b' L) {a : α}
    {L' : Ledger TypeExpr} : Yields b L a L' ↔ Yields b' L a L' := by
  rw [yields_iff_toOption, yields_iff_toOption, h.1, h.2]

/-- A step that has no result throws. -/
theorem exists_throws {α : Type} {b : Build α} (h : ∀ a L', ¬Yields b L a L') :
    ∃ e, Throws b L e := by
  unfold Yields at h
  unfold Throws
  rcases houtcome : outcome b L with ⟨e | a, L'⟩
  · exact ⟨e, rfl⟩
  · exact absurd houtcome (h a L')

theorem array_coincide {b b' : Build Node} (h : Coincide b b' L) (d : Option Json) :
    Coincide (array b d) (array b' d) L := by
  obtain ⟨hresult, hledger⟩ := h
  unfold Coincide array
  rw [outcome_bind, outcome_bind]
  rcases hb : outcome b L with ⟨e | n, L₁⟩ <;> rcases hb' : outcome b' L with ⟨e' | n', L₁'⟩ <;>
    simp_all [Except.toOption]

/-- Expressions that are the same are compiled alike, with whatever room there is. -/
theorem element_coincide (cat : Catalog) (limit : Int) (room : Nat) {s t : TypeExpr}
    (h : same s t = true) (hs : s.isTidy = true) (ht : t.isTidy = true) (given : Option Json)
    (location : Location) (L : Ledger TypeExpr) :
    Coincide (element cat limit room s given location)
      (element cat limit room t given location) L := by
  induction room generalizing s t given location L with
  | zero => exact ⟨rfl, rfl⟩
  | succ room ih =>
      -- A step looks at nothing but the form, and only that of an array goes on to a part.
      have hforms := Catalog.form_agree cat given h hs ht
      rw [element_succ, element_succ]
      generalize cat.form s given = f at hforms
      generalize cat.form t given = g at hforms
      match f, g with
      | .ok (.scalar m), .ok (.scalar n) =>
          obtain rfl : m = n := hforms
          exact ⟨rfl, rfl⟩
      | .ok (.array x d), .ok (.array y e) =>
          obtain ⟨hxy, hx, hy, rfl⟩ := hforms
          exact array_coincide (ih hxy hx hy none location L) d
      | .ok (.object b d), .ok (.object c e) =>
          obtain ⟨rfl, rfl⟩ := hforms
          exact ⟨rfl, rfl⟩
      | .error _, .error _ => exact ⟨rfl, rfl⟩

/-! ## Tuples -/

/-- What stands before the brackets of a tuple. -/
def tupleHeads : List Head := [.direct (.builtin .tuple), .typingName .tuple]

section Tuple

variable {head : Head} {x : TypeExpr} {xs : List TypeExpr} {limit depth : Int}
  {given : Option Json} {location : Location} {L' : Ledger TypeExpr} {n : Node}

theorem arguments_of_tuple (h : head ∈ tupleHeads) (xs : List TypeExpr) :
    (TypeExpr.subscript head xs).arguments = xs := by
  simp only [tupleHeads, List.mem_cons, List.not_mem_nil, or_false] at h
  rcases h with rfl | rfl <;> rfl

theorem rawClass?_of_tuple (h : head ∈ tupleHeads) (xs : List TypeExpr) :
    (TypeExpr.subscript head xs).rawClass? = some (.builtin .tuple) := by
  simp only [tupleHeads, List.mem_cons, List.not_mem_nil, or_false] at h
  rcases h with rfl | rfl <;> rfl

theorem form_of_tuple (cat : Catalog) (h : head ∈ tupleHeads) (xs : List TypeExpr)
    (given : Option Json) :
    cat.form (.subscript head xs) given =
      Form.ofItem (.noSingleElement (.subscript head xs))
        (TypeExpr.subscript head xs).elementOfTuple? given := by
  rw [Catalog.form_of_class (unwrap_subscript head xs) (rawClass?_of_tuple h xs),
    Catalog.formOf, Catalog.kindOf_tuple]
  cases given <;> rfl

/-- What has no form comes to nothing. -/
theorem not_yields_of_form {s : TypeExpr} {cause : Unresolvable}
    (hform : cat.form s given = .error cause) :
    ¬Yields (elementAt cat limit depth s given location) L n L' := by
  unfold elementAt
  cases roomAt limit depth with
  | zero => exact not_yields_throw
  | succ room =>
      rw [element_succ, hform]
      exact not_yields_throw

/-- A tuple comes to the array of what its first argument comes to, if three dots or only equal
arguments follow it. -/
theorem yields_tuple_iff (h : head ∈ tupleHeads) :
    Yields (elementAt cat limit depth (.subscript head (x :: xs)) given location) L n L' ↔
      (xs = [.constant .ellipsis] ∨ xs.all (equals x) = true) ∧ depth ≤ limit ∧
        ∃ items, Yields (elementAt cat limit (depth + 1) x none location) L items L' ∧
          n = .array items given none := by
  have hitem := elementOfTuple?_cons (arguments_of_tuple h (x :: xs))
  have hform := form_of_tuple cat h (x :: xs) given
  by_cases hall : xs = [.constant .ellipsis] ∨ xs.all (equals x) = true
  · rw [hitem, if_pos hall] at hform
    -- An item that is the plain value `None` counts as none, and is compiled to nothing anyway.
    by_cases hx : x = .constant .none
    · subst hx
      refine iff_of_false (not_yields_of_form hform) ?_
      rintro ⟨-, -, items, hitems, -⟩
      exact not_yields_of_form rfl hitems
    · rw [asElement?_of_ne hx] at hform
      rw [yields_iff_of_form hform, and_iff_right hall]
  · rw [hitem, if_neg hall] at hform
    exact iff_of_false (not_yields_of_form hform) fun hyields => hall hyields.1

end Tuple

/-- Type expressions that are the same come to the same, from every ledger, under every limit, at
every depth and place, and with every description; and what is equal is the same, unless a class is
applied to itself. So a tuple whose arguments are the same comes to the array of what any of them
comes to. One whose arguments are not all equal to the first, and that does not go on, throws. -/
theorem elementAt_coincide (cat : Catalog) :
    (∀ s t, s.isTidy = true → t.isTidy = true → same s t = true →
      ∀ limit depth given location L, Coincide (elementAt cat limit depth s given location)
        (elementAt cat limit depth t given location) L) ∧
    (∀ s t, ¬AppliesToItself s → ¬AppliesToItself t → equals s t = true → same s t = true) ∧
    (∀ head ∈ tupleHeads, ∀ x xs, (∀ y ∈ x :: xs, y.isTidy = true) →
      (∀ y ∈ xs, same x y = true) → ∀ y ∈ x :: xs, ∀ limit depth given location L n L',
        Yields (elementAt cat limit depth (.subscript head (x :: xs)) given location) L n L' ↔
          depth ≤ limit ∧
            ∃ items, Yields (elementAt cat limit (depth + 1) y none location) L items L' ∧
              n = .array items given none) ∧
    (∀ head ∈ tupleHeads, ∀ x xs, xs ≠ [.constant .ellipsis] →
      (∃ y ∈ xs, equals x y = false) → ∀ limit depth given location L, ∃ e,
        Throws (elementAt cat limit depth (.subscript head (x :: xs)) given location) L e) := by
  refine ⟨fun s t hs ht h limit depth given location L => ?_,
    fun s t hs ht h => same_of_equals h hs ht, ?_, ?_⟩
  · exact element_coincide cat limit (roomAt limit depth) h hs ht given location L
  · intro head hhead x xs htidy hsame y hy limit depth given location L n L'
    have hall : xs.all (equals x) = true :=
      List.all_eq_true.mpr fun z hz => equals_of_same (hsame z hz)
    rw [yields_tuple_iff hhead, and_iff_right (Or.inr hall)]
    rcases List.mem_cons.mp hy with rfl | hmem
    · exact Iff.rfl
    · have hcoincide := element_coincide cat limit (roomAt limit (depth + 1)) (hsame y hmem)
        (htidy x List.mem_cons_self) (htidy y hy) none location L
      simp only [elementAt, hcoincide.yields_iff]
  · rintro head hhead x xs hdots ⟨y, hy, hne⟩ limit depth given location L
    refine exists_throws fun n L' hyields => ?_
    rcases ((yields_tuple_iff hhead).mp hyields).1 with hdots' | hall
    · exact hdots hdots'
    · exact absurd (List.all_eq_true.mp hall y hy) (by simp [hne])

/-- An optional number with its members in either order and written in either way, beside a tuple of
the two and a tuple of unequal types. -/
theorem elementAt_coincide_optional :
    same (.union .named [.builtin .int, .noneType]) (.union .bars [.noneType, .builtin .int]) =
      true ∧
    equals (.union .named [.builtin .int, .noneType]) (.union .bars [.noneType, .builtin .int]) =
      true ∧
    Coincide (elementAt .empty 8 0 (.union .named [.builtin .int, .noneType]) none .root)
      (elementAt .empty 8 0 (.union .bars [.noneType, .builtin .int]) none .root) .empty ∧
    Yields (elementAt .empty 8 0 (.subscript (.direct (.builtin .tuple))
        [.union .named [.builtin .int, .noneType], .union .bars [.noneType, .builtin .int]]) none
        .root) .empty (.array (.leaf .integer none) none none) .empty ∧
    ∃ e, Throws (elementAt .empty 8 0 (.subscript (.direct (.builtin .tuple))
      [.builtin .int, .builtin .str]) none .root) .empty e := by
  have hequal : equals (.union .named [.builtin .int, .noneType])
      (.union .bars [.noneType, .builtin .int]) = true := by decide +kernel
  have hfree : ∀ style xs, (∀ x ∈ xs, ∃ b, x = TypeExpr.builtin b) →
      ¬AppliesToItself (.union style xs) := by
    rintro style xs hxs (hself | ⟨hp, h⟩)
    · exact absurd hself nofun
    · obtain ⟨b, rfl⟩ := hxs _ hp
      rcases h with hself | ⟨hp, -⟩
      · exact absurd hself nofun
      · exact absurd hp List.not_mem_nil
  obtain ⟨hcoincide, hsame, htuple, hthrows⟩ := elementAt_coincide .empty
  have hsame' := hsame _ _ (hfree _ _ (by simp [noneType])) (hfree _ _ (by simp [noneType])) hequal
  exact ⟨hsame', hequal,
    hcoincide _ _ (by decide +kernel) (by decide +kernel) hsame' 8 0 none .root .empty,
    (htuple _ (by simp [tupleHeads]) _ _ (by decide +kernel) (by simpa using hsame') _
      (List.mem_cons_of_mem _ (List.mem_singleton_self _)) 8 0 none .root .empty _ _).mpr
      ⟨by decide, .leaf .integer none, rfl, rfl⟩,
    hthrows _ (by simp [tupleHeads]) _ _ (by simp [TypeExpr.builtin])
      ⟨.builtin .str, List.mem_singleton_self _, by decide +kernel⟩ 8 0 none .root .empty⟩

end Compile

namespace Catalog

/-- Boxes are generic and have a size. -/
def boxes : Catalog :=
  { empty with
    classes := [{ plainInfo 0 "Box" with
      bases := [.builtin .generic], mro := [.declared 0, .builtin .generic, .builtin .object]
      params := [⟨0, "T", mainModule⟩], isGeneric := true
      annotations := [("size", .builtin .int)] }] }

/-- Boxes of boxes and described boxes are equal and not the same. They come to different nodes, and
the tuple of the two comes to an array of the first. -/
theorem build_tuple_unequal :
    TypeExpr.equals (.subscript (.generic (.declared 0)) [.cls (.declared 0) []])
      (.annotated (.cls (.declared 0) []) [.description 0 "A box"]) = true ∧
    TypeExpr.same (.subscript (.generic (.declared 0)) [.cls (.declared 0) []])
      (.annotated (.cls (.declared 0) []) [.description 0 "A box"]) = false ∧
    boxes.build 8 (.subscript (.generic (.declared 0)) [.cls (.declared 0) []]) =
      .ok (.object [("size", .leaf .integer none)] (some ["size"]) none none) ∧
    boxes.build 8 (.annotated (.cls (.declared 0) []) [.description 0 "A box"]) =
      .ok (.object [("size", .leaf .integer none)] (some ["size"]) (some (.string "A box")) none) ∧
    boxes.build 8 (.subscript (.direct (.builtin .tuple))
        [.subscript (.generic (.declared 0)) [.cls (.declared 0) []],
         .annotated (.cls (.declared 0) []) [.description 0 "A box"]]) =
      .ok (.array (.object [("size", .leaf .integer none)] (some ["size"]) none none) none
        none) := by
  refine ⟨?_, ?_, ?_, ?_, ?_⟩ <;> with_unfolding_all rfl

end Catalog

end TypeSchema
