import Mathlib.Data.List.Forall2
import TypeSchema.Typing.Union
/-!
# Equality of type expressions as a relation

Both equalities of type expressions compare a label and then parts, which stand in a row or form a
set. `TypeExpr.label?` and `TypeExpr.parts` take a type expression apart in this way, once for all
constructors, and `same_iff` and `equals_iff` say what the two equalities are in these terms. From
there it follows that `same` is symmetric and transitive (`same_symm`, `same_trans`), and that
`equals` does not tell apart what is the same (`equals_congr`). Neither is reflexive, since a number
that is undefined equals nothing.

What is the same is equal (`equals_of_same`), and the converse holds unless a class is applied to
itself (`same_of_equals`).
-/

namespace TypeSchema.TypeExpr

/-! ## Labels and parts -/

/-- What is compared as data, unless it is a number that equals nothing. -/
def label? : TypeExpr → Option TypeExpr
  | subscript g _ => some (subscript g.asWritten [])
  | literal _ => some (literal [])
  | union _ _ => some (union .named [])
  | annotated _ _ => some (annotated noneType [])
  | initVar m _ => some (initVar m noneType)
  | unpacked _ => some (unpacked noneType)
  | forwardRef s m _ => some (forwardRef s m false)
  | constant c => c.reduced?.map constant
  | group g _ => some (group g [])
  | member i a _ => some (member i a noneType)
  | method _ a => some (method noneType a)
  | object (some m) _ _ => some (object (some m) (.builtin .object) [])
  | object none i _ => some (object none i [])
  | cls i xs => some (cls i xs)
  | form f => some (form f)
  | typingName a => some (typingName a)
  | typeVar v => some (typeVar v)
  | newType v => some (newType v)
  | description m s => some (description m s)
  | fieldReader n => some (fieldReader n)
  | function a => some (function a)
  | closure n => some (closure n)
  | module a => some (module a)

/-- What is compared as type expressions. -/
def parts : TypeExpr → List TypeExpr
  | subscript _ xs | literal xs | union _ xs | group _ xs | object none _ xs => xs
  | annotated x m => x :: m
  | unpacked x | method x _ => [x]
  | _ => []

/-- How parts are compared. -/
inductive Arrangement where
  | row
  | set
  /-- A set of values that are told apart by their classes. -/
  | values

/-- How the parts of a type expression with a label are compared. -/
def arrangement : TypeExpr → Arrangement
  | literal _ => .values
  | union _ _ | group .set _ | group .dict _ => .set
  | _ => .row

/-- The parts of two type expressions correspond. Those in a row are related by `r` one by one, and
each of a set is the same as one of the other. -/
def Arrangement.Relates (r : TypeExpr → TypeExpr → Prop) :
    Arrangement → List TypeExpr → List TypeExpr → Prop
  | row, xs, ys => List.Forall₂ r xs ys
  | set, xs, ys =>
    (∀ x ∈ xs, ∃ y ∈ ys, same x y = true) ∧ ∀ y ∈ ys, ∃ x ∈ xs, same x y = true
  | values, xs, ys =>
    (∀ x ∈ xs, ∃ y ∈ ys, same x y = true ∧ sameClass x y = true) ∧
      ∀ y ∈ ys, ∃ x ∈ xs, same x y = true ∧ sameClass x y = true

/-- Two type expressions have the same label and parts that correspond. -/
def Alike (r : TypeExpr → TypeExpr → Prop) (x y : TypeExpr) : Prop :=
  ∃ l, x.label? = some l ∧ y.label? = some l ∧ l.arrangement.Relates r x.parts y.parts

theorem sameList_iff {xs ys : List TypeExpr} :
    sameList xs ys = true ↔ List.Forall₂ (fun x y => same x y = true) xs ys := by
  induction xs generalizing ys with
  | nil => cases ys <;> simp [sameList]
  | cons x xs ih => cases ys <;> simp [sameList, ih]

theorem equalsList_iff {xs ys : List TypeExpr} :
    equalsList xs ys = true ↔ List.Forall₂ (fun x y => equals x y = true) xs ys := by
  induction xs generalizing ys with
  | nil => cases ys <;> simp [equalsList]
  | cons x xs ih => cases ys <;> simp [equalsList, ih]

theorem allIn_iff {xs ys : List TypeExpr} :
    allIn xs ys = true ↔ ∀ x ∈ xs, ∃ y ∈ ys, same x y = true := by
  induction xs with
  | nil => simp [allIn]
  | cons x xs ih => simp [allIn, ih]

theorem anySame_iff {xs : List TypeExpr} {y : TypeExpr} :
    anySame xs y = true ↔ ∃ x ∈ xs, same x y = true := by
  induction xs with
  | nil => simp [anySame]
  | cons x xs ih => simp [anySame, ih]

theorem allValuesIn_iff {xs ys : List TypeExpr} :
    allValuesIn xs ys = true ↔ ∀ x ∈ xs, ∃ y ∈ ys, same x y = true ∧ sameClass x y = true := by
  induction xs with
  | nil => simp [allValuesIn]
  | cons x xs ih => simp [allValuesIn, ih]

theorem anySameValue_iff {xs : List TypeExpr} {y : TypeExpr} :
    anySameValue xs y = true ↔ ∃ x ∈ xs, same x y = true ∧ sameClass x y = true := by
  induction xs with
  | nil => simp [anySameValue]
  | cons x xs ih => simp [anySameValue, ih]

theorem constant_same_iff {c d : Constant} :
    c.same d = true ↔ ∃ e, c.reduced? = some e ∧ d.reduced? = some e := by
  unfold Constant.same
  cases hc : c.reduced? with
  | none => simp
  | some e => simp [eq_comm (a := some e)]

/-- Two type expressions of one constructor. -/
inductive Twins : TypeExpr → TypeExpr → Prop
  | cls (i xs j ys) : Twins (cls i xs) (cls j ys)
  | form (f g) : Twins (form f) (form g)
  | typingName (a b) : Twins (typingName a) (typingName b)
  | subscript (g xs h ys) : Twins (subscript g xs) (subscript h ys)
  | literal (vs ws) : Twins (literal vs) (literal ws)
  | union (style xs style' ys) : Twins (union style xs) (union style' ys)
  | annotated (x m y n) : Twins (annotated x m) (annotated y n)
  | initVar (m x n y) : Twins (initVar m x) (initVar n y)
  | unpacked (x y) : Twins (unpacked x) (unpacked y)
  | forwardRef (s m d s' m' d') : Twins (forwardRef s m d) (forwardRef s' m' d')
  | typeVar (v w) : Twins (typeVar v) (typeVar w)
  | newType (v w) : Twins (newType v) (newType w)
  | constant (c d) : Twins (constant c) (constant d)
  | group (g xs h ys) : Twins (group g xs) (group h ys)
  | member (i a x j b y) : Twins (member i a x) (member j b y)
  | description (m s n t) : Twins (description m s) (description n t)
  | fieldReader (m n) : Twins (fieldReader m) (fieldReader n)
  | function (a b) : Twins (function a) (function b)
  | closure (m n) : Twins (closure m) (closure n)
  | method (x a y b) : Twins (method x a) (method y b)
  | module (a b) : Twins (module a) (module b)
  | object (m i xs n j ys) : Twins (object m i xs) (object n j ys)

theorem twins_of_ctorIdx {x y : TypeExpr} (h : x.ctorIdx = y.ctorIdx) : Twins x y := by
  cases x <;> cases y <;> cases h <;> constructor

/-- A label has the constructor of what it is the label of. -/
theorem ctorIdx_of_label? {x l : TypeExpr} (h : x.label? = some l) : l.ctorIdx = x.ctorIdx := by
  cases x with
  | constant c =>
      obtain ⟨d, -, rfl⟩ := Option.map_eq_some_iff.mp h
      rfl
  | object n i xs => cases n <;> obtain rfl := Option.some.inj h <;> rfl
  | _ =>
      obtain rfl := Option.some.inj h
      rfl

theorem Alike.twins {r : TypeExpr → TypeExpr → Prop} {x y : TypeExpr} (h : Alike r x y) :
    Twins x y := by
  obtain ⟨l, hx, hy, -⟩ := h
  exact twins_of_ctorIdx ((ctorIdx_of_label? hx).symm.trans (ctorIdx_of_label? hy))

theorem alike_of_same {x y : TypeExpr} (h : same x y = true) :
    Alike (fun a b => same a b = true) x y := by
  revert h
  fun_cases same x y <;> intro h
  -- Groups that are neither sets nor dictionaries.
  case case16 g xs g' ys hset hdict =>
    obtain ⟨hg, hparts⟩ := Bool.and_eq_true_iff.mp h
    obtain rfl := beq_iff_eq.mp hg
    refine ⟨_, rfl, rfl, ?_⟩
    cases g with
    | set => exact absurd rfl (hset rfl)
    | dict => exact absurd rfl (hdict rfl)
    | tuple | list => exact sameList_iff.mp hparts
  all_goals
    simp_all [Alike, label?, parts, arrangement, Arrangement.Relates, sameList_iff, allIn_iff,
      anySame_iff, allValuesIn_iff, anySameValue_iff, constant_same_iff]

theorem same_of_alike {x y : TypeExpr} (h : Alike (fun a b => same a b = true) x y) :
    same x y = true := by
  have htwins := h.twins
  obtain ⟨l, hx, hy, hparts⟩ := h
  cases htwins
  case constant c d =>
    obtain ⟨e, hc, rfl⟩ := Option.map_eq_some_iff.mp hx
    obtain ⟨e', hd, he⟩ := Option.map_eq_some_iff.mp hy
    obtain rfl := TypeExpr.constant.inj he
    rw [same]
    exact constant_same_iff.mpr ⟨_, hc, hd⟩
  case group g xs g' ys =>
    obtain rfl := Option.some.inj hx
    obtain ⟨rfl, -⟩ := TypeExpr.group.inj (Option.some.inj hy)
    cases g' <;>
      simp_all [same, parts, arrangement, Arrangement.Relates, sameList_iff, allIn_iff, anySame_iff]
  case object n i xs n' j ys =>
    cases n <;> cases n' <;> obtain rfl := Option.some.inj hx <;>
      simp_all [same, label?, parts, arrangement, Arrangement.Relates, sameList_iff]
  all_goals
    obtain rfl := Option.some.inj hx
    have hlabel := Option.some.inj hy
    rw [same]
    simp_all [parts, arrangement, Arrangement.Relates, sameList_iff, allIn_iff, anySame_iff,
      allValuesIn_iff, anySameValue_iff]

theorem same_iff {x y : TypeExpr} :
    same x y = true ↔ Alike (fun a b => same a b = true) x y :=
  ⟨alike_of_same, same_of_alike⟩

/-- The first type expression is a class applied to itself, and the second the class annotated. -/
def IsSelfAnnotated (x y : TypeExpr) : Prop :=
  ∃ c m, selfApplied? x = some c ∧ y = annotated c m

theorem alike_of_equals {x y : TypeExpr} (h : equals x y = true) :
    Alike (fun a b => equals a b = true) x y ∨ IsSelfAnnotated x y ∨ IsSelfAnnotated y x := by
  revert h
  fun_cases equals x y <;> intro h
  case case3 g xs y m => exact .inr (.inl ⟨y, m, beq_iff_eq.mp h, rfl⟩)
  case case4 x m g ys => exact .inr (.inr ⟨x, m, beq_iff_eq.mp h, rfl⟩)
  -- The rest is compared as `same` does, and has no parts in a row.
  case case10 hsubscript hannotated hself hself' hunpacked htuple hlist hmethod hobject =>
    obtain ⟨l, hx, hy, hparts⟩ := alike_of_same h
    have htwins := (alike_of_same h).twins
    refine .inl ⟨l, hx, hy, ?_⟩
    cases htwins
    case subscript => exact (hsubscript _ _ _ _ rfl rfl).elim
    case annotated => exact (hannotated _ _ _ _ rfl rfl).elim
    case unpacked => exact (hunpacked _ _ rfl rfl).elim
    case method => exact (hmethod _ _ _ _ rfl rfl).elim
    case group g _ g' _ =>
      obtain rfl := Option.some.inj hx
      obtain ⟨rfl, -⟩ := TypeExpr.group.inj (Option.some.inj hy)
      cases g' with
      | tuple => exact (htuple _ _ rfl rfl).elim
      | list => exact (hlist _ _ rfl rfl).elim
      | set | dict => exact hparts
    case object n _ _ n' _ _ =>
      cases n <;> cases n' <;> obtain rfl := Option.some.inj hx
      case none.none => exact (hobject _ _ _ _ rfl rfl).elim
      case some.some => exact .nil
      all_goals simp [label?] at hy
    case constant =>
      obtain ⟨e, -, rfl⟩ := Option.map_eq_some_iff.mp hx
      exact .nil
    all_goals
      obtain rfl := Option.some.inj hx
      first | exact .nil | exact hparts
  all_goals
    refine .inl ?_
    simp_all [Alike, label?, parts, arrangement, Arrangement.Relates, equalsList_iff]

theorem equals_of_alike {x y : TypeExpr} (h : Alike (fun a b => equals a b = true) x y) :
    equals x y = true := by
  have htwins := h.twins
  obtain ⟨l, hx, hy, hparts⟩ := h
  cases htwins
  case subscript | annotated | unpacked | method =>
    obtain rfl := Option.some.inj hx
    have hlabel := Option.some.inj hy
    rw [equals]
    simp_all [parts, arrangement, Arrangement.Relates, equalsList_iff]
  case group g xs g' ys =>
    obtain rfl := Option.some.inj hx
    obtain ⟨rfl, -⟩ := TypeExpr.group.inj (Option.some.inj hy)
    cases g' <;>
      simp_all [equals, same, parts, arrangement, Arrangement.Relates, equalsList_iff, allIn_iff,
        anySame_iff]
  case object n i xs n' j ys =>
    cases n <;> cases n' <;> obtain rfl := Option.some.inj hx <;>
      simp_all [equals, same, label?, parts, arrangement, Arrangement.Relates, equalsList_iff]
  case constant =>
    obtain ⟨e, -, rfl⟩ := Option.map_eq_some_iff.mp hx
    rw [equals]
    · exact same_of_alike ⟨_, hx, hy, .nil⟩
    all_goals simp
  -- The rest is compared as `same` does, and has no parts in a row.
  all_goals
    obtain rfl := Option.some.inj hx
    rw [equals]
    · first | exact same_of_alike ⟨_, rfl, hy, .nil⟩ | exact same_of_alike ⟨_, rfl, hy, hparts⟩
    all_goals simp

/-- What `equals` compares: as `same` does, but for a class that is applied to itself. -/
theorem equals_iff {x y : TypeExpr} :
    equals x y = true ↔
      Alike (fun a b => equals a b = true) x y ∨ IsSelfAnnotated x y ∨ IsSelfAnnotated y x := by
  refine ⟨alike_of_equals, ?_⟩
  rintro (h | ⟨c, m, hx, rfl⟩ | ⟨c, m, hy, rfl⟩)
  · exact equals_of_alike h
  · cases x with
    | subscript g xs => simpa [equals] using hx
    | _ => simp [selfApplied?] at hx
  · cases y with
    | subscript g ys => simpa [equals] using hy
    | _ => simp [selfApplied?] at hy

/-! ## Equality by its first argument -/

theorem same_cls_iff {i : ClassId} {xs : List TypeExpr} {t : TypeExpr} :
    same (cls i xs) t = true ↔ t = cls i xs := by
  constructor
  · intro h
    cases (alike_of_same h).twins
    rw [same, Bool.and_eq_true_iff, beq_iff_eq, beq_iff_eq] at h
    rw [h.1, h.2]
  · rintro rfl
    rw [same, Bool.and_eq_true_iff, beq_iff_eq, beq_iff_eq]
    exact ⟨rfl, rfl⟩

theorem same_noneType_iff {t : TypeExpr} : same noneType t = true ↔ t = noneType := same_cls_iff

theorem same_typingName_iff {a : Alias} {t : TypeExpr} :
    same (typingName a) t = true ↔ t = typingName a := by
  constructor
  · intro h
    cases (alike_of_same h).twins
    rw [same, beq_iff_eq] at h
    rw [h]
  · rintro rfl
    rw [same, beq_iff_eq]

theorem same_subscript_iff {g : Head} {xs : List TypeExpr} {t : TypeExpr} :
    same (subscript g xs) t = true ↔ ∃ h ys, t = subscript h ys ∧ g.asWritten = h.asWritten ∧
      List.Forall₂ (fun x y => same x y = true) xs ys := by
  constructor
  · intro h
    cases (alike_of_same h).twins
    rw [same, Bool.and_eq_true_iff, beq_iff_eq, sameList_iff] at h
    exact ⟨_, _, rfl, h⟩
  · rintro ⟨h, ys, rfl, hparts⟩
    rw [same, Bool.and_eq_true_iff, beq_iff_eq, sameList_iff]
    exact hparts

theorem same_union_iff {style : UnionStyle} {xs : List TypeExpr} {t : TypeExpr} :
    same (union style xs) t = true ↔ ∃ style' ys, t = union style' ys ∧
      (∀ x ∈ xs, ∃ y ∈ ys, same x y = true) ∧ ∀ y ∈ ys, ∃ x ∈ xs, same x y = true := by
  constructor
  · intro h
    cases (alike_of_same h).twins
    rw [same, Bool.and_eq_true_iff, allIn_iff, List.all_eq_true] at h
    exact ⟨_, _, rfl, h.1, fun y hy => anySame_iff.mp (h.2 y hy)⟩
  · rintro ⟨style', ys, rfl, hxs, hys⟩
    rw [same, Bool.and_eq_true_iff, allIn_iff, List.all_eq_true]
    exact ⟨hxs, fun y hy => anySame_iff.mpr (hys y hy)⟩

theorem same_annotated_iff {x : TypeExpr} {m : List TypeExpr} {t : TypeExpr} :
    same (annotated x m) t = true ↔ ∃ y n, t = annotated y n ∧ same x y = true ∧
      List.Forall₂ (fun x y => same x y = true) m n := by
  constructor
  · intro h
    cases (alike_of_same h).twins
    rw [same, Bool.and_eq_true_iff, sameList_iff] at h
    exact ⟨_, _, rfl, h⟩
  · rintro ⟨y, n, rfl, hparts⟩
    rw [same, Bool.and_eq_true_iff, sameList_iff]
    exact hparts

theorem same_unpacked_iff {x t : TypeExpr} :
    same (unpacked x) t = true ↔ ∃ y, t = unpacked y ∧ same x y = true := by
  constructor
  · intro h
    cases (alike_of_same h).twins
    rw [same] at h
    exact ⟨_, rfl, h⟩
  · rintro ⟨y, rfl, h⟩
    rw [same]
    exact h

/-! ## Symmetry and transitivity -/

theorem sizeOf_lt_of_mem_parts {p x : TypeExpr} (h : p ∈ x.parts) : sizeOf p < sizeOf x := by
  cases x with
  | annotated y m =>
      rcases List.mem_cons.mp h with rfl | hm
      · simp only [annotated.sizeOf_spec]
        omega
      · have hlt := List.sizeOf_lt_of_mem hm
        simp only [annotated.sizeOf_spec]
        omega
  | unpacked y | method y _ =>
      obtain rfl := List.mem_singleton.mp h
      simp only [unpacked.sizeOf_spec, method.sizeOf_spec]
      omega
  | subscript _ xs | literal xs | union _ xs | group _ xs =>
      have hlt := List.sizeOf_lt_of_mem (show p ∈ xs from h)
      simp only [subscript.sizeOf_spec, literal.sizeOf_spec, union.sizeOf_spec, group.sizeOf_spec]
      omega
  | object n _ xs =>
      cases n with
      | none =>
          have hlt := List.sizeOf_lt_of_mem (show p ∈ xs from h)
          simp only [object.sizeOf_spec]
          omega
      | some n => simp [parts] at h
  | _ => simp [parts] at h

theorem sameClass_comm (x y : TypeExpr) : sameClass x y = sameClass y x := by
  cases x <;> cases y <;> first | rfl | exact Bool.beq_comm

theorem sameClass_trans {x y z : TypeExpr} (hxy : same x y = true) (hyz : same y z = true)
    (h : sameClass x y = true) (h' : sameClass y z = true) : sameClass x z = true := by
  cases x with
  | constant c =>
      cases y with
      | constant d =>
          cases z with
          | constant e => simp_all [sameClass]
          | _ => rfl
      | _ => simp [same] at hxy
  | _ => rfl

section Relates

variable {a : Arrangement} {xs ys zs : List TypeExpr}

theorem Arrangement.Relates.symm (ih : ∀ x ∈ xs, ∀ y, same x y = true → same y x = true)
    (h : a.Relates (fun x y => same x y = true) xs ys) :
    a.Relates (fun x y => same x y = true) ys xs := by
  cases a with
  | row =>
      refine List.Forall₂.flip (((List.forall₂_and_left _ _).mpr ⟨ih, h⟩).imp ?_)
      exact fun x y hxy => hxy.1 y hxy.2
  | set =>
      obtain ⟨hxs, hys⟩ := h
      refine ⟨fun y hy => ?_, fun x hx => ?_⟩
      · obtain ⟨x, hx, hxy⟩ := hys y hy
        exact ⟨x, hx, ih x hx y hxy⟩
      · obtain ⟨y, hy, hxy⟩ := hxs x hx
        exact ⟨y, hy, ih x hx y hxy⟩
  | values =>
      obtain ⟨hxs, hys⟩ := h
      refine ⟨fun y hy => ?_, fun x hx => ?_⟩
      · obtain ⟨x, hx, hxy, hclass⟩ := hys y hy
        exact ⟨x, hx, ih x hx y hxy, sameClass_comm x y ▸ hclass⟩
      · obtain ⟨y, hy, hxy, hclass⟩ := hxs x hx
        exact ⟨y, hy, ih x hx y hxy, sameClass_comm x y ▸ hclass⟩

theorem forall₂_trans {r r' r'' : TypeExpr → TypeExpr → Prop} (h : List.Forall₂ r xs ys)
    (h' : List.Forall₂ r' ys zs) (ih : ∀ x ∈ xs, ∀ y z, r x y → r' y z → r'' x z) :
    List.Forall₂ r'' xs zs := by
  induction h generalizing zs with
  | nil =>
      cases h'
      exact .nil
  | cons hxy _ ihs =>
      cases h' with
      | cons hyz hrest =>
          exact .cons (ih _ List.mem_cons_self _ _ hxy hyz)
            (ihs hrest fun x hx => ih x (List.mem_cons_of_mem _ hx))

theorem Arrangement.Relates.trans
    (ih : ∀ x ∈ xs, ∀ y z, same x y = true → same y z = true → same x z = true)
    (h : a.Relates (fun x y => same x y = true) xs ys)
    (h' : a.Relates (fun x y => same x y = true) ys zs) :
    a.Relates (fun x y => same x y = true) xs zs := by
  cases a with
  | row => exact forall₂_trans h h' ih
  | set =>
      refine ⟨fun x hx => ?_, fun z hz => ?_⟩
      · obtain ⟨y, hy, hxy⟩ := h.1 x hx
        obtain ⟨z, hz, hyz⟩ := h'.1 y hy
        exact ⟨z, hz, ih x hx y z hxy hyz⟩
      · obtain ⟨y, hy, hyz⟩ := h'.2 z hz
        obtain ⟨x, hx, hxy⟩ := h.2 y hy
        exact ⟨x, hx, ih x hx y z hxy hyz⟩
  | values =>
      refine ⟨fun x hx => ?_, fun z hz => ?_⟩
      · obtain ⟨y, hy, hxy, hclass⟩ := h.1 x hx
        obtain ⟨z, hz, hyz, hclass'⟩ := h'.1 y hy
        exact ⟨z, hz, ih x hx y z hxy hyz, sameClass_trans hxy hyz hclass hclass'⟩
      · obtain ⟨y, hy, hyz, hclass'⟩ := h'.2 z hz
        obtain ⟨x, hx, hxy, hclass⟩ := h.2 y hy
        exact ⟨x, hx, ih x hx y z hxy hyz, sameClass_trans hxy hyz hclass hclass'⟩

end Relates

theorem same_symm {x y : TypeExpr} (h : same x y = true) : same y x = true := by
  induction hsize : sizeOf x using Nat.strongRecOn generalizing x y with
  | ind size ih =>
      obtain ⟨l, hx, hy, hparts⟩ := alike_of_same h
      refine same_of_alike ⟨l, hy, hx, hparts.symm fun p hp q hpq => ?_⟩
      exact ih _ (hsize ▸ sizeOf_lt_of_mem_parts hp) hpq rfl

theorem same_trans {x y z : TypeExpr} (h : same x y = true) (h' : same y z = true) :
    same x z = true := by
  induction hsize : sizeOf x using Nat.strongRecOn generalizing x y z with
  | ind size ih =>
      obtain ⟨l, hx, hy, hparts⟩ := alike_of_same h
      obtain ⟨l', hy', hz, hparts'⟩ := alike_of_same h'
      obtain rfl := Option.some.inj (hy.symm.trans hy')
      refine same_of_alike ⟨l, hx, hz, Arrangement.Relates.trans (fun p hp q r hpq hqr => ?_)
        hparts hparts'⟩
      exact ih _ (hsize ▸ sizeOf_lt_of_mem_parts hp) hpq hqr rfl

/-! ## The two equalities -/

/-- A class is applied to itself in brackets after it or after its name in `typing`. -/
theorem selfApplied?_eq_some_iff {x c : TypeExpr} : selfApplied? x = some c ↔
    ∃ head i, x = subscript head [cls i []] ∧ c = cls i [] ∧
      ((∃ a, head = .typingName a ∧ i = .builtin a.origin) ∨ head = .generic i) := by
  constructor
  · intro h
    unfold selfApplied? at h
    split at h
    · next a arg =>
      split at h
      · next heq =>
        obtain rfl := Option.some.inj h
        subst heq
        exact ⟨_, _, rfl, rfl, .inl ⟨a, rfl, rfl⟩⟩
      · exact absurd h nofun
    · next id arg =>
      split at h
      · next heq =>
        obtain rfl := Option.some.inj h
        subst heq
        exact ⟨_, _, rfl, rfl, .inr rfl⟩
      · exact absurd h nofun
    · exact absurd h nofun
  · rintro ⟨head, i, rfl, rfl, ⟨a, rfl, rfl⟩ | rfl⟩
    · exact if_pos rfl
    · exact if_pos rfl

theorem eq_singleton_of_forall₂ {i : ClassId} {ys : List TypeExpr}
    (h : List.Forall₂ (fun x y => same x y = true) [cls i []] ys) : ys = [cls i []] := by
  obtain ⟨y, rest, hy, hrest, rfl⟩ := List.forall₂_cons_left_iff.mp h
  rw [same_cls_iff.mp hy, List.forall₂_nil_left_iff.mp hrest]

/-- Only the same brackets are the same as a class applied to itself. -/
theorem selfApplied?_of_same {x y c : TypeExpr} (hc : selfApplied? x = some c)
    (h : same x y = true) : selfApplied? y = some c := by
  obtain ⟨head, i, rfl, rfl, hhead⟩ := selfApplied?_eq_some_iff.mp hc
  obtain ⟨g, ys, rfl, hg, hargs⟩ := same_subscript_iff.mp h
  obtain rfl := eq_singleton_of_forall₂ hargs
  have hsame : g = head := by
    rcases hhead with ⟨a, rfl, -⟩ | rfl
    · cases g <;> simp_all [Head.asWritten]
    · cases g <;> simp_all [Head.asWritten]
  exact hsame ▸ hc

theorem forall₂_congr {r r' : TypeExpr → TypeExpr → Prop} {xs ys xs' ys' : List TypeExpr}
    (h : List.Forall₂ r xs ys) (hx : List.Forall₂ r' xs xs') (hy : List.Forall₂ r' ys ys')
    (ih : ∀ x ∈ xs, ∀ y x' y', r x y → r' x x' → r' y y' → r x' y') :
    List.Forall₂ r xs' ys' := by
  induction h generalizing xs' ys' with
  | nil =>
      cases hx
      cases hy
      exact .nil
  | cons hxy _ ihs =>
      cases hx with
      | cons hx hxs =>
          cases hy with
          | cons hy hys =>
              exact .cons (ih _ List.mem_cons_self _ _ _ hxy hx hy)
                (ihs hxs hys fun x hx => ih x (List.mem_cons_of_mem _ hx))

/-- Parts that correspond still do when each is replaced by one that is the same. -/
theorem Arrangement.Relates.congr {a : Arrangement} {xs ys xs' ys' : List TypeExpr}
    (h : a.Relates (fun x y => equals x y = true) xs ys)
    (hx : a.Relates (fun x y => same x y = true) xs xs')
    (hy : a.Relates (fun x y => same x y = true) ys ys')
    (ih : ∀ x ∈ xs, ∀ y x' y', equals x y = true → same x x' = true → same y y' = true →
      equals x' y' = true) : a.Relates (fun x y => equals x y = true) xs' ys' := by
  cases a with
  | row => exact forall₂_congr h hx hy ih
  | set | values =>
      have hsymm := Arrangement.Relates.symm (fun _ _ _ => same_symm) hx
      have htrans := Arrangement.Relates.trans (fun _ _ _ _ => same_trans) hsymm h
      exact Arrangement.Relates.trans (fun _ _ _ _ => same_trans) htrans hy

/-- `equals` does not tell apart what is the same. -/
theorem equals_congr {x y x' y' : TypeExpr} (h : equals x y = true) (hx : same x x' = true)
    (hy : same y y' = true) : equals x' y' = true := by
  induction hsize : sizeOf x using Nat.strongRecOn generalizing x y x' y' with
  | ind size ih =>
      rcases alike_of_equals h with halike | ⟨c, m, hc, rfl⟩ | ⟨c, m, hc, rfl⟩
      -- All four have one label, and the parts of `x` are smaller.
      · obtain ⟨l, hlx, hly, hparts⟩ := halike
        obtain ⟨l', hlx', hx', hpartsx⟩ := alike_of_same hx
        obtain rfl := Option.some.inj (hlx.symm.trans hlx')
        obtain ⟨l', hly', hy', hpartsy⟩ := alike_of_same hy
        obtain rfl := Option.some.inj (hly.symm.trans hly')
        refine equals_of_alike ⟨l, hx', hy', hparts.congr hpartsx hpartsy fun p hp q p' q' => ?_⟩
        exact fun hpq hp' hq' => ih _ (hsize ▸ sizeOf_lt_of_mem_parts hp) hpq hp' hq' rfl
      -- What is the same as a class applied to itself, or annotated, still is that.
      · obtain ⟨-, i, -, rfl, -⟩ := selfApplied?_eq_some_iff.mp hc
        obtain ⟨c', m', rfl, hc', -⟩ := same_annotated_iff.mp hy
        obtain rfl := same_cls_iff.mp hc'
        exact equals_iff.mpr (.inr (.inl ⟨_, m', selfApplied?_of_same hc hx, rfl⟩))
      · obtain ⟨-, i, -, rfl, -⟩ := selfApplied?_eq_some_iff.mp hc
        obtain ⟨c', m', rfl, hc', -⟩ := same_annotated_iff.mp hx
        obtain rfl := same_cls_iff.mp hc'
        exact equals_iff.mpr (.inr (.inr ⟨_, m', selfApplied?_of_same hc hy, rfl⟩))

/-- Parts in a row that are related in one way and, one by one, in another correspond. -/
theorem Arrangement.Relates.imp_of_mem {a : Arrangement} {xs ys : List TypeExpr}
    {r r' : TypeExpr → TypeExpr → Prop} (h : a.Relates r xs ys)
    (hr : ∀ x ∈ xs, ∀ y ∈ ys, r x y → r' x y) : a.Relates r' xs ys := by
  cases a with
  | row =>
      rw [Arrangement.Relates, List.forall₂_iff_zip] at h ⊢
      refine ⟨h.1, fun hmem => hr _ (List.of_mem_zip hmem).1 _ (List.of_mem_zip hmem).2 (h.2 hmem)⟩
  | set | values => exact h

/-- Somewhere in a type expression a class is applied to itself. -/
inductive AppliesToItself : TypeExpr → Prop
  | here {t c} : selfApplied? t = some c → AppliesToItself t
  | part {t p} : p ∈ t.parts → AppliesToItself p → AppliesToItself t

/-- What is the same is equal. -/
theorem equals_of_same {x y : TypeExpr} (h : same x y = true) : equals x y = true := by
  induction hsize : sizeOf x using Nat.strongRecOn generalizing x y with
  | ind size ih =>
      obtain ⟨l, hx, hy, hparts⟩ := alike_of_same h
      refine equals_of_alike ⟨l, hx, hy, hparts.imp_of_mem fun p hp q _ hpq => ?_⟩
      exact ih _ (hsize ▸ sizeOf_lt_of_mem_parts hp) hpq rfl

/-- What is equal is the same where no class is applied to itself. -/
theorem same_of_equals {x y : TypeExpr} (h : equals x y = true) (hx : ¬AppliesToItself x)
    (hy : ¬AppliesToItself y) : same x y = true := by
  induction hsize : sizeOf x using Nat.strongRecOn generalizing x y with
  | ind size ih =>
      rcases alike_of_equals h with halike | ⟨c, m, hc, -⟩ | ⟨c, m, hc, -⟩
      · obtain ⟨l, hlx, hly, hparts⟩ := halike
        refine same_of_alike ⟨l, hlx, hly, hparts.imp_of_mem fun p hp q hq hpq => ?_⟩
        exact ih _ (hsize ▸ sizeOf_lt_of_mem_parts hp) hpq (fun h => hx (.part hp h))
          (fun h => hy (.part hq h)) rfl
      · exact absurd (.here hc) hx
      · exact absurd (.here hc) hy

end TypeSchema.TypeExpr
