import Mathlib.Tactic.IntervalCases
import TypeSchema.Catalog.Classify
import TypeSchema.Proofs.Pointer
/-!
# The form of identifiers

The identifier of a type is derived from the digest of its qualified name. Whatever the name is, the
identifier has one form (`NameId.wellFormed_ofDigest`): thirty-six characters, dashes at four places
and lower-case hexadecimal digits elsewhere, of which one is the version and one shows the variant. So
it stands in a pointer as it is.

Six bits of a digest are lost, where the version and the variant stand. Two identifiers are the same
exactly if their digests agree on all other bits (`NameId.ofDigest_eq_iff`).
-/

namespace TypeSchema

/-! ## Hexadecimal digits -/

namespace Text

/-- A lower-case hexadecimal digit. -/
def IsHexDigit (c : Char) : Prop := ('0' ≤ c ∧ c ≤ '9') ∨ ('a' ≤ c ∧ c ≤ 'f')

instance (c : Char) : Decidable (IsHexDigit c) := inferInstanceAs (Decidable (_ ∨ _))

theorem isHexDigit_of_mem_hexDigits {c : Char} {width n : Nat} (h : c ∈ hexDigits width n) :
    IsHexDigit c :=
  forall_mem_hexDigits (by decide) c h

theorem hexDigit_inj {m n : Nat} : hexDigit m = hexDigit n ↔ m % 16 = n % 16 := by
  have hall : ∀ i < 16, ∀ j < 16, hexDigit i = hexDigit j → i = j := by decide
  refine ⟨fun h => ?_, fun h => by rw [← hexDigit_mod m, h, hexDigit_mod]⟩
  rw [← hexDigit_mod m, ← hexDigit_mod n] at h
  exact hall _ (Nat.mod_lt _ (by decide)) _ (Nat.mod_lt _ (by decide)) h

/-- The digits in a width tell apart what fits into it. -/
theorem hexDigits_inj {width m n : Nat} :
    hexDigits width m = hexDigits width n ↔ m % 16 ^ width = n % 16 ^ width := by
  induction width generalizing m n with
  | zero => simp [hexDigits, Nat.mod_one]
  | succ width ih =>
      rw [hexDigits, hexDigits, List.append_singleton_inj, ih, hexDigit_inj, Nat.pow_succ',
        Nat.mod_mul, Nat.mod_mul]
      have hm := Nat.mod_lt m (y := 16) (by decide)
      have hn := Nat.mod_lt n (y := 16) (by decide)
      omega

/-- Each digit stands for four bits. -/
theorem getElem_hexDigits {width n i : Nat} (h : i < (hexDigits width n).length) :
    (hexDigits width n)[i] = hexDigit (n / 16 ^ (width - 1 - i)) := by
  induction width generalizing n i with
  | zero => exact absurd h (Nat.not_lt_zero i)
  | succ width ih =>
      simp only [hexDigits, List.getElem_append, length_hexDigits]
      split
      · next hi =>
        have hpow : width - i = width - 1 - i + 1 := by omega
        rw [ih, Nat.div_div_eq_div_mul, ← Nat.pow_succ', Nat.add_sub_cancel, hpow]
      · next hi =>
        rw [length_hexDigits] at h
        obtain rfl : i = width := by omega
        simp

end Text

namespace NameId

/-! ## Digits and dashes -/

/-- The text of an identifier. -/
structure WellFormed (cs : List Char) : Prop where
  length : cs.length = 36
  dash_iff : ∀ i (h : i < cs.length), cs[i] = '-' ↔ i ∈ [8, 13, 18, 23]
  digit : ∀ i (h : i < cs.length), i ∉ [8, 13, 18, 23] → Text.IsHexDigit cs[i]
  version : cs[14]? = some '3'
  variant : ∃ c ∈ ['8', '9', 'a', 'b'], cs[19]? = some c

section Write

variable (id : BitVec 128)

theorem ne_dash_of_mem {c : Char} (h : c ∈ Text.hexDigits 32 id.toNat) : c ≠ '-' := by
  rintro rfl
  exact absurd (Text.isHexDigit_of_mem_hexDigits h) (by decide)

/-- A group of the digits holds nothing but digits. -/
theorem slice_subset (a b : Nat) :
    ((Text.hexDigits 32 id.toNat).drop a).take b ⊆ Text.hexDigits 32 id.toNat :=
  List.Subset.trans (List.take_subset _ _) (List.drop_subset _ _)

/-- Without its dashes an identifier is its digits. -/
theorem filter_write : (write id).filter (· ≠ '-') = Text.hexDigits 32 id.toNat := by
  have hgroup : ∀ cs ⊆ Text.hexDigits 32 id.toNat, cs.filter (· ≠ '-') = cs := fun cs hcs =>
    List.filter_eq_self.mpr fun c hc => by simpa using ne_dash_of_mem id (hcs hc)
  have hdash : ∀ cs : List Char, ('-' :: cs).filter (· ≠ '-') = cs.filter (· ≠ '-') := fun cs =>
    List.filter_cons_of_neg (by simp)
  have hjoin : ∀ (cs : List Char) a b, cs.drop a = (cs.drop a).take b ++ cs.drop (a + b) := by
    intro cs a b
    rw [← List.drop_drop, List.take_append_drop]
  simp only [write, List.filter_append, hdash, hgroup _ (slice_subset id _ _),
    hgroup _ (List.take_subset _ _), hgroup _ (List.drop_subset _ _)]
  -- The groups follow each other without gaps, so they join up from the last one on.
  rw [← hjoin _ 16 4, ← hjoin _ 12 4, ← hjoin _ 8 4, List.take_append_drop]

/-- Where the dashes of an identifier are. -/
def dashes : List Bool :=
  List.replicate 8 false ++ true :: (List.replicate 4 false ++ true :: (List.replicate 4 false ++
    true :: (List.replicate 4 false ++ true :: List.replicate 12 false)))

theorem map_write : (write id).map (· == '-') = dashes := by
  have hgroup : ∀ cs ⊆ Text.hexDigits 32 id.toNat,
      cs.map (· == '-') = List.replicate cs.length false := fun cs hcs =>
    List.map_eq_replicate_iff.mpr fun c hc => by simpa using ne_dash_of_mem id (hcs hc)
  simp only [write, List.map_append, List.map_cons, hgroup _ (slice_subset id _ _),
    hgroup _ (List.take_subset _ _), hgroup _ (List.drop_subset _ _)]
  simp [dashes]

theorem length_write : (write id).length = 36 := by
  have hlength := congrArg List.length (map_write id)
  rw [List.length_map] at hlength
  exact hlength

theorem getElem_write_eq_dash_iff {i : Nat} (h : i < (write id).length) :
    (write id)[i] = '-' ↔ i ∈ [8, 13, 18, 23] := by
  have hdashes : ∀ i < 36, dashes[i]? = some (decide (i ∈ [8, 13, 18, 23])) := by decide
  have hmap : ((write id).map (· == '-'))[i]? = some (decide (i ∈ [8, 13, 18, 23])) := by
    rw [map_write, hdashes i (length_write id ▸ h)]
  rw [List.getElem?_map, List.getElem?_eq_getElem h, Option.map_some, Option.some.injEq] at hmap
  rw [← beq_iff_eq, hmap, decide_eq_true_iff]

theorem isHexDigit_getElem_write {i : Nat} (h : i < (write id).length)
    (hi : i ∉ [8, 13, 18, 23]) : Text.IsHexDigit (write id)[i] := by
  have hne : (write id)[i] ≠ '-' := mt (getElem_write_eq_dash_iff id h).mp hi
  have hmem : (write id)[i] ∈ (write id).filter (· ≠ '-') :=
    List.mem_filter.mpr ⟨List.getElem_mem h, by simpa using hne⟩
  rw [filter_write] at hmem
  exact Text.isHexDigit_of_mem_hexDigits hmem

/-- The digit that four bits of an identifier make. -/
theorem hexDigit_extractLsb' (k : Nat) :
    Text.hexDigit (id.extractLsb' (4 * k) 4).toNat = Text.hexDigit (id.toNat / 16 ^ k) := by
  have hpow : 2 ^ (4 * k) = 16 ^ k := Nat.pow_mul 2 4 k
  rw [BitVec.extractLsb'_toNat, Nat.shiftRight_eq_div_pow, hpow]
  exact Text.hexDigit_mod _

theorem getElem?_write_version :
    (write id)[14]? = some (Text.hexDigit (id.extractLsb' 76 4).toNat) := by
  have hdigit : (write id)[14]? = some (Text.hexDigit (id.toNat / 16 ^ 19)) := by
    simp [write, Text.getElem_hexDigits, -Nat.reducePow]
  rw [hdigit]
  exact congrArg some (hexDigit_extractLsb' id _).symm

theorem getElem?_write_variant :
    (write id)[19]? = some (Text.hexDigit (id.extractLsb' 60 4).toNat) := by
  have hdigit : (write id)[19]? = some (Text.hexDigit (id.toNat / 16 ^ 15)) := by
    simp [write, Text.getElem_hexDigits, -Nat.reducePow]
  rw [hdigit]
  exact congrArg some (hexDigit_extractLsb' id _).symm

end Write

theorem write_inj {id id' : BitVec 128} : write id = write id' ↔ id = id' := by
  refine ⟨fun h => ?_, congrArg write⟩
  have hdigits : Text.hexDigits 32 id.toNat = Text.hexDigits 32 id'.toNat := by
    rw [← filter_write, ← filter_write, h]
  have hmod := Text.hexDigits_inj.mp hdigits
  exact BitVec.eq_of_toNat_eq
    ((Nat.mod_eq_of_lt id.isLt).symm.trans (hmod.trans (Nat.mod_eq_of_lt id'.isLt)))

/-! ## The stamp -/

/-- The places of the version and of the variant among the bits, counted from the first. -/
def reservedPlaces : List Nat := [48, 49, 50, 51, 64, 65]

theorem getMsbD_reserved : ∀ i < 128, reserved.getMsbD i = decide (i ∈ reservedPlaces) := by decide

theorem getMsbD_version3 : ∀ i < 128, version3.getMsbD i = decide (i ∈ [50, 51, 64]) := by decide

/-- The reserved bits do not depend on the digest, and the others are those of the digest. -/
theorem getMsbD_stamp (digest : BitVec 128) {i : Nat} (hi : i < 128) : (stamp digest).getMsbD i =
    if i ∈ reservedPlaces then decide (i ∈ [50, 51, 64]) else digest.getMsbD i := by
  have hplaces : i ∈ [50, 51, 64] → i ∈ reservedPlaces := by
    simp only [reservedPlaces, List.mem_cons, List.not_mem_nil, or_false]
    omega
  simp only [stamp, BitVec.getMsbD_or, BitVec.getMsbD_and, BitVec.getMsbD_not,
    getMsbD_reserved i hi, getMsbD_version3 i hi]
  by_cases h : i ∈ reservedPlaces
  · simp [h]
  · simp [h, hi, mt hplaces h]

theorem extractLsb'_stamp_version (digest : BitVec 128) :
    (stamp digest).extractLsb' 76 4 = 3#4 := by
  ext i hi
  rw [BitVec.getElem_extractLsb', BitVec.getLsbD_eq_getMsbD, getMsbD_stamp _ (by omega)]
  interval_cases i <;> simp [reservedPlaces]

theorem extractLsb'_stamp_variant (digest : BitVec 128) :
    (stamp digest).extractLsb' 60 4 = 2#2 ++ digest.extractLsb' 60 2 := by
  refine BitVec.eq_of_getLsbD_eq fun i hi => ?_
  rw [BitVec.getLsbD_extractLsb', BitVec.getLsbD_append, BitVec.getLsbD_extractLsb',
    BitVec.getLsbD_eq_getMsbD, BitVec.getLsbD_eq_getMsbD, getMsbD_stamp _ (by omega)]
  interval_cases i <;> simp [reservedPlaces]

theorem stamp_eq_iff {digest digest' : BitVec 128} : stamp digest = stamp digest' ↔
    ∀ i < 128, i ∉ reservedPlaces → digest.getMsbD i = digest'.getMsbD i := by
  constructor
  · intro h i hi hplace
    have hbit := congrArg (BitVec.getMsbD · i) h
    simpa [getMsbD_stamp _ hi, hplace] using hbit
  · intro h
    refine BitVec.eq_of_getMsbD_eq fun i hi => ?_
    rw [getMsbD_stamp _ hi, getMsbD_stamp _ hi]
    split
    · rfl
    · next hplace => exact h i hi hplace

/-! ## Identifiers of digests -/

/-- Every identifier has the form of one. -/
theorem wellFormed_ofDigest (digest : BitVec 128) : WellFormed (ofDigest digest).toList := by
  rw [ofDigest, String.toList_ofList]
  refine
    { length := length_write _
      dash_iff := fun i hi => getElem_write_eq_dash_iff _ hi
      digit := fun i hi hdash => isHexDigit_getElem_write _ hi hdash
      version := ?_
      variant := ?_ }
  · rw [getElem?_write_version, extractLsb'_stamp_version]
    rfl
  · rw [getElem?_write_variant, extractLsb'_stamp_variant]
    have hvariants : ∀ low : BitVec 2,
        Text.hexDigit (2#2 ++ low).toNat ∈ ['8', '9', 'a', 'b'] := by decide
    exact ⟨_, hvariants _, rfl⟩

/-- Identifiers are the same if the digests agree but for the reserved bits. -/
theorem ofDigest_eq_iff {digest digest' : BitVec 128} : ofDigest digest = ofDigest digest' ↔
    ∀ i < 128, i ∉ reservedPlaces → digest.getMsbD i = digest'.getMsbD i := by
  rw [ofDigest, ofDigest, String.ofList_inj, write_inj, stamp_eq_iff]

end NameId

/-! ## Identifiers of types -/

/-- A step of a pointer in its written form. -/
def Json.escape (cs : List Char) : List Char :=
  cs.flatMap fun c => if c = '~' then ['~', '0'] else if c = '/' then ['~', '1'] else [c]

theorem Json.escape_of_isPlain {cs : List Char} (h : IsPlain cs) : escape cs = cs := by
  induction cs with
  | nil => rfl
  | cons c cs ih =>
      obtain ⟨hslash, htilde⟩ := h c List.mem_cons_self
      have hrest := ih fun d hd => h d (List.mem_cons_of_mem _ hd)
      rw [escape, List.flatMap_cons, if_neg htilde, if_neg hslash]
      exact congrArg (c :: ·) hrest

namespace Catalog

/-- Whatever a type is called, its identifier has the form of one and stands in a pointer without
escapes: the pointer to its definition leads to it in two steps. Two types have the same identifier
exactly if the digests of their qualified names agree on all bits but those of the version and the
variant. -/
theorem referenceId_form (cat cat' : Catalog) (s t : TypeExpr) :
    NameId.WellFormed (cat.referenceId s).toList ∧
    Json.escape (cat.referenceId s).toList = (cat.referenceId s).toList ∧
    (∀ doc : Json, doc.resolve? (Node.referenceStart ++ cat.referenceId s) =
      (doc.step? "$defs").bind (Json.step? (cat.referenceId s))) ∧
    (cat.referenceId s = cat'.referenceId t ↔ ∀ i < 128, i ∉ [48, 49, 50, 51, 64, 65] →
      (Md5.digest (cat.qualifiedName s).toUTF8.toList).getMsbD i =
        (Md5.digest (cat'.qualifiedName t).toUTF8.toList).getMsbD i) := by
  have hplain : Json.IsPlain (cat.referenceId s).toList := NameId.isPlain_ofName _
  exact ⟨NameId.wellFormed_ofDigest _, Json.escape_of_isPlain hplain,
    fun doc => Json.resolve?_reference hplain, NameId.ofDigest_eq_iff⟩

end Catalog

end TypeSchema
