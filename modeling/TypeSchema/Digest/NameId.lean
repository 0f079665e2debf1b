import TypeSchema.Digest.Md5
import TypeSchema.Text.Hex
/-!
# Identifiers derived from names

A *name id* is a universally unique identifier of version 3: a digest of 128 bits in which
four bits say the version and two bits the variant, written as five groups of hexadecimal
digits. The same name always has the same id, and ids need no escaping in a pointer.
-/

namespace TypeSchema.NameId

/-- The six bits that do not come from the digest: four for the version, two for the variant. -/
def reserved : BitVec 128 := (0xf000#128 <<< 64) ||| (0xc000#128 <<< 48)

/-- What the reserved bits hold: version 3 and the standard variant. -/
def version3 : BitVec 128 := (0x3000#128 <<< 64) ||| (0x8000#128 <<< 48)

/-- The digest with its reserved bits set. -/
def stamp (digest : BitVec 128) : BitVec 128 :=
  (digest &&& ~~~reserved) ||| version3

/-- The thirty-two hexadecimal digits of an identifier, in groups of 8, 4, 4, 4 and 12. -/
def write (id : BitVec 128) : List Char :=
  let digits := Text.hexDigits 32 id.toNat
  digits.take 8 ++ '-' :: ((digits.drop 8).take 4 ++ '-' :: ((digits.drop 12).take 4 ++
    '-' :: ((digits.drop 16).take 4 ++ '-' :: digits.drop 20)))

/-- What holds of all digits and of the dash holds of an identifier. -/
theorem forall_mem_write {P : Char → Prop} (h : ∀ d < 16, P (Text.hexDigit d)) (hdash : P '-')
    {id : BitVec 128} : ∀ c ∈ write id, P c := by
  have hdigits : ∀ c ∈ Text.hexDigits 32 id.toNat, P c := Text.forall_mem_hexDigits h
  have htake {cs : List Char} (hcs : ∀ c ∈ cs, P c) (k : Nat) : ∀ c ∈ cs.take k, P c :=
    fun c hc => hcs c (List.mem_of_mem_take hc)
  have hdrop (k : Nat) : ∀ c ∈ (Text.hexDigits 32 id.toNat).drop k, P c :=
    fun c hc => hdigits c (List.mem_of_mem_drop hc)
  simp only [write, List.forall_mem_append, List.forall_mem_cons]
  exact ⟨htake hdigits 8, hdash, htake (hdrop 8) 4, hdash, htake (hdrop 12) 4, hdash,
    htake (hdrop 16) 4, hdash, hdrop 20⟩

/-- The identifier of a digest, as text. -/
def ofDigest (digest : BitVec 128) : String :=
  String.ofList (write (stamp digest))

/-- The identifier of a name: the digest of its UTF-8 bytes, stamped. -/
def ofName (name : String) : String :=
  ofDigest (Md5.digest name.toUTF8.toList)

end TypeSchema.NameId
