import Mathlib.Tactic.Common
import TypeSchema.Digest.NameId
import TypeSchema.Node.Render
import TypeSchema.Proofs.OrderedMap
/-!
# References as pointers

The text of a reference is a number sign and a pointer into the document: a slash before every
step, a tilde for the two characters that are escaped in a step. `Json.resolve?` follows it from
the root of a document. Identifiers consist of letters, digits and dashes (`isPlain_ofName`), so a
reference to a definition reads as two steps, whatever the name is that the identifier was made
from (`resolve?_reference`).
-/

namespace TypeSchema

namespace Json

/-- The member of an object under a key. -/
def member? (key : String) : Json → Option Json
  | .object members => OrderedMap.find? key members
  | _ => none

/-- The step that an escaped step stands for. -/
def unescape : List Char → List Char
  | '~' :: '1' :: cs => '/' :: unescape cs
  | '~' :: '0' :: cs => '~' :: unescape cs
  | c :: cs => c :: unescape cs
  | [] => []

/-- One step into a document: to the member under a key, or to the item at an index. -/
def step? (token : String) : Json → Option Json
  | .array items => token.toNat?.bind fun i => if toString i = token then items[i]? else none
  | doc => doc.member? token

/-- The part of a document that a reference points to. -/
def resolve? (doc : Json) (reference : String) : Option Json :=
  match reference.toList with
  | '#' :: pointer =>
    match pointer.splitOn '/' with
    | [] :: tokens => tokens.foldlM (fun d token => d.step? (String.ofList (unescape token))) doc
    | _ => none
  | _ => none

/-- A text that is the same with and without escapes. -/
def IsPlain (cs : List Char) : Prop := ∀ c ∈ cs, c ≠ '/' ∧ c ≠ '~'

theorem unescape_of_isPlain {cs : List Char} (h : IsPlain cs) : unescape cs = cs := by
  induction cs with
  | nil => rfl
  | cons c cs ih =>
      have hc : c ≠ '~' := (h c (by simp)).2
      rw [unescape]
      · rw [ih fun c' hc' => h c' (List.mem_cons_of_mem _ hc')]
      · rintro _ rfl -
        exact hc rfl
      · rintro _ rfl -
        exact hc rfl

/-- A reference to a plain key reads as a step to the definitions and one to the key. -/
theorem resolve?_reference {doc : Json} {key : String} (h : IsPlain key.toList) :
    doc.resolve? (Node.referenceStart ++ key) = (doc.step? "$defs").bind (step? key) := by
  have htext : (Node.referenceStart ++ key).toList =
      '#' :: ([] ++ '/' :: ("$defs".toList ++ '/' :: key.toList)) := by
    simp [Node.referenceStart]
  have hkey : '/' ∉ key.toList := fun hmem => (h _ hmem).1 rfl
  have hsplit : ([] ++ '/' :: ("$defs".toList ++ '/' :: key.toList)).splitOn '/' =
      [[], "$defs".toList, key.toList] := by
    rw [List.splitOn_append_cons_self_of_not_mem (by simp),
      List.splitOn_append_cons_self_of_not_mem (by decide), List.splitOn_eq_singleton hkey]
  have hdefs : String.ofList (unescape ['$', 'd', 'e', 'f', 's']) = "$defs" := rfl
  simp only [resolve?, htext, hsplit]
  simp [unescape_of_isPlain h, hdefs]

/-- Where the keys of the definitions are distinct, a reference to a plain key leads to its
definition. -/
theorem resolve?_of_mem {doc target : Json} {defs : List (String × Json)} {key : String}
    (hdefs : doc.member? "$defs" = some (.object defs)) (hkeys : (OrderedMap.keys defs).Nodup)
    (hkey : IsPlain key.toList) (hmem : (key, target) ∈ defs) :
    doc.resolve? (Node.referenceStart ++ key) = some target := by
  have hstep : doc.step? "$defs" = some (.object defs) := by
    cases doc with
    | array items => simp [member?] at hdefs
    | _ => exact hdefs
  rw [resolve?_reference hkey, hstep]
  exact OrderedMap.find?_of_mem hkeys hmem

end Json

/-! ## Identifiers need no escapes -/

theorem NameId.isPlain_ofName (name : String) : Json.IsPlain (NameId.ofName name).toList := by
  rw [NameId.ofName, NameId.ofDigest, String.toList_ofList]
  exact NameId.forall_mem_write (by decide) (by decide)

end TypeSchema
