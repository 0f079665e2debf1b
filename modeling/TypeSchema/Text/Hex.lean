/-!
# Hexadecimal digits

Lower-case hexadecimal digits of natural numbers in a fixed width, as escapes and
identifiers write them.
-/

namespace TypeSchema.Text

/-- The lower-case hexadecimal digit of `n`; only `n % 16` counts. -/
def hexDigit (n : Nat) : Char :=
  match n % 16 with
  | 0 => '0' | 1 => '1' | 2 => '2' | 3 => '3'
  | 4 => '4' | 5 => '5' | 6 => '6' | 7 => '7'
  | 8 => '8' | 9 => '9' | 10 => 'a' | 11 => 'b'
  | 12 => 'c' | 13 => 'd' | 14 => 'e' | _ => 'f'

/-- The last `width` hexadecimal digits of `n`, most significant first. -/
def hexDigits : (width n : Nat) → List Char
  | 0, _ => []
  | width + 1, n => hexDigits width (n / 16) ++ [hexDigit n]

@[simp] theorem length_hexDigits (width n : Nat) : (hexDigits width n).length = width := by
  induction width generalizing n with
  | zero => rfl
  | succ width ih => simp [hexDigits, ih]

theorem hexDigit_mod (n : Nat) : hexDigit (n % 16) = hexDigit n := by
  simp only [hexDigit, Nat.mod_mod]

/-- What holds of all sixteen digits holds of the digits of a number. -/
theorem forall_mem_hexDigits {P : Char → Prop} (h : ∀ d < 16, P (hexDigit d)) {width n : Nat} :
    ∀ c ∈ hexDigits width n, P c := by
  induction width generalizing n with
  | zero => exact fun c hc => absurd hc List.not_mem_nil
  | succ width ih =>
      intro c hc
      rw [hexDigits, List.mem_append, List.mem_singleton] at hc
      rcases hc with hc | rfl
      · exact ih c hc
      · rw [← hexDigit_mod]
        exact h _ (Nat.mod_lt _ (by decide))

end TypeSchema.Text
