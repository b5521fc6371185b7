import Mathlib
import AgentFirstMail.Data.Trims

namespace Text

theorem toLower_toLower (c : Char) : c.toLower.toLower = c.toLower := by
  apply Char.toLower_eq_of_not_isUpper
  rw [Char.isUpper_toLower_eq_false]
  exact Bool.false_ne_true

theorem isWhitespace_toLower (c : Char) : isWhitespace c.toLower = isWhitespace c := by
  by_cases hupper : c.isUpper = true
  · have hrange : 65 ≤ c.toNat ∧ c.toNat ≤ 90 := by
      simpa [Char.isUpper, UInt32.le_iff_toNat_le] using hupper
    have hlower : c.toLower.toNat = c.toNat + 32 := by
      rw [Char.toLower_eq_of_isUpper hupper, Char.toNat_ofNat, if_pos]
      exact .inl (by omega)
    have hletter : isWhitespace c = false := by
      simp [isWhitespace]
      omega
    rw [hletter]
    simp [isWhitespace, hlower]
    omega
  · rw [Char.toLower_eq_of_not_isUpper hupper]

theorem trim_map_toLower (text : List Char) :
    trim (text.map Char.toLower) = (trim text).map Char.toLower := by
  have hcongr : isWhitespace ∘ Char.toLower = isWhitespace := funext isWhitespace_toLower
  rw [trim, trim, trimMatches, trimMatches, List.dropWhile_map, hcongr, ← List.map_reverse,
    List.dropWhile_map, hcongr, ← List.map_reverse]

end Text
