import EventChannel.Text.Blank
import Mathlib

/-! Case is a matter of the basic letters alone: blanks stay where they are, and a text without
letters has one case only. -/

namespace EventChannel.Text

variable {c : Char} {s t : List Char}

theorem isBlank_of_isAlpha (letter : c.isAlpha = true) : isBlank c = false := by
  have hRange : 65 ≤ c.toNat ∧ c.toNat ≤ 90 ∨ 97 ≤ c.toNat ∧ c.toNat ≤ 122 := by
    simp only [Char.isAlpha, Char.isUpper, Char.isLower, Bool.or_eq_true, Bool.and_eq_true,
      decide_eq_true_eq, UInt32.le_iff_toNat_le] at letter
    exact letter
  simp [isBlank]
  omega

theorem toLower_of_not_isAlpha (noLetter : c.isAlpha = false) : c.toLower = c := by
  refine Char.toLower_eq_of_not_isUpper fun upper => ?_
  simp [Char.isAlpha, upper] at noLetter

theorem isBlank_toLower (c : Char) : isBlank c.toLower = isBlank c := by
  cases letter : c.isAlpha with
  | false => rw [toLower_of_not_isAlpha letter]
  | true =>
    have lowered : c.toLower.isAlpha = true := (Char.isAlpha_toLower_eq_isAlpha c).trans letter
    rw [isBlank_of_isAlpha letter, isBlank_of_isAlpha lowered]

theorem trim_map_toLower (text : List Char) :
    trim (text.map Char.toLower) = (trim text).map Char.toLower := by
  have hBlank : isBlank ∘ Char.toLower = isBlank := funext isBlank_toLower
  simp only [trim, List.dropWhile_map, hBlank, ← List.map_reverse]

theorem map_toLower_of_not_isAlpha (noLetters : ∀ c ∈ s, c.isAlpha = false) :
    s.map Char.toLower = s := by
  calc s.map Char.toLower
    _ = s.map id := List.map_congr_left fun c hMem => toLower_of_not_isAlpha (noLetters c hMem)
    _ = s := List.map_id s

/-- A text without letters differs from every other text in more than case. -/
theorem eq_of_map_toLower_eq (noLetters : ∀ c ∈ s, c.isAlpha = false)
    (h : s.map Char.toLower = t.map Char.toLower) : s = t := by
  rw [map_toLower_of_not_isAlpha noLetters] at h
  have hOther : ∀ c ∈ t, c.isAlpha = false := by
    intro c hMem
    rw [← Char.isAlpha_toLower_eq_isAlpha]
    exact noLetters _ (h ▸ List.mem_map_of_mem hMem)
  rw [h, map_toLower_of_not_isAlpha hOther]

end EventChannel.Text
