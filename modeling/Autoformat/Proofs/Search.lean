import Autoformat.Text.Search
import Mathlib.Data.List.Infix

/-!
# What texts hold, and how they are cut

A text holds another when it is that text with some further text before and after it (`Holds`,
`contains_iff`); `startsWith_iff` and `endsWith_iff` say the same of its two ends. Two texts that a third
holds may overlap in it.

`shorten` counts characters. It keeps a short text, and of a long one it leaves exactly as many
characters as it is told and three dots.
-/

namespace Autoformat.Text

variable {text needle : String}

/-! ## Texts in texts -/

/-- A text stands in another, without gaps and letter by letter. -/
def Holds (text needle : String) : Prop := ∃ before after, text = before ++ needle ++ after

/-- A text stands somewhere in another exactly when it is a part of it without gaps. -/
theorem occursIn_iff {needle cs : List Char} : occursIn needle cs = true ↔ needle <:+: cs := by
  induction cs with
  | nil => simp [occursIn]
  | cons c cs ih => simp [occursIn, ih, List.infix_cons_iff]

/-- Every list of characters is that of a text. -/
private theorem toList_surjective : Function.Surjective String.toList :=
  fun cs => ⟨String.ofList cs, String.toList_ofList⟩

/-- A text is found in another exactly when the other holds it. -/
theorem contains_iff : contains text needle = true ↔ Holds text needle := by
  rw [contains, occursIn_iff, List.IsInfix]
  simp only [Holds, toList_surjective.exists, ← String.toList_append, String.toList_inj, @eq_comm _ text]

/-- What a text holds is still there when more text stands around it. -/
theorem Holds.surrounded (h : Holds text needle) (before after : String) :
    Holds (before ++ text ++ after) needle := by
  obtain ⟨b, a, rfl⟩ := h
  exact ⟨before ++ b, a ++ after, by simp only [String.append_assoc]⟩

/-- A text begins with another exactly when something follows the other. -/
theorem startsWith_iff {start : String} :
    startsWith text start = true ↔ ∃ rest, text = start ++ rest := by
  rw [startsWith, List.isPrefixOf_iff_prefix, List.IsPrefix]
  simp only [toList_surjective.exists, ← String.toList_append, String.toList_inj, @eq_comm _ text]

/-- A text ends with another exactly when something stands before the other. -/
theorem endsWith_iff {ending : String} :
    endsWith text ending = true ↔ ∃ rest, text = rest ++ ending := by
  rw [endsWith, List.isSuffixOf_iff_suffix, List.IsSuffix]
  simp only [toList_surjective.exists, ← String.toList_append, String.toList_inj, @eq_comm _ text]

/-! ## Cutting -/

variable {limit kept : Nat} {s : String}

/-- A text that is short enough is not cut. -/
theorem shorten_of_le (h : s.length ≤ limit) : shorten limit kept s = s := by
  rw [shorten, String.length_toList, if_pos h]

/-- What is left of a long text: its first characters, followed by three dots. -/
theorem shorten_of_lt (h : limit < s.length) :
    shorten limit kept s = String.ofList (s.toList.take kept) ++ "..." := by
  rw [shorten, String.length_toList, if_neg (Nat.not_le.2 h), String.ofList_append]

/-- A cut text keeps within the limit when it leaves room for the dots. -/
theorem length_shorten_le (h : kept + 3 ≤ limit) : (shorten limit kept s).length ≤ limit := by
  rcases Nat.lt_or_ge limit s.length with hlong | hshort
  · rw [shorten_of_lt hlong, String.length_append, String.length_ofList, List.length_take]
    have hdots : "...".length = 3 := rfl
    omega
  · rw [shorten_of_le hshort]
    exact hshort

/-- Only the empty text is cut to nothing. -/
theorem shorten_ne_empty (h : s ≠ "") : shorten limit kept s ≠ "" := by
  rcases Nat.lt_or_ge limit s.length with hlong | hshort
  · rw [shorten_of_lt hlong]
    intro hempty
    have hlength := congrArg String.length hempty
    have hdots : "...".length = 3 := rfl
    rw [String.length_append, hdots, String.length_empty] at hlength
    omega
  · rw [shorten_of_le hshort]
    exact h

end Autoformat.Text
