import Mathlib.Data.List.TakeWhile
import StutterProof.ActiveConfig

/-! # Trimmed and joined texts -/
namespace Stutter.TextLaws

open ActiveConfig (trim trimmed)

theorem dropWhile_lead {lead : List Char} (hlead : ∀ c ∈ lead, isTrimmed c = true) {c : Char}
    (hc : isTrimmed c = false) (rest : List Char) :
    (lead ++ c :: rest).dropWhile isTrimmed = c :: rest := by
  rw [List.dropWhile_append_of_pos hlead]
  exact List.dropWhile_cons_of_neg (by simp [hc])

theorem trim_append_blank {c : Char} (hc : isTrimmed c = true) (text : List Char) :
    trim (text ++ [c]) = trim text := by
  rw [trim, trim]
  by_cases hall : ∀ x ∈ text, isTrimmed x = true
  · have hboth : ∀ x ∈ text ++ [c], isTrimmed x = true := by
      intro x hx
      rcases List.mem_append.mp hx with hx | hx
      · exact hall x hx
      · rw [List.mem_singleton.mp hx]
        exact hc
    rw [List.dropWhile_eq_nil_iff.mpr hboth, List.dropWhile_eq_nil_iff.mpr hall]
  · have hdrop : (text ++ [c]).dropWhile isTrimmed = text.dropWhile isTrimmed ++ [c] := by
      rw [List.dropWhile_append, if_neg]
      rw [List.isEmpty_iff, List.dropWhile_eq_nil_iff]
      exact hall
    rw [hdrop, List.reverse_concat, List.dropWhile_cons_of_pos hc]

theorem trim_eq_self {text : List Char} (h : ∀ c ∈ text, isTrimmed c = false) :
    trim text = text := by
  have hkeep : ∀ {chars : List Char}, (∀ c ∈ chars, isTrimmed c = false) →
      chars.dropWhile isTrimmed = chars := by
    intro chars hchars
    rcases chars with _ | ⟨c, chars⟩
    · rfl
    · exact List.dropWhile_cons_of_neg (by simp [hchars c List.mem_cons_self])
  rw [trim, hkeep h, hkeep fun c hc => h c (List.mem_reverse.mp hc), List.reverse_reverse]

/-- The end of a line is trimmed. -/
theorem trimmed_append_newline {text : String} (h : ∀ c ∈ text.toList, isTrimmed c = false) :
    trimmed (text ++ "\n") = text := by
  rw [trimmed, String.toList_append]
  exact (congrArg String.ofList ((trim_append_blank (by decide) _).trans (trim_eq_self h))).trans
    String.ofList_toList

theorem trimmed_eq_self {text : String} (h : ∀ c ∈ text.toList, isTrimmed c = false) :
    trimmed text = text := by
  rw [trimmed, trim_eq_self h, String.ofList_toList]

/-- Joined texts are the first and then the others, each after the separator. -/
theorem intercalate_cons {α : Type*} (separator : α) (first : List α) (others : List (List α)) :
    [separator].intercalate (first :: others) = first ++ others.flatMap (separator :: ·) := by
  induction others generalizing first with
  | nil => simp [List.intercalate]
  | cons other others ih =>
    have hstep : [separator].intercalate (first :: other :: others) =
        first ++ separator :: [separator].intercalate (other :: others) := by
      simp [List.intercalate]
    rw [hstep, ih, List.flatMap_cons, List.cons_append]

end Stutter.TextLaws
