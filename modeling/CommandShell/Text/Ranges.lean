namespace CommandShell.Text

/-! A class of characters that no rule describes is written down as the ranges of
its code points. The ranges increase, so a search for a code point can end at the
first range behind it. -/

/-- The first and the last code point of each range. -/
abbrev Ranges := List (Nat × Nat)

namespace Ranges

/-- Whether a code point lies in one of the ranges. -/
def contains : Ranges → Nat → Bool
  | [], _ => false
  | (first, last) :: rest, code =>
    if code < first then false else code ≤ last || contains rest code

/-- Whether the ranges increase, none of them before a code point. -/
def increaseFrom (least : Nat) : Ranges → Bool
  | [] => true
  | (first, last) :: rest => least ≤ first && first ≤ last && increaseFrom (last + 1) rest

theorem le_of_increaseFrom {least : Nat} {ranges : Ranges} (increase : ranges.increaseFrom least)
    {range : Nat × Nat} (member : range ∈ ranges) : least ≤ range.1 := by
  induction ranges generalizing least with
  | nil => simp at member
  | cons head rest induction =>
    simp only [increaseFrom, Bool.and_eq_true, decide_eq_true_eq] at increase
    obtain ⟨⟨lower, ordered⟩, behind⟩ := increase
    rcases List.mem_cons.mp member with rfl | member
    · exact lower
    · have bound := induction behind member
      omega

/-- Ending the search early misses nothing. -/
theorem contains_iff {least : Nat} {ranges : Ranges} (increase : ranges.increaseFrom least)
    (code : Nat) :
    ranges.contains code = true ↔ ∃ range ∈ ranges, range.1 ≤ code ∧ code ≤ range.2 := by
  induction ranges generalizing least with
  | nil => simp [contains]
  | cons range rest induction =>
    obtain ⟨first, last⟩ := range
    simp only [increaseFrom, Bool.and_eq_true, decide_eq_true_eq] at increase
    obtain ⟨⟨_, ordered⟩, behind⟩ := increase
    by_cases outside : code < first
    · simp only [contains, if_pos outside, Bool.false_eq_true, List.mem_cons, false_iff]
      rintro ⟨range, rfl | member, lower, _⟩
      · omega
      · have bound := le_of_increaseFrom behind member
        omega
    · simp only [contains, if_neg outside, Bool.or_eq_true, decide_eq_true_eq, induction behind,
        List.mem_cons]
      constructor
      · rintro (inside | ⟨range, member, inside⟩)
        · exact ⟨(first, last), .inl rfl, by omega, inside⟩
        · exact ⟨range, .inr member, inside⟩
      · rintro ⟨range, rfl | member, inside⟩
        · exact .inl inside.2
        · exact .inr ⟨range, member, inside⟩

end Ranges

end CommandShell.Text
