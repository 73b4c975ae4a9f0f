/-!
Sets of code points, written as ranges in increasing order with both ends included. In that order the search
for a code point may end early, and finds it exactly when a range holds it.
-/
set_option autoImplicit false

namespace ArmScript.Text

/-- Whether a code point lies in one of the ranges. The search ends at the first range above it. -/
def inRanges (n : Nat) : List (Nat × Nat) → Bool
  | [] => false
  | (first, last) :: rest => decide (first ≤ n) && (decide (n ≤ last) || inRanges n rest)

def increasing : List (Nat × Nat) → Bool
  | [] => true
  | r :: rest =>
    decide (r.1 ≤ r.2) && (rest.head?.all fun s => decide (r.2 + 1 < s.1)) && increasing rest

theorem exists_of_inRanges {n : Nat} {ranges : List (Nat × Nat)} (h : inRanges n ranges = true) :
    ∃ r ∈ ranges, r.1 ≤ n ∧ n ≤ r.2 := by
  induction ranges with
  | nil => simp [inRanges] at h
  | cons r rest ih =>
    obtain ⟨first, last⟩ := r
    simp only [inRanges, Bool.and_eq_true, Bool.or_eq_true, decide_eq_true_eq] at h
    rcases h.2 with hn | hn
    · exact ⟨(first, last), by simp, h.1, hn⟩
    · obtain ⟨r, hr, hb⟩ := ih hn
      exact ⟨r, by simp [hr], hb⟩

theorem lt_of_increasing {r s : Nat × Nat} {rest : List (Nat × Nat)} (h : increasing (r :: rest) = true)
    (hs : s ∈ rest) : r.2 < s.1 := by
  induction rest generalizing r with
  | nil => simp at hs
  | cons t rest ih =>
    simp only [increasing, List.head?_cons, Option.all_some, Bool.and_eq_true, decide_eq_true_eq] at h
    rcases List.mem_cons.mp hs with rfl | hs
    · omega
    · have := ih (r := t) (by simp [increasing, h]) hs
      omega

theorem inRanges_iff {n : Nat} {ranges : List (Nat × Nat)} (h : increasing ranges = true) :
    inRanges n ranges = true ↔ ∃ r ∈ ranges, r.1 ≤ n ∧ n ≤ r.2 := by
  refine ⟨exists_of_inRanges, ?_⟩
  rintro ⟨r, hr, hn⟩
  induction ranges with
  | nil => simp at hr
  | cons s rest ih =>
    rcases List.mem_cons.mp hr with rfl | hr
    · simp [inRanges, hn]
    · have := lt_of_increasing h hr
      simp only [increasing, Bool.and_eq_true, decide_eq_true_eq] at h
      simp only [inRanges, ih h.2 hr, Bool.or_true, Bool.and_true, decide_eq_true_eq]
      omega

end ArmScript.Text
