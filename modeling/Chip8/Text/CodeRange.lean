/-!
# Ranges of characters

A class of characters as a list of ranges of code points, the lowest first. To look a character up
it is enough to look at the first range that does not end before it (`CodeRange.covers_iff`).
-/

namespace Chip8.Text

structure CodeRange where
  first : Nat
  last : Nat

namespace CodeRange

/-- No range is empty, and each one begins behind the one before it. -/
def ascending : List CodeRange → Bool
  | [] => true
  | [r] => r.first ≤ r.last
  | r :: s :: rest => r.first ≤ r.last && r.last < s.first && ascending (s :: rest)

def covers : List CodeRange → Char → Bool
  | [], _ => false
  | r :: rest, c => if c.toNat ≤ r.last then r.first ≤ c.toNat else covers rest c

def total (ranges : List CodeRange) : Nat := ranges.foldl (fun n r => n + (r.last + 1 - r.first)) 0

theorem ascending_tail {r : CodeRange} {rest : List CodeRange} (h : ascending (r :: rest) = true) :
    ascending rest = true := by
  cases rest with
  | nil => rfl
  | cons s rest => simp_all [ascending]

/-- All later ranges begin behind the end of the first one. -/
theorem last_lt_first {r s : CodeRange} {rest : List CodeRange}
    (h : ascending (r :: rest) = true) (hs : s ∈ rest) : r.last < s.first := by
  induction rest generalizing r with
  | nil => simp at hs
  | cons t rest ih =>
      have ht := ascending_tail h
      simp only [ascending, Bool.and_eq_true, decide_eq_true_eq] at h
      rcases List.mem_cons.1 hs with rfl | hs
      · exact h.1.2
      · have later := ih ht hs
        have proper : t.first ≤ t.last := by
          cases rest <;> simp_all [ascending]
        omega

theorem covers_iff {ranges : List CodeRange} (h : ascending ranges = true) (c : Char) :
    covers ranges c = true ↔ ∃ r ∈ ranges, r.first ≤ c.toNat ∧ c.toNat ≤ r.last := by
  induction ranges with
  | nil => simp [covers]
  | cons r rest ih =>
      have behind : ∀ s ∈ rest, r.last < s.first := fun s hs => last_lt_first h hs
      simp only [covers, List.mem_cons, or_and_right, exists_or, exists_eq_left]
      by_cases hc : c.toNat ≤ r.last
      · simp only [hc, if_true, decide_eq_true_eq, and_true]
        constructor
        · exact Or.inl
        · rintro (h | ⟨s, hs, hf, _⟩)
          · exact h
          · have := behind s hs
            omega
      · simp only [hc, if_false, and_false, false_or]
        exact ih (ascending_tail h)

end CodeRange

end Chip8.Text
