import StagedLaunch.Text.Numeral

/-!
# Decimal numerals

A number that is written in decimal digits is read back, whatever the range that it lies in (`readNatural_toString`,
`readInteger_toString`).
-/

namespace StagedLaunch

theorem readDigitsFrom_append (base value : Nat) (front back : List Char) :
    readDigitsFrom base value (front ++ back) =
      (readDigitsFrom base value front).bind fun value => readDigitsFrom base value back := by
  induction front generalizing value with
  | nil => rfl
  | cons c front ih =>
    rw [List.cons_append, readDigitsFrom, readDigitsFrom]
    split
    · split
      · exact ih _
      · rfl
    · rfl

theorem digitValue?_digitChar : ∀ d : Fin 10, digitValue? (Nat.digitChar d) = some d.val := by decide

/-- One digit is read. -/
theorem readDigitsFrom_digitChar (value : Nat) {d : Nat} (h : d < 10) :
    readDigitsFrom 10 value [Nat.digitChar d] = some (value * 10 + d) := by
  have hdigit : digitValue? (Nat.digitChar d) = some d := digitValue?_digitChar ⟨d, h⟩
  simp only [readDigitsFrom, hdigit, h, if_true]

theorem readDigitsFrom_toDigits (n : Nat) : readDigitsFrom 10 0 (Nat.toDigits 10 n) = some n := by
  induction n using Nat.strongRecOn with
  | ind n ih =>
    by_cases hn : n < 10
    · rw [Nat.toDigits_of_lt_base hn, readDigitsFrom_digitChar 0 hn, Nat.zero_mul, Nat.zero_add]
    · have hdiv : n / 10 < n := Nat.div_lt_self (by omega) (by decide)
      rw [Nat.toDigits_of_base_le (by decide) (by omega), readDigitsFrom_append, ih _ hdiv, Option.bind_some,
        readDigitsFrom_digitChar _ (Nat.mod_lt n (by decide)), Nat.div_add_mod']

theorem readDigits_toString (n : Nat) : readDigits 10 (toString n).toList = some n := by
  rw [Nat.toString_eq_repr, Nat.toList_repr]
  obtain ⟨c, rest, hdigits⟩ := List.exists_cons_of_ne_nil (Nat.toDigits_ne_nil (n := n) (b := 10))
  have hread := readDigitsFrom_toDigits n
  rw [hdigits] at hread ⊢
  exact hread

/-- A number does not start with a sign. -/
theorem head_toString (n : Nat) : (toString n).toList.head? ≠ some '-' ∧ (toString n).toList.head? ≠ some '+' := by
  have hdigit (c : Char) (h : (toString n).toList.head? = some c) : c.isDigit = true := by
    rw [Nat.toString_eq_repr, Nat.toList_repr] at h
    exact Nat.isDigit_of_mem_toDigits (by decide) (by decide) (List.mem_of_mem_head? h)
  refine ⟨fun h => ?_, fun h => ?_⟩
  · exact absurd (hdigit _ h) (by decide)
  · exact absurd (hdigit _ h) (by decide)

theorem readNatural_toString {bound n : Nat} (h : n < bound) : readNatural 10 bound (toString n).toList = some n := by
  have hsign := (head_toString n).2
  have hread := readDigits_toString n
  unfold readNatural
  generalize (toString n).toList = cs at hsign hread
  split
  · exact absurd rfl hsign
  · rw [hread]
    simp [h]

theorem readInteger_toString {low high : Int} {n : Nat} (hlow : low ≤ n) (hhigh : n ≤ high) :
    readInteger low high (toString n).toList = some (n : Int) := by
  obtain ⟨hminus, hplus⟩ := head_toString n
  have hread := readDigits_toString n
  unfold readInteger
  generalize (toString n).toList = cs at hminus hplus hread
  dsimp only
  split
  · exact absurd rfl hminus
  · exact absurd rfl hplus
  · rw [hread]
    simp [hlow, hhigh]

end StagedLaunch
