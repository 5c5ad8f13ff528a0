import Mathlib.Algebra.BigOperators.Group.List.Basic

/-!
# Proofs/Text/Written — numbers as digits, and pieces one after the other

What the writers of documents have in common: a number is written in digits, without leading zeros,
and where every piece of a text has something in it, the text is no shorter than the pieces are
many.
-/

namespace NestedSession.Text

/-- No number but zero begins with a zero. -/
theorem head?_toDigits_ne {n : Nat} (positive : 0 < n) :
    (Nat.toDigits 10 n).head? ≠ some '0' := by
  induction n using Nat.strongRecOn with
  | ind n ih =>
    by_cases one : n < 10
    · rw [Nat.toDigits_of_lt_base one]
      have apart : ∀ d : Fin 10, 0 < d.val → Nat.digitChar d ≠ '0' := by decide
      exact fun eq => apart ⟨n, one⟩ positive (Option.some.inj eq)
    · rw [Nat.toDigits_of_base_le (by decide) (by omega), List.head?_append,
        Option.or_of_isSome (List.isSome_head?.mpr Nat.toDigits_ne_nil)]
      exact ih (n / 10) (by omega) (by omega)

/-- A number begins with a digit. -/
theorem exists_head_toDigits (n : Nat) :
    ∃ c s, Nat.toDigits 10 n = c :: s ∧ c.isDigit = true := by
  obtain ⟨c, s, eq⟩ := List.exists_cons_of_ne_nil (Nat.toDigits_ne_nil (n := n) (b := 10))
  exact ⟨c, s, eq, Nat.isDigit_of_mem_toDigits (by decide) (by decide)
    (eq ▸ List.mem_cons_self : c ∈ Nat.toDigits 10 n)⟩

/-- **How a whole number is written**: as its digits, with a sign if it is negative. -/
theorem toList_toString_int (n : Int) :
    ∃ m : Nat, (toString n).toList = Nat.toDigits 10 m ∧ n = m
      ∨ 0 < m ∧ (toString n).toList = '-' :: Nat.toDigits 10 m ∧ n = -m := by
  cases n with
  | ofNat m => exact ⟨m, .inl ⟨Nat.toList_repr, rfl⟩⟩
  | negSucc m =>
    refine ⟨m + 1, .inr ⟨Nat.succ_pos m, ?_, rfl⟩⟩
    have written : toString (Int.negSucc m) = "-" ++ (m + 1).repr := rfl
    rw [written, String.toList_append, Nat.toList_repr]
    rfl

/-- There are no more pieces than a text has characters, if none of them is empty. -/
theorem length_le_length_flatMap {α : Type} (piece : α → List Char) (some : ∀ x, piece x ≠ [])
    (xs : List α) : xs.length ≤ (xs.flatMap piece).length := by
  rw [List.length_flatMap, ← List.length_map (fun x => (piece x).length)]
  refine List.length_le_sum_of_one_le _ fun n there => ?_
  obtain ⟨x, -, rfl⟩ := List.mem_map.mp there
  exact List.length_pos_iff.mpr (some x)

end NestedSession.Text
