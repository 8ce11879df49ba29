/-!
# Runs and figures

A run of characters of one kind ends where another kind begins (`takeWhile_of_stop`), and so a text
that begins with a run can be cut behind it in one way only (`append_inj_of_head`).  The figure of a
whole number is a run of digits behind a sign if the number is negative, and denotes its number
(`figureValue_toString`).
-/

namespace Reckoner

/-! ## Runs -/

section

variable {p : Char → Bool} {front rest : List Char}

/-- A run ends at the first character that does not belong to it. -/
theorem takeWhile_of_stop (h : ∀ c ∈ front, p c = true) (hrest : ∀ c ∈ rest.head?, p c = false) :
    (front ++ rest).takeWhile p = front := by
  have hnone : rest.takeWhile p = [] := by
    cases rest with
    | nil => rfl
    | cons c rest => exact List.takeWhile_cons_of_neg (by simp [hrest c rfl])
  rw [List.takeWhile_append_of_pos h, hnone, List.append_nil]

/-- Where the characters of one kind stop, a text can be cut in one way only. -/
theorem append_inj_of_head {xs ys s t : List Char}
    (hxs : ∀ c ∈ xs, p c = true) (hys : ∀ c ∈ ys, p c = true)
    (hs : ∀ c ∈ s.head?, p c = false) (ht : ∀ c ∈ t.head?, p c = false)
    (h : xs ++ s = ys ++ t) : xs = ys ∧ s = t := by
  have hfront : xs = ys := by rw [← takeWhile_of_stop hxs hs, h, takeWhile_of_stop hys ht]
  exact ⟨hfront, List.append_cancel_left (hfront ▸ h)⟩

end

/-! ## Figures -/

/-- A character of the figure of a whole number. -/
def isFigureChar (c : Char) : Bool := c == '-' || c.isDigit

theorem isFigureChar_of_mem_toDigits {n : Nat} : ∀ c ∈ Nat.toDigits 10 n, isFigureChar c = true :=
  fun c hc => by
    rw [isFigureChar, Nat.isDigit_of_mem_toDigits (by decide) (by decide) hc, Bool.or_true]

/-- The figure of a whole number has a sign if the number is negative. -/
theorem toList_toString (n : Int) : (toString n).toList =
    if 0 ≤ n then Nat.toDigits 10 n.toNat else '-' :: Nat.toDigits 10 (-n).toNat := by
  rw [Int.toString_eq_repr, Int.repr_eq_if]
  split
  next => exact Nat.toList_repr
  next => rw [String.toList_append, Nat.toList_repr]; rfl

theorem isFigureChar_of_mem_toString {n : Int} :
    ∀ c ∈ (toString n).toList, isFigureChar c = true := by
  rw [toList_toString]
  split
  next => exact isFigureChar_of_mem_toDigits
  next => exact List.forall_mem_cons.2 ⟨rfl, isFigureChar_of_mem_toDigits⟩

/-- The number that a figure denotes. -/
def figureValue : List Char → Int
  | '-' :: cs => -(Nat.ofDigitChars 10 cs 0 : Nat)
  | cs => (Nat.ofDigitChars 10 cs 0 : Nat)

/-- A figure denotes its number. -/
theorem figureValue_toString (n : Int) : figureValue (toString n).toList = n := by
  rw [toList_toString]
  split
  next h =>
    have hsign (cs : List Char) (hcs : Nat.toDigits 10 n.toNat = '-' :: cs) : False := by
      have hdigit : ('-').isDigit = true :=
        Nat.isDigit_of_mem_toDigits (b := 10) (n := n.toNat) (by decide) (by decide)
          (hcs ▸ List.mem_cons_self)
      cases hdigit
    rw [figureValue.eq_2 _ hsign, Nat.ofDigitChars_toDigits (by decide) (by decide)]
    exact Int.toNat_of_nonneg h
  next h =>
    rw [figureValue, Nat.ofDigitChars_toDigits (by decide) (by decide)]
    omega

end Reckoner
