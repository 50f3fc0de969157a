/-!
# Tables of slots

A table with a fixed number of slots, each of which holds one value or none. A slot is found by the
binary digits of its number, the lowest first; all functions are told how many digits there are.
-/

namespace JsonPath.Regex

/-- A table whose slots are numbered in binary digits. -/
inductive Slots (α : Type) where
  | vacant
  | filled (value : α)
  | halves (even odd : Slots α)

namespace Slots

variable {α : Type}

/-- The value in a slot. -/
def get? : (digits : Nat) → Slots α → Nat → Option α
  | 0, filled a, _ => some a
  | d + 1, halves even odd, n => if n % 2 = 0 then get? d even (n / 2) else get? d odd (n / 2)
  | _, _, _ => none

/-- The slots with even and with odd numbers. -/
def split : Slots α → Slots α × Slots α
  | halves even odd => (even, odd)
  | _ => (vacant, vacant)

/-- Puts a value into a slot, in place of what is there. -/
def put (a : α) : (digits : Nat) → Slots α → Nat → Slots α
  | 0, _, _ => filled a
  | d + 1, s, n =>
    if n % 2 = 0 then halves (put a d s.split.1 (n / 2)) s.split.2
    else halves s.split.1 (put a d s.split.2 (n / 2))

/-- What was put into a slot is there. -/
theorem get?_put_self (a : α) (d : Nat) (s : Slots α) (n : Nat) :
    get? d (put a d s n) n = some a := by
  induction d generalizing s n with
  | zero => rfl
  | succ d ih =>
    unfold put
    split <;> rename_i h <;> simp [get?, h, ih]

/-- Putting a value into a slot leaves all others alone. -/
theorem get?_put_of_ne (a : α) (d : Nat) (s : Slots α) {m n : Nat} (hm : m < Nat.pow 2 d)
    (hn : n < Nat.pow 2 d) (h : m ≠ n) : get? d (put a d s n) m = get? d s m := by
  induction d generalizing s m n with
  | zero => exact absurd ((Nat.lt_one_iff.1 hm).trans (Nat.lt_one_iff.1 hn).symm) h
  | succ d ih =>
    have hd : Nat.pow 2 (d + 1) = Nat.pow 2 d * 2 := rfl
    rw [hd] at hm hn
    have hs : get? (d + 1) s m =
        if m % 2 = 0 then get? d s.split.1 (m / 2) else get? d s.split.2 (m / 2) := by
      cases s <;> simp [get?, split]
    rw [hs]
    unfold put
    by_cases en : n % 2 = 0 <;> by_cases em : m % 2 = 0 <;>
      simp only [en, em, if_true, if_false, get?]
    · exact ih _ (by omega) (by omega) (by omega)
    · exact ih _ (by omega) (by omega) (by omega)

end Slots

end JsonPath.Regex
