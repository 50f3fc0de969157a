import JsonPath.Proofs.Comparison
import JsonPath.Proofs.Inside
import JsonPath.Proofs.Number.Large

/-!
# Comparing the numbers of a document

A number of a document that is no integer of 64 bits comes down to a floating-point number. So
numbers are compared by what they count as (`Number.counted`): a natural number beyond these
integers counts as the nearest floating-point number, and any other number as itself. The order is
never turned round by it. But two different numbers can count as equal, if one of them is such a
natural number and the other is no integer of 64 bits (`Number.comparesAsCounted`).
-/

namespace JsonPath

open Number (Binary ExtendedRat denote)
open Query (Comparison Expr)

/-! ## Relations of numbers -/

/-- The relation of numbers that a comparison asks for. -/
def Query.Comparison.Holds (c : Comparison) (x y : ℚ) : Prop :=
  match c with
  | .equal => x = y
  | .notEqual => x ≠ y
  | .less => x < y
  | .lessEqual => x ≤ y
  | .greater => y < x
  | .greaterEqual => y ≤ x

instance (c : Comparison) (x y : ℚ) : Decidable (c.Holds x y) :=
  match c with
  | .equal => inferInstanceAs (Decidable (x = y))
  | .notEqual => inferInstanceAs (Decidable (x ≠ y))
  | .less => inferInstanceAs (Decidable (x < y))
  | .lessEqual => inferInstanceAs (Decidable (x ≤ y))
  | .greater => inferInstanceAs (Decidable (y < x))
  | .greaterEqual => inferInstanceAs (Decidable (y ≤ x))

/-- Whether the relation is one of numbers in a given order. -/
def Query.Comparison.accepts (c : Comparison) (o : Ordering) : Bool :=
  match c with
  | .equal => o == .eq
  | .notEqual => o != .eq
  | .less => o == .lt
  | .lessEqual => o != .gt
  | .greater => o == .gt
  | .greaterEqual => o != .lt

/-- A comparison holds of numbers if it accepts their order. -/
theorem Query.Comparison.holds_iff (c : Comparison) (x y : ℚ) :
    c.Holds x y ↔ c.accepts (compare x y) = true := by
  rcases lt_trichotomy x y with h | h | h
  · rw [compare_lt_iff_lt.mpr h]
    cases c <;> simp [Holds, accepts, h, h.ne, h.le]
  · rw [compare_eq_iff_eq.mpr h]
    cases c <;> simp [Holds, accepts, h]
  · rw [compare_gt_iff_gt.mpr h]
    cases c <;> simp [Holds, accepts, h, h.ne', h.le]

namespace Number

/-- The number itself. -/
def value : Number → ℚ
  | integer n => n.toInt
  | natural n _ => n.toNat
  | float x _ =>
    match denote x with
    | .finite b => b.value
    | _ => 0

/-- What the number counts as when it is compared. -/
def counted : Number → ℚ
  | natural n _ => rounded n.toNat
  | m => m.value

/-- Whether the number is one of the integers of 64 bits. -/
def isInteger : Number → Bool
  | integer _ => true
  | _ => false

/-- Whether the number is a natural number beyond the integers of 64 bits. -/
def isNatural : Number → Bool
  | natural _ _ => true
  | _ => false

variable {m n : Number}

/-- A number that is no large natural one counts as itself. -/
theorem counted_of_not_isNatural (h : m.isNatural = false) : m.counted = m.value := by
  cases m with
  | natural => cases h
  | _ => rfl

/-- A float that is finite denotes a number. -/
theorem exists_denote_of_isFinite {x : Float} (h : isFinite x = true) :
    ∃ b, denote x = .finite b := by
  unfold isFinite at h
  split at h
  · exact ⟨_, ‹_›⟩
  · cases h

end Number

/-! ## What numbers come down to -/

namespace Primitive

/-- A number of a document stands where it is counted. -/
theorem number?_ofNumber (m : Number) : (ofNumber m).number? = some (.ofRat m.counted) := by
  cases m with
  | integer n => rfl
  | natural n large =>
    obtain ⟨b, hb, hvalue, -⟩ := Number.denote_ofNatural large n.toNat_lt
    rw [ofNumber, number?, hb, Number.counted, ← hvalue]
    rfl
  | float x finite =>
    obtain ⟨b, hb⟩ := Number.exists_denote_of_isFinite finite
    rw [ofNumber, number?, Number.counted, Number.value, hb]
    · rfl
    · intro n large h
      cases h

theorem isNumber_ofNumber (m : Number) : (ofNumber m).isNumber = true := by
  cases m <;> rfl

/-- Numbers of a document have the order of what they count as. -/
theorem order?_ofNumber (m n : Number) :
    (ofNumber m).order? (ofNumber n) = some (compare m.counted n.counted) := by
  rw [order?_eq, number?_ofNumber, number?_ofNumber, ← Number.compare_ofRat]
  rfl

/-- Two numbers are compared by what they count as. -/
theorem compares_ofNumber (c : Comparison) (m n : Number) :
    (ofNumber m).compares c (ofNumber n) = true ↔ c.Holds m.counted n.counted := by
  have hm := isNumber_ofNumber m
  have hn := isNumber_ofNumber n
  rw [c.holds_iff]
  unfold compares
  rw [less?_of_isNumber hm hn, less?_of_isNumber hn hm, equal?_of_isNumber hm hn,
    order?_swap (ofNumber m) (ofNumber n), order?_ofNumber]
  generalize compare m.counted n.counted = o
  cases c <;> cases o <;> decide

end Primitive

/-- A value that stands for the node of a number alone. -/
theorem Value.operand?_of_held {v : Value} {m : Number} (h : v.held = [.number m]) :
    v.operand? = some (.ofNumber m) := by
  match v, h with
  | .node _, rfl => rfl
  | .nodes _, rfl => rfl

/-- Values that stand for one number each compare as these do. -/
theorem Value.compares_of_held {v w : Value} {m n : Number} (hv : v.held = [.number m])
    (hw : w.held = [.number n]) (c : Comparison) :
    v.compares c w = true ↔ c.Holds m.counted n.counted := by
  rw [Value.compares, operand?_of_held hv, operand?_of_held hw]
  exact Primitive.compares_ofNumber c m n

/-! ## How far numbers are from what they count as -/

namespace Number

variable {m n : Number}

/-- What is a large natural number is one by its constructor. -/
theorem exists_eq_natural (h : m.isNatural = true) : ∃ k large, m = natural k large := by
  cases m with
  | natural k large => exact ⟨k, large, rfl⟩
  | integer => cases h
  | float => cases h

theorem value_integer_lt (k : Int64) : (integer k).value < 2 ^ 63 := by
  have hmax : k.toInt < 2 ^ 63 := Int.lt_of_le_of_lt k.toInt_le (by decide)
  rw [value]
  exact_mod_cast hmax

/-- A natural number stays on the same side of any other number, or comes to lie on it. -/
theorem rounded_beside (hn : n.isNatural = false) {k : ℕ} (hk : 2 ^ 63 ≤ k) :
    (n.value ≤ k → n.value ≤ rounded k) ∧ (k ≤ n.value → rounded k ≤ n.value) := by
  cases n with
  | natural => cases hn
  | integer j =>
    have hlt := value_integer_lt j
    have hbound : (2 : ℚ) ^ 63 ≤ k := by exact_mod_cast hk
    have hrounded : 2 ^ 63 ≤ rounded k := le_rounded_mul (k := 2 ^ 52) hk
    have hrounded : (2 : ℚ) ^ 63 ≤ rounded k := by exact_mod_cast hrounded
    exact ⟨fun _ => by linarith, fun h => absurd h (by linarith)⟩
  | float x finite =>
    obtain ⟨b, hb⟩ := exists_denote_of_isFinite finite
    rw [value, hb]
    exact ⟨le_rounded hb hk, rounded_le hb hk⟩

/-- What numbers count as is in the order of the numbers. -/
theorem counted_mono (h : m.value ≤ n.value) : m.counted ≤ n.counted := by
  cases hm : m.isNatural with
  | false =>
    rw [counted_of_not_isNatural hm]
    cases hn : n.isNatural with
    | false => rwa [counted_of_not_isNatural hn]
    | true =>
      obtain ⟨k, large, rfl⟩ := exists_eq_natural hn
      exact (rounded_beside hm large).1 h
  | true =>
    obtain ⟨j, large, rfl⟩ := exists_eq_natural hm
    cases hn : n.isNatural with
    | false =>
      rw [counted_of_not_isNatural hn]
      exact (rounded_beside hn large).2 h
    | true =>
      obtain ⟨k, large', rfl⟩ := exists_eq_natural hn
      have h : (j.toNat : ℚ) ≤ k.toNat := h
      have hmono : rounded j.toNat ≤ rounded k.toNat := rounded_mono (by exact_mod_cast h)
      rw [counted, counted]
      exact_mod_cast hmono

/-- To be rounded moves a number by half of its last place at most. -/
theorem abs_value_sub_counted_le (m : Number) : |m.value - m.counted| ≤ 1024 := by
  cases hm : m.isNatural with
  | false => rw [counted_of_not_isNatural hm, sub_self, abs_zero]; norm_num
  | true =>
    obtain ⟨k, large, rfl⟩ := exists_eq_natural hm
    obtain ⟨habove, hbelow, -⟩ := rounded_spec k.toNat
    have habove : (rounded k.toNat : ℚ) ≤ k.toNat + 1024 := by exact_mod_cast habove
    have hbelow : (k.toNat : ℚ) ≤ rounded k.toNat + 1024 := by exact_mod_cast hbelow
    rw [value, counted, abs_le]
    exact ⟨by linarith, by linarith⟩

/-- An integer of 64 bits counts as no other number does. -/
theorem value_eq_of_isInteger (hm : m.isInteger = true) (h : m.counted = n.counted) :
    m.value = n.value := by
  obtain ⟨j, rfl⟩ : ∃ j, m = integer j := by
    cases m with
    | integer j => exact ⟨j, rfl⟩
    | natural => cases hm
    | float => cases hm
  cases hn : n.isNatural with
  | false => rwa [counted_of_not_isNatural hn] at h
  | true =>
    obtain ⟨k, large, rfl⟩ := exists_eq_natural hn
    have hlt := value_integer_lt j
    have hrounded : 2 ^ 63 ≤ rounded k.toNat := le_rounded_mul (k := 2 ^ 52) large
    have hrounded : (2 : ℚ) ^ 63 ≤ rounded k.toNat := by exact_mod_cast hrounded
    have heq : (integer j).value = rounded k.toNat := h
    linarith

/-- As long as two different numbers do not count as equal, all their relations are the ones of what
they count as. -/
theorem holds_counted_iff (h : m.counted = n.counted → m.value = n.value) (c : Comparison) :
    c.Holds m.counted n.counted ↔ c.Holds m.value n.value := by
  -- the order is kept, and a strict order does not become equality
  have hcompare : compare m.counted n.counted = compare m.value n.value := by
    rcases lt_trichotomy m.value n.value with hlt | heq | hgt
    · have hne : m.counted ≠ n.counted := fun heq => hlt.ne (h heq)
      rw [compare_lt_iff_lt.mpr hlt, compare_lt_iff_lt]
      exact lt_of_le_of_ne (counted_mono hlt.le) hne
    · rw [compare_eq_iff_eq.mpr heq, compare_eq_iff_eq]
      exact le_antisymm (counted_mono heq.le) (counted_mono heq.ge)
    · have hne : n.counted ≠ m.counted := fun heq => hgt.ne' (h heq.symm)
      rw [compare_gt_iff_gt.mpr hgt, compare_gt_iff_gt]
      exact lt_of_le_of_ne (counted_mono hgt.le) hne
  rw [c.holds_iff, c.holds_iff, hcompare]

/-! ## Main statement -/

/-- Nodes with two numbers of a document are compared by what the numbers count as. -/
structure ComparesAsCounted (m n : Number) : Prop where
  /-- a comparison of the nodes holds if the relation does -/
  compares : ∀ c (v w : Value), v.held = [.number m] → w.held = [.number n] →
    (v.compares c w = true ↔ c.Holds m.counted n.counted)
  /-- so that is the value of an expression that compares them -/
  evaluates : ∀ c ctx current (l r : Expr) (v w : Value), v.held = [.number m] →
    w.held = [.number n] → (l.evaluate ctx current).Yields v → (r.evaluate ctx current).Yields w →
    ((Expr.binary (.compare c) l r).evaluate ctx current).Yields
      (.logical (decide (c.Holds m.counted n.counted)))
  /-- and a filter such as `?@.a < @.b` selects by it -/
  selects : ∀ c functions,
    let member (name : String) : Expr := .single .current [.dot .children (.shorthand name)]
    let filter : Expr := .binary (.compare c) (member "a") (member "b")
    let candidate : Json := .object [("a", .number m), ("b", .number n)]
    Prepared.execute ⟨⟨[.brackets .children [.filter filter]]⟩, functions⟩ (.array [candidate])
      = .ok (if c.Holds m.counted n.counted then [candidate] else [])
  /-- a number counts as itself, unless it is a natural number beyond the integers of 64 bits -/
  itself : m.isNatural = false → m.counted = m.value
  /-- which counts as the nearest floating-point number -/
  nearest : m.isNatural = true → ∃ (x : Float) (b : Binary), denote x = .finite b ∧
    b.value = m.counted ∧ b.IsNearest m.value
  /-- so the relation is the one of the numbers, unless different numbers count as equal -/
  exact : (m.counted = n.counted → m.value = n.value) →
    ∀ c : Comparison, c.Holds m.counted n.counted ↔ c.Holds m.value n.value
  /-- and these are close to each other, one is such a natural number, and the other is no integer
  of 64 bits -/
  merged : m.counted = n.counted → m.value ≠ n.value → (m.isNatural = true ∨ n.isNatural = true) ∧
    m.isInteger = false ∧ n.isInteger = false ∧ |m.value - n.value| ≤ 2048

/-- **Large numbers.** Numbers of a document compare as what they count as, in every comparison
of a query. Only a natural number beyond the integers of 64 bits may count as another one. -/
theorem comparesAsCounted (m n : Number) : ComparesAsCounted m n where
  compares c _ _ hv hw := Value.compares_of_held hv hw c
  evaluates c ctx current l r v w hv hw hl hr := by
    have hcompares : v.compares c w = decide (c.Holds m.counted n.counted) :=
      Bool.eq_iff_iff.mpr ((Value.compares_of_held hv hw c).trans decide_eq_true_iff.symm)
    rw [Expr.evaluate, ← hcompares]
    exact hl.bind (hr.bind (.pure _))
  selects c functions := by
    intro member filter candidate
    have hexecute : Prepared.execute ⟨⟨[.brackets .children [.filter filter]]⟩, functions⟩
        (.array [candidate]) = .ok ((if (Value.node (.number m)).compares c (.node (.number n)) then
          [candidate] else []) ++ [] ++ []) := rfl
    rw [hexecute, List.append_nil, List.append_nil]
    exact congrArg Except.ok (if_congr (Value.compares_of_held rfl rfl c) rfl rfl)
  itself := counted_of_not_isNatural
  nearest h := by
    obtain ⟨k, large, rfl⟩ := exists_eq_natural h
    obtain ⟨b, hb, hvalue, hnearest⟩ := ofNatural_isNearest large k.toNat_lt
    exact ⟨_, b, hb, hvalue, hnearest⟩
  exact h c := holds_counted_iff h c
  merged h hne := by
    refine ⟨?_, ?_, ?_, ?_⟩
    -- Two numbers that both count as themselves are not merged.
    · by_contra hnone
      rw [not_or, Bool.not_eq_true, Bool.not_eq_true] at hnone
      rw [counted_of_not_isNatural hnone.1, counted_of_not_isNatural hnone.2] at h
      exact hne h
    · exact Bool.eq_false_iff.mpr fun hm => hne (value_eq_of_isInteger hm h)
    · exact Bool.eq_false_iff.mpr fun hn => hne (value_eq_of_isInteger hn h.symm).symm
    · have hm := abs_le.mp m.abs_value_sub_counted_le
      have hn := abs_le.mp n.abs_value_sub_counted_le
      rw [abs_le]
      exact ⟨by linarith, by linarith⟩

/-- The numbers `9223372036854775808` and `9223372036854775809` are different, but the query
`$[?@ == $[0]]` takes the second one for the first. -/
theorem comparesAsCounted_merged :
    let m : Number := .natural 9223372036854775808 (by decide)
    let n : Number := .natural 9223372036854775809 (by decide)
    let first : Expr := .single .root [.brackets .children [.index 0]]
    let filter : Expr := .binary (.compare .equal) (.single .current []) first
    let document : Json := .array [.number m, .number n]
    m.value ≠ n.value ∧ (Value.node (.number m)).compares .equal (.node (.number n)) = true ∧
      Prepared.execute ⟨⟨[.brackets .children [.filter filter]]⟩, .builtin⟩ document
        = .ok [.number m, .number n] := by
  intro m n first filter document
  exact ⟨fun h => absurd (Nat.cast_injective (R := ℚ) h) (by decide), by decide, rfl⟩

end Number

end JsonPath
