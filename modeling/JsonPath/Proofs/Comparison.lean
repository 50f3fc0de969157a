import Mathlib.Data.String.Basic
import Mathlib.Tactic.MkIffOfInductiveProp
import JsonPath.Proofs.Number.Bits
import JsonPath.Proofs.Number.Order
import JsonPath.Value.Comparison

/-!
# Comparisons fit together

The order of two primitives is the order of the numbers that they are, as exact numbers: an integer
of 64 bits is not rounded to a floating-point number for it, and no floating-point number is cut off
or forced into 64 bits in a way that shows (`Primitive.order?_isExact`).

A primitive that is not an undefined number stands somewhere (`Primitive.standing?`): on the line of
numbers, among texts, as a truth value, or as `null`. Less means to stand before, among numbers or
texts, and equal means to stand at the same place. So comparisons of values fit together, whatever
forms the values have (`Value.compares_isCoherent`): they can be turned round, they are transitive,
and at most one of less, equal and greater holds.
-/

namespace JsonPath

open Number (Binary ExtendedRat denote orderIntFloat)
open Query (Comparison)

/-! ## Numbers -/

namespace Primitive

/-- The number that a primitive is, unless it is none or undefined. -/
def number? : Primitive → Option ExtendedRat
  | integer n => some (.ofRat n.toInt)
  | float x => (denote x).value?
  | _ => none

/-- The order of two primitives is the order of the numbers that they are. -/
theorem order?_eq (p q : Primitive) : p.order? q = Option.map₂ compare p.number? q.number? := by
  match p, q with
  | integer m, integer n =>
    refine congrArg some ?_
    rw [Number.compare_toInt, Number.compare_cast, Number.compare_ofRat]
  | integer m, float y => exact Number.orderIntFloat_eq m y
  | float x, integer n =>
    -- the order of the integer and the number, turned round
    rw [order?, Number.orderIntFloat_eq, Option.map_map₂, Option.map₂_swap]
    exact congrArg (Option.map₂ · _ _) (funext₂ fun _ _ => Std.OrientedOrd.eq_swap.symm)
  | float x, float y => exact Number.orderFloats_eq x y
  | string _, _ => cases q <;> rfl
  | bool _, q => cases q <;> rfl
  | null, q => cases q <;> rfl
  | p, string _ => cases p <;> simp [order?, number?]
  | p, bool _ => cases p <;> simp [order?, number?]
  | p, null => cases p <;> simp [order?, number?]

/-- The order of two primitives turns round with them. -/
theorem order?_swap (p q : Primitive) : q.order? p = (p.order? q).map Ordering.swap := by
  rw [order?_eq, order?_eq, Option.map_map₂, Option.map₂_swap]
  exact congrArg (Option.map₂ · _ _) (funext₂ fun _ _ => Std.OrientedOrd.eq_swap)

/-- An integer of 64 bits and a floating-point number are compared exactly. What the floating-point
number denotes is what it is unpacked to: a rational number or an end of the line. Any two numbers
are compared in this way, and the order turns round with them. -/
structure OrderIsExact (n : Int64) (x : Float) (p q : Primitive) : Prop where
  denotes : denote x = .ofUnpacked x.toModel.unpack
  finite : ∀ b : Binary, denote x = .finite b →
    orderIntFloat n x = some (compare (n.toInt : ℚ) (b.signed * 2 ^ b.exponent))
  infinite : ∀ negative, denote x = .infinite negative →
    orderIntFloat n x = some (if negative then .gt else .lt)
  eq_none_iff : orderIntFloat n x = none ↔ x.isNaN = true
  order?_eq : p.order? q = Option.map₂ compare p.number? q.number?
  order?_swap : q.order? p = (p.order? q).map Ordering.swap

/-- **Exactness.** Numbers of any two kinds are compared exactly: an integer is compared with
what the floating-point number denotes, and neither of them is rounded on the way. -/
theorem order?_isExact (n : Int64) (x : Float) (p q : Primitive) : OrderIsExact n x p q where
  denotes := Number.denote_eq_ofUnpacked x
  finite b h := by
    rw [orderIntFloat, h]
    exact congrArg some (b.orderInt_eq n)
  infinite negative h := by rw [orderIntFloat, h]
  eq_none_iff := by
    rw [← Number.denote_eq_undefined_iff, orderIntFloat]
    cases denote x <;> simp
  order?_eq := p.order?_eq q
  order?_swap := p.order?_swap q

/-- An integer can be beside the nearest floating-point number, next to one that has a fraction, and
below one that is beyond 64 bits. -/
example : orderIntFloat 9007199254740993 9007199254740992.0 = some .gt ∧
    orderIntFloat (-1) (-1.5) = some .gt ∧
    orderIntFloat 9223372036854775807 9223372036854775808.0 = some .lt := by decide

/-- Whether the primitive is a number, be it an undefined one. -/
def isNumber : Primitive → Bool
  | integer _ => true
  | float _ => true
  | _ => false

variable {p q : Primitive}

/-- Two numbers are equal where their order says so. -/
theorem equal?_of_isNumber (hp : p.isNumber = true) (hq : q.isNumber = true) :
    p.equal? q = (p.order? q).map (· == .eq) := by
  cases p <;> cases hp <;> cases q <;> cases hq <;> rfl

/-- One number is less than another where their order says so. -/
theorem less?_of_isNumber (hp : p.isNumber = true) (hq : q.isNumber = true) :
    p.less? q = (p.order? q).map (· == .lt) := by
  cases p <;> cases hp <;> cases q <;> cases hq <;> rfl

/-- Equality of primitives is symmetric, also where it is undefined. -/
theorem equal?_comm (p q : Primitive) : p.equal? q = q.equal? p := by
  by_cases h : p.isNumber = true ∧ q.isNumber = true
  · -- the order of two numbers turns round, and equality stays
    obtain ⟨hp, hq⟩ := h
    rw [equal?_of_isNumber hp hq, equal?_of_isNumber hq hp, order?_swap p q, Option.map_map]
    refine congrArg (Option.map · _) (funext fun o => ?_)
    cases o <;> rfl
  · cases p <;> cases q <;> simp_all [equal?, same, order?, isNumber, BEq.comm]

end Primitive

/-! ## Where primitives stand -/

/-- Where a primitive stands among the primitives of its kind. -/
inductive Standing where
  | number (x : ExtendedRat)
  | text (s : String)
  | truth (b : Bool)
  | null

namespace Standing

/-- The one stands before the other. Only numbers and texts do. -/
@[mk_iff]
inductive Before : Standing → Standing → Prop
  | numbers {x y : ExtendedRat} (h : x < y) : Before (.number x) (.number y)
  | texts {s t : String} (h : s < t) : Before (.text s) (.text t)

variable {a b c : Standing}

theorem Before.trans (h : a.Before b) (h' : b.Before c) : a.Before c := by
  cases h with
  | numbers h =>
    cases h' with
    | numbers h' => exact .numbers (h.trans h')
  | texts h =>
    cases h' with
    | texts h' => exact .texts (h.trans h')

theorem Before.irrefl (h : a.Before a) : False := by
  cases h with
  | numbers h => exact lt_irrefl _ h
  | texts h => exact lt_irrefl _ h

end Standing

namespace Primitive

/-- Where the primitive stands, unless it is an undefined number. -/
def standing? : Primitive → Option Standing
  | string s => some (.text s)
  | bool b => some (.truth b)
  | null => some .null
  | p => p.number?.map .number

variable {p q r : Primitive}

/-- A primitive is less than another if it stands before it. -/
theorem compares_less_iff : p.compares .less q = true ↔
    ∃ a b, p.standing? = some a ∧ q.standing? = some b ∧ a.Before b := by
  -- two numbers have an order, two texts are compared as such, and no other pair is in order
  cases p <;> cases q <;>
    simp [compares, less?, order?_eq, standing?, number?, Standing.before_iff, compare_lt_iff_lt,
      -String.lt_iff_ltb]

/-- Primitives are equal if they stand at one place. -/
theorem compares_equal_iff : p.compares .equal q = true ↔
    ∃ a, p.standing? = some a ∧ q.standing? = some a := by
  cases p <;> cases q <;> simp [compares, equal?, same, order?_eq, standing?, number?]
  all_goals exact eq_comm

/-- Both primitives are texts, or both are numbers. -/
@[mk_iff]
inductive Akin : Primitive → Primitive → Prop
  | texts (s t : String) : Akin (string s) (string t)
  | numbers {p q : Primitive} (hp : p.isNumber = true) (hq : q.isNumber = true) : Akin p q

/-- Primitives that are not akin have no order. -/
theorem less?_eq_none (h : ¬p.Akin q) : p.less? q = none := by
  cases p <;> cases q <;> simp_all [akin_iff, isNumber, less?, order?]

theorem Akin.trans (h : p.Akin q) (h' : q.Akin r) : p.Akin r := by
  cases h with
  | texts s t =>
    cases h' with
    | texts _ u => exact .texts s u
    | numbers hq hr => cases hq
  | numbers hp hq =>
    cases h' with
    | texts => cases hq
    | numbers _ hr => exact .numbers hp hr

/-- At most is less or equal, and only akin primitives are compared so. -/
theorem compares_lessEqual_iff : p.compares .lessEqual q = true ↔
    p.Akin q ∧ (p.compares .less q = true ∨ p.compares .equal q = true) := by
  by_cases h : p.Akin q
  · cases h with
    | texts s t => simp [compares, less?, equal?, orEqual, akin_iff]
    | numbers hp hq =>
      simp only [compares, less?_of_isNumber hp hq, equal?_of_isNumber hp hq, Akin.numbers hp hq]
      cases p.order? q with
      | none => simp [orEqual]
      | some o => simp [orEqual]
  · simp [compares, less?_eq_none h, orEqual, h]

/-- The primitive is a number that denotes none. -/
inductive IsUndefined : Primitive → Prop
  | float {x : Float} (h : x.isNaN = true) : IsUndefined (float x)

/-- Every number that denotes one has a place among the numbers. -/
theorem exists_standing_number (hp : p.isNumber = true) (h : ¬p.IsUndefined) :
    ∃ x, p.standing? = some (.number x) := by
  cases p with
  | integer n => exact ⟨_, rfl⟩
  | float x =>
    cases hx : (denote x).value? with
    | none =>
      rw [Number.Denotation.value?_eq_none_iff, Number.denote_eq_undefined_iff] at hx
      exact absurd (.float hx) h
    | some y => exact ⟨y, congrArg (Option.map Standing.number) hx⟩
  | string s => cases hp
  | bool b => cases hp
  | null => cases hp

/-- Of two texts, or two numbers that are not undefined, one stands before the other, or both stand
at the same place. -/
theorem Akin.trichotomy (h : p.Akin q) (hp : ¬p.IsUndefined) (hq : ¬q.IsUndefined) :
    p.compares .less q = true ∨ p.compares .equal q = true ∨ q.compares .less p = true := by
  simp only [compares_less_iff, compares_equal_iff]
  cases h with
  | texts s t =>
    rcases lt_trichotomy s t with h | h | h
    · exact .inl ⟨_, _, rfl, rfl, .texts h⟩
    · exact .inr (.inl ⟨.text t, by rw [h]; rfl, rfl⟩)
    · exact .inr (.inr ⟨_, _, rfl, rfl, .texts h⟩)
  | numbers hp' hq' =>
    obtain ⟨x, hx⟩ := exists_standing_number hp' hp
    obtain ⟨y, hy⟩ := exists_standing_number hq' hq
    rcases lt_trichotomy x y with h | h | h
    · exact .inl ⟨_, _, hx, hy, .numbers h⟩
    · exact .inr (.inl ⟨.number y, by rw [hx, h], hy⟩)
    · exact .inr (.inr ⟨_, _, hy, hx, .numbers h⟩)

end Primitive

/-! ## Values -/

namespace Value

/-- The value comes down to no primitive: it is none, or a list that is not of one node. -/
inductive IsMissing : Value → Prop
  | nothing : IsMissing nothing
  | nodes {ns : List Json} (h : ns.length ≠ 1) : IsMissing (nodes ns)

/-- Both values come down to texts, or both to numbers. -/
def Akin (v w : Value) : Prop :=
  ∃ p q, v.operand? = some p ∧ w.operand? = some q ∧ p.Akin q

/-- The value comes down to a number that denotes none. -/
def IsUndefined (v : Value) : Prop := ∃ p, v.operand? = some p ∧ p.IsUndefined

/-- Where the value stands, if it comes down to a primitive that is not an undefined number. -/
def standing? (v : Value) : Option Standing := v.operand?.bind Primitive.standing?

/-- The comparisons `holds` of values go by where the values stand, and fit together. -/
structure IsCoherent (holds : Comparison → Value → Value → Bool) : Prop where
  equal_iff : ∀ v w, holds .equal v w = true ↔ ∃ a, v.standing? = some a ∧ w.standing? = some a
  less_iff : ∀ v w, holds .less v w = true ↔
    ∃ a b, v.standing? = some a ∧ w.standing? = some b ∧ a.Before b
  equal_symm : ∀ v w, holds .equal v w = holds .equal w v
  notEqual_symm : ∀ v w, holds .notEqual v w = holds .notEqual w v
  not_both : ∀ v w, ¬(holds .equal v w = true ∧ holds .notEqual v w = true)
  less_swap : ∀ v w, holds .less v w = holds .greater w v
  lessEqual_swap : ∀ v w, holds .lessEqual v w = holds .greaterEqual w v
  atMostOne : ∀ v w, [.less, .equal, .greater].countP (holds · v w) ≤ 1
  exactlyOne : ∀ v w, v.Akin w → ¬v.IsUndefined → ¬w.IsUndefined →
    [.less, .equal, .greater].countP (holds · v w) = 1
  lessEqual_iff : ∀ v w, holds .lessEqual v w = true ↔
    v.Akin w ∧ (holds .less v w = true ∨ holds .equal v w = true)
  equal_trans : ∀ u v w, holds .equal u v = true → holds .equal v w = true →
    holds .equal u w = true
  less_trans : ∀ u v w, holds .less u v = true → holds .less v w = true → holds .less u w = true
  lessEqual_trans : ∀ u v w, holds .lessEqual u v = true → holds .lessEqual v w = true →
    holds .lessEqual u w = true
  missing : ∀ v w, v.IsMissing ∨ w.IsMissing → ∀ c, holds c v w = false

variable {u v w : Value}

/-- A value is no operand if it is missing: nothing, no node, or several. -/
theorem operand?_eq_none_iff : v.operand? = none ↔ v.IsMissing := by
  constructor
  · intro h
    match v, h with
    | .nothing, _ => exact .nothing
    | .nodes [], _ => exact .nodes (by decide)
    | .nodes (_ :: _ :: ns), _ => exact .nodes (by simp)
  · intro h
    cases h with
    | nothing => rfl
    | @nodes ns h =>
      match ns, h with
      | [], _ => rfl
      | [_], h => exact absurd rfl h
      | _ :: _ :: _, _ => rfl

/-! ### Comparisons from those of primitives -/

/-- No comparison holds of a missing value. -/
theorem compares_of_isMissing (h : v.IsMissing ∨ w.IsMissing) (c : Comparison) :
    v.compares c w = false := by
  rw [← operand?_eq_none_iff, ← operand?_eq_none_iff] at h
  rw [compares]
  rcases h with h | h
  · rw [h]
  · rw [h]
    cases v.operand? <;> rfl

/-- Values compare as the primitives that they are as operands. -/
theorem compares_eq_true_iff {c : Comparison} : v.compares c w = true ↔
    ∃ p q, v.operand? = some p ∧ w.operand? = some q ∧ p.compares c q = true := by
  rw [compares]
  cases v.operand? <;> cases w.operand? <;> simp

/-- Values are equal if they stand at one place. -/
theorem compares_equal_iff : v.compares .equal w = true ↔
    ∃ a, v.standing? = some a ∧ w.standing? = some a := by
  rw [compares, standing?, standing?]
  cases v.operand? <;> cases w.operand? <;> simp [Primitive.compares_equal_iff]

/-- A value is less than another if it stands before it. -/
theorem compares_less_iff : v.compares .less w = true ↔
    ∃ a b, v.standing? = some a ∧ w.standing? = some b ∧ a.Before b := by
  rw [compares, standing?, standing?]
  cases v.operand? <;> cases w.operand? <;> simp [Primitive.compares_less_iff]

/-- At most is less or equal, and only akin values are compared so. -/
theorem compares_lessEqual_iff : v.compares .lessEqual w = true ↔
    v.Akin w ∧ (v.compares .less w = true ∨ v.compares .equal w = true) := by
  rw [compares, compares, compares, Akin]
  cases v.operand? <;> cases w.operand? <;> simp [Primitive.compares_lessEqual_iff]

/-! ### Comparisons turned round -/

/-- A comparison of primitives that can be turned round can be turned round for values. -/
theorem compares_swap (v w : Value) {c c' : Comparison}
    (h : ∀ p q : Primitive, p.compares c q = q.compares c' p) :
    v.compares c w = w.compares c' v := by
  rw [compares, compares]
  cases v.operand? with
  | none => cases w.operand? <;> rfl
  | some p =>
    cases w.operand? with
    | none => rfl
    | some q => exact h p q

theorem equal_symm (v w : Value) : v.compares .equal w = w.compares .equal v :=
  compares_swap v w fun p q => congrArg (· == some true) (p.equal?_comm q)

theorem notEqual_symm (v w : Value) : v.compares .notEqual w = w.compares .notEqual v :=
  compares_swap v w fun p q => congrArg (· == some false) (p.equal?_comm q)

/-- To be less is to be greater, seen from the other side. -/
theorem less_swap (v w : Value) : v.compares .less w = w.compares .greater v :=
  compares_swap v w fun _ _ => rfl

theorem lessEqual_swap (v w : Value) : v.compares .lessEqual w = w.compares .greaterEqual v :=
  compares_swap v w fun p q => congrArg (Primitive.orEqual _) (p.equal?_comm q)

/-! ### Chains of comparisons -/

/-- Equal values stand at the same place. -/
theorem standing?_eq (h : v.compares .equal w = true) : v.standing? = w.standing? := by
  obtain ⟨a, hv, hw⟩ := compares_equal_iff.mp h
  rw [hv, hw]

/-- Equality is transitive. -/
theorem equal_trans (h : u.compares .equal v = true) (h' : v.compares .equal w = true) :
    u.compares .equal w = true := by
  rw [compares_equal_iff, standing?_eq h]
  exact compares_equal_iff.mp h'

/-- To be less is transitive, also over numbers of different kinds. -/
theorem less_trans (h : u.compares .less v = true) (h' : v.compares .less w = true) :
    u.compares .less w = true := by
  obtain ⟨a, b, hu, hv, hlt⟩ := compares_less_iff.mp h
  obtain ⟨b', c, hv', hw, hlt'⟩ := compares_less_iff.mp h'
  cases hv.symm.trans hv'
  exact compares_less_iff.mpr ⟨a, c, hu, hw, hlt.trans hlt'⟩

theorem Akin.trans (h : u.Akin v) (h' : v.Akin w) : u.Akin w := by
  obtain ⟨p, q, hu, hv, h⟩ := h
  obtain ⟨q', r, hv', hw, h'⟩ := h'
  cases hv.symm.trans hv'
  exact ⟨p, r, hu, hw, h.trans h'⟩

theorem lessEqual_trans (h : u.compares .lessEqual v = true) (h' : v.compares .lessEqual w = true) :
    u.compares .lessEqual w = true := by
  rw [compares_lessEqual_iff] at *
  obtain ⟨hakin, h⟩ := h
  obtain ⟨hakin', h'⟩ := h'
  refine ⟨hakin.trans hakin', ?_⟩
  -- Each of the two steps is strict or an equality, and one strict step is enough.
  rcases h with h | h
  · rcases h' with h' | h'
    · exact .inl (less_trans h h')
    · rw [compares_less_iff, ← standing?_eq h']
      exact .inl (compares_less_iff.mp h)
  · -- the first two values stand at one place, so the second can be replaced by the first
    rwa [compares_less_iff, compares_equal_iff, standing?_eq h, ← compares_less_iff,
      ← compares_equal_iff]

/-! ### One of less, equal and greater -/

theorem not_less_self (h : v.compares .less v = true) : False := by
  obtain ⟨a, b, ha, hb, hlt⟩ := compares_less_iff.mp h
  cases ha.symm.trans hb
  exact hlt.irrefl

theorem not_less_and_equal (h : v.compares .less w = true) (h' : v.compares .equal w = true) :
    False := by
  rw [compares_less_iff, standing?_eq h'] at h
  exact not_less_self (compares_less_iff.mpr h)

theorem not_less_and_greater (h : v.compares .less w = true) (h' : w.compares .less v = true) :
    False :=
  not_less_self (less_trans h h')

/-- Values are not both equal and unequal. -/
theorem not_equal_and_notEqual (h : v.compares .equal w = true)
    (h' : v.compares .notEqual w = true) : False := by
  obtain ⟨p, q, hv, hw, h⟩ := compares_eq_true_iff.mp h
  obtain ⟨p', q', hv', hw', h'⟩ := compares_eq_true_iff.mp h'
  cases hv.symm.trans hv'
  cases hw.symm.trans hw'
  cases (beq_iff_eq.mp h).symm.trans (beq_iff_eq.mp h')

/-- Two values are at most one of less, equal and greater. -/
theorem countP_le_one (v w : Value) :
    [Comparison.less, .equal, .greater].countP (v.compares · w) ≤ 1 := by
  have hle := @not_less_and_equal v w
  have hlg := @not_less_and_greater v w
  have hge := @not_less_and_equal w v
  rw [less_swap w v] at hlg hge
  rw [equal_symm w v] at hge
  simp only [List.countP_cons, List.countP_nil]
  revert hle hlg hge
  cases v.compares .less w <;> cases v.compares .equal w <;> cases v.compares .greater w <;> simp

/-- Akin values that are not undefined are one of less, equal and greater. -/
theorem Akin.trichotomy (h : v.Akin w) (hv : ¬v.IsUndefined) (hw : ¬w.IsUndefined) :
    v.compares .less w = true ∨ v.compares .equal w = true ∨ w.compares .less v = true := by
  obtain ⟨p, q, hp, hq, h⟩ := h
  have hone := h.trichotomy (fun h => hv ⟨p, hp, h⟩) (fun h => hw ⟨q, hq, h⟩)
  rwa [compares, compares, compares, hp, hq]

/-- **Coherence.** The comparisons of values obey all the laws together, since they go by where
the values stand, and the places of one sort are in a row. A value that is missing stands
nowhere, so no comparison holds of it. -/
theorem compares_isCoherent : IsCoherent compares where
  equal_iff _ _ := compares_equal_iff
  less_iff _ _ := compares_less_iff
  equal_symm := equal_symm
  notEqual_symm := notEqual_symm
  not_both _ _ h := not_equal_and_notEqual h.1 h.2
  less_swap := less_swap
  lessEqual_swap := lessEqual_swap
  atMostOne := countP_le_one
  exactlyOne v w h hv hw := by
    refine Nat.le_antisymm (countP_le_one v w) (List.countP_pos_iff.mpr ?_)
    rcases h.trichotomy hv hw with h | h | h
    · exact ⟨.less, by simp, h⟩
    · exact ⟨.equal, by simp, h⟩
    · exact ⟨.greater, by simp, less_swap w v ▸ h⟩
  lessEqual_iff _ _ := compares_lessEqual_iff
  equal_trans _ _ _ := equal_trans
  less_trans _ _ _ := less_trans
  lessEqual_trans _ _ _ := lessEqual_trans
  missing _ _ := compares_of_isMissing

end Value

end JsonPath
