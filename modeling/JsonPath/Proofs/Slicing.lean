import JsonPath.Proofs.Guarded

/-!
# What a slice picks

RFC 9535 gives the indices of a slice by a loop over integers of any size. The loop that is run
keeps its bounds and its sums within 64 bits. Both go through the same indices (`followsStandard`):
a bound that counts from the end of an array needs no more than 64 bits, and on the way from one
bound to the other no sum does but the last one, which is behind the bound either way
(`Loop.exact`).

A loop is a relation here (`Loop`), so what is said to be gone through is so by a loop that ends.
-/

namespace JsonPath.Query.Slice

open Guarded (IsLength OnTheWay room)

/-! ## Loops -/

/-- The loop that starts at an integer and moves on to the next one as long as a condition holds
goes through these integers, and ends behind them. -/
inductive Loop (goesOn : Int → Prop) (next : Int → Int) : Int → List Int → Prop
  | stop {i : Int} (h : ¬ goesOn i) : Loop goesOn next i []
  | step {i : Int} {is : List Int} (h : goesOn i) (rest : Loop goesOn next (next i) is) :
    Loop goesOn next i (i :: is)

namespace Loop

variable {goesOn : Int → Prop} {next : Int → Int} {i : Int} {is js : List Int}

/-- A loop visits one list of numbers only. -/
theorem unique (h : Loop goesOn next i is) (h' : Loop goesOn next i js) : is = js := by
  induction h generalizing js with
  | stop hi =>
    cases h' with
    | stop _ => rfl
    | step hi' _ => exact absurd hi' hi
  | step hi _ ih =>
    cases h' with
    | stop hi' => exact absurd hi hi'
    | step _ rest => rw [ih rest]

/-- What holds at the start and is kept by each round holds of all that the loop goes through. -/
theorem forall_mem {P : Int → Prop} (hnext : ∀ j, P j → goesOn j → P (next j))
    (h : Loop goesOn next i is) (hi : P i) : ∀ j ∈ is, P j ∧ goesOn j := by
  induction h with
  | stop _ => exact fun _ hj => absurd hj List.not_mem_nil
  | step hgo _ ih => exact List.forall_mem_cons.mpr ⟨⟨hi, hgo⟩, ih (hnext _ hi hgo)⟩

/-- A loop whose rounds all lead one way goes through integers in that order. -/
theorem pairwise {R : Int → Int → Prop} (htrans : ∀ {a b c}, R a b → R b c → R a c)
    (hnext : ∀ j, R j (next j)) (h : Loop goesOn next i is) : is.Pairwise R := by
  induction h with
  | stop _ => exact .nil
  | @step i is _ rest ih =>
    have hbehind := rest.forall_mem (P := R i) (fun j hj _ => htrans hj (hnext j)) (hnext i)
    exact .cons (fun j hj => (hbehind j hj).1) ih

end Loop

/-! ## The standard -/

/-- How far one index is from the next. -/
def width (s : Slice) : Int := (s.step.getD 1).toInt

/-- The place that a bound stands for: a negative bound counts from the end. -/
def normalized (length bound : Int) : Int := if 0 ≤ bound then bound else length + bound

/-- The place where the slice starts. -/
def startPlace (s : Slice) (length : Int) : Int :=
  normalized length ((s.start.map Int64.toInt).getD (if 0 ≤ s.width then 0 else length - 1))

/-- The place where the slice stops. -/
def stopPlace (s : Slice) (length : Int) : Int :=
  normalized length ((s.stop.map Int64.toInt).getD (if 0 ≤ s.width then length else -length - 1))

/-- The lower end of the slice, at which or behind which its indices are. -/
def lower (s : Slice) (length : Int) : Int :=
  if 0 ≤ s.width then min (max (s.startPlace length) 0) length
  else min (max (s.stopPlace length) (-1)) (length - 1)

/-- The upper end of the slice. -/
def upper (s : Slice) (length : Int) : Int :=
  if 0 ≤ s.width then min (max (s.stopPlace length) 0) length
  else min (max (s.startPlace length) (-1)) (length - 1)

/-- These are the indices of the slice according to RFC 9535. -/
inductive Picks (s : Slice) (length : Int) : List Int → Prop
  | forwards {is : List Int} (h : 0 < s.width)
    (loop : Loop (· < s.upper length) (· + s.width) (s.lower length) is) : Picks s length is
  | backwards {is : List Int} (h : s.width < 0)
    (loop : Loop (s.lower length < ·) (· + s.width) (s.upper length) is) : Picks s length is
  | nowhere (h : s.width = 0) : Picks s length []

/-- A slice picks one list of indices only. -/
theorem Picks.unique {s : Slice} {length : Int} {is js : List Int} (h : s.Picks length is)
    (h' : s.Picks length js) : is = js := by
  cases h with
  | forwards h loop =>
    cases h' with
    | forwards _ loop' => exact loop.unique loop'
    | backwards h' _ => omega
    | nowhere h' => omega
  | backwards h loop =>
    cases h' with
    | forwards h' _ => omega
    | backwards _ loop' => exact loop.unique loop'
    | nowhere h' => omega
  | nowhere h =>
    cases h' with
    | forwards h' _ => omega
    | backwards h' _ => omega
    | nowhere _ => rfl

/-! ## The loop that is run -/

/-- The bound is still ahead. -/
def InFront (step bound i : Int) : Prop := if 0 < step then i < bound else bound < i

theorem inFront_forwards {step : Int} (h : 0 < step) (bound : Int) :
    InFront step bound = (· < bound) := funext fun _ => if_pos h

theorem inFront_backwards {step : Int} (h : ¬ 0 < step) (bound : Int) :
    InFront step bound = (bound < ·) := funext fun _ => if_neg h

/-- The loop that is run goes through these integers. All its sums are kept within 64 bits. -/
def Runs (s : Slice) (length : Int) (is : List Int) : Prop :=
  Loop (InFront s.width (s.bounds length).2) (fun i => saturated (i + s.width))
    (s.bounds length).1 is

section Loops

variable {length step bound i : Int}

/-- Indices are listed as the loop goes through them, if there is room in the list. -/
theorem loop_indicesFrom (hl : IsLength length) (n : Nat) (h : OnTheWay length step bound i)
    (hn : room step bound i ≤ n) :
    Loop (InFront step bound) (fun i => saturated (i + step)) i
      ((indicesFrom step bound n i).map Nat.cast) := by
  induction n generalizing i with
  | zero =>
    refine .stop fun hi => ?_
    have := h.room_next hl hi
    omega
  | succ n ih =>
    by_cases hi : if 0 < step then i < bound else bound < i
    · have hroom := h.room_next hl hi
      rw [indicesFrom, if_pos hi, List.map_cons, Int.toNat_of_nonneg (h.lt hi).1]
      exact .step hi (ih h.next (by omega))
    · rw [indicesFrom, if_neg hi]
      exact .stop hi

/-- A sum of more than 64 bits is behind the bound, and so is what is kept of it. -/
theorem saturated_or (hl : IsLength length) (h : OnTheWay length step bound i)
    (hi : InFront step bound i) :
    saturated (i + step) = i + step ∨
      ¬ InFront step bound (saturated (i + step)) ∧ ¬ InFront step bound (i + step) := by
  obtain ⟨h0, hmax⟩ := hl
  simp only [InFront, saturated] at *
  rw [Guarded.minValue_toInt]
  rw [Guarded.maxValue_toInt] at hmax ⊢
  by_cases hpos : 0 < step
  · have := h.forwards hpos
    simp only [if_pos hpos] at hi ⊢
    omega
  · have := h.backwards hpos
    simp only [if_neg hpos] at hi ⊢
    omega

/-- The loop goes through the same integers if its sums are exact. -/
theorem Loop.exact {is : List Int} (hl : IsLength length) (h : OnTheWay length step bound i)
    (loop : Loop (InFront step bound) (fun i => saturated (i + step)) i is) :
    Loop (InFront step bound) (· + step) i is := by
  induction loop with
  | stop hi => exact .stop hi
  | step hi rest ih =>
    refine .step hi ?_
    rcases saturated_or hl h hi with heq | ⟨hsaturated, hexact⟩
    · exact heq ▸ ih h.next
    · cases rest with
      | stop _ => exact .stop hexact
      | step hi' _ => exact absurd hi' hsaturated

end Loops

/-! ## Bounds -/

section Bounds

variable {s : Slice} {length : Int}

/-- A bound that counts from the end needs no more than 64 bits. -/
theorem fromFront_eq_normalized (h : IsLength length) (b : Int64) :
    fromFront length b = normalized length b.toInt := by
  have hmin := b.minValue_le_toInt
  obtain ⟨h0, hmax⟩ := h
  have hneg : b < 0 ↔ b.toInt < 0 := Int64.lt_iff_toInt_lt
  rw [fromFront, normalized]
  by_cases hb : b.toInt < 0
  · rw [if_pos (hneg.mpr hb), if_neg (by omega), saturated]
    omega
  · rw [if_neg fun h => hb (hneg.mp h), if_pos (by omega)]

/-- A bound, moved into a range. What stands for a bound that is left out is not counted from the
end, which makes no difference once it is moved. -/
theorem clamped_getD (h : IsLength length) {low high otherwise : Int} (hle : low ≤ high)
    (b : Option Int64)
    (ho : clamped low high otherwise = clamped low high (normalized length otherwise)) :
    clamped low high ((b.map (fromFront length)).getD otherwise) =
      min (max (normalized length ((b.map Int64.toInt).getD otherwise)) low) high := by
  cases b with
  | none =>
    rw [Option.map_none, Option.map_none, Option.getD_none, ho, clamped]
    omega
  | some b =>
    rw [Option.map_some, Option.map_some, Option.getD_some, fromFront_eq_normalized h, clamped,
      Option.getD_some]
    omega

/-- A slice that goes forwards runs from its lower bound to its upper one. -/
theorem bounds_forwards (h : IsLength length) (hpos : 0 < s.width) :
    s.bounds length = (s.lower length, s.upper length) := by
  have hd : compare (s.step.getD 1) 0 = .gt :=
    Std.compare_eq_gt.mpr (Int64.lt_iff_toInt_lt.mpr hpos)
  have h0 := h.1
  simp only [bounds, lower, upper, startPlace, stopPlace, hd, if_pos (Int.le_of_lt hpos)]
  rw [clamped_getD h h0 s.start, clamped_getD h h0 s.stop]
  · rw [normalized, if_pos h0]
  · rfl

/-- A slice that goes backwards runs from its upper bound to its lower one. -/
theorem bounds_backwards (h : IsLength length) (hneg : s.width < 0) :
    s.bounds length = (s.upper length, s.lower length) := by
  have hd : compare (s.step.getD 1) 0 = .lt :=
    Std.compare_eq_lt.mpr (Int64.lt_iff_toInt_lt.mpr hneg)
  have h0 := h.1
  have hle : -1 ≤ length - 1 := by omega
  simp only [bounds, lower, upper, startPlace, stopPlace, hd, if_neg (Int.not_le.mpr hneg)]
  rw [clamped_getD h hle s.start, clamped_getD h hle s.stop]
  · rw [normalized, if_neg (by omega), clamped, clamped]
    omega
  · rw [normalized, clamped, clamped]
    omega

theorem bounds_nowhere (hzero : s.width = 0) : s.bounds length = (0, 0) := by
  have hstep : s.step.getD 1 = 0 := Int64.toInt.inj hzero
  have hd : compare (s.step.getD 1) 0 = .eq := by
    rw [hstep]
    exact Std.ReflCmp.compare_self
  rw [bounds, hd]

end Bounds

/-! ## Main statement -/

/-- The indices of a slice are those of its run through the array. -/
theorem indices_eq (s : Slice) {length : Nat} (h : (length : Int) ≤ Int64.maxValue.toInt) :
    s.indices length =
      indicesFrom s.width (s.bounds length).2 length (s.bounds length).1 := by
  have hlength : saturated length = length := by
    rw [Guarded.maxValue_toInt] at h
    rw [saturated, Guarded.minValue_toInt, Guarded.maxValue_toInt]
    omega
  rw [indices, hlength]
  rfl

/-- The indices of a slice are those of the standard, and nothing on the way to them needs more than
64 bits. -/
structure FollowsStandard (s : Slice) (length : Nat) : Prop where
  /-- the standard has the slice pick these indices and no others -/
  picks_iff : ∀ is : List Int, s.Picks length is ↔ is = (s.indices length).map Nat.cast
  /-- the loop with sums in 64 bits ends by itself, and goes through them too -/
  runs_iff : ∀ is : List Int, s.Runs length is ↔ is = (s.indices length).map Nat.cast
  lt : ∀ i ∈ s.indices length, i < length
  ascending : 0 < s.width → (s.indices length).Pairwise (· < ·)
  descending : s.width < 0 → (s.indices length).Pairwise (· > ·)
  /-- with guards everywhere, the slice picks the same items -/
  guarded : ∀ {α : Type} (items : List α), items.length = length →
    Guarded.slice s length items = pure ((s.indices length).filterMap (items[·]?))

/-- **Slices.** Every slice follows the standard, in arrays whose length is one of 64 bits. -/
theorem followsStandard (s : Slice) {length : Nat} (h : (length : Int) ≤ Int64.maxValue.toInt) :
    s.FollowsStandard length := by
  have hl : IsLength length := ⟨Int.natCast_nonneg length, h⟩
  have hway : OnTheWay length s.width (s.bounds length).2 (s.bounds length).1 :=
    Guarded.onTheWay_bounds s hl
  have hruns : s.Runs length ((s.indices length).map Nat.cast) := by
    rw [indices_eq s h]
    exact loop_indicesFrom hl length hway (Int.toNat_natCast length ▸ hway.room_le)
  have hexact := hruns.exact hl hway
  have hpicks : s.Picks length ((s.indices length).map Nat.cast) := by
    -- The standard says apart what a slice picks forwards, backwards and in steps of zero.
    rcases Int.lt_trichotomy s.width 0 with hneg | hzero | hpos
    · rw [bounds_backwards hl hneg, inFront_backwards (Int.lt_asymm hneg)] at hexact
      exact .backwards hneg hexact
    · have hstop : ¬ InFront s.width (s.bounds length).2 (s.bounds length).1 := by
        rw [bounds_nowhere hzero, hzero]
        exact Int.lt_irrefl 0
      rw [hruns.unique (.stop hstop)]
      exact .nowhere hzero
    · rw [bounds_forwards hl hpos, inFront_forwards hpos] at hexact
      exact .forwards hpos hexact
  refine ⟨fun is => ⟨fun his => his.unique hpicks, fun his => his ▸ hpicks⟩,
    fun is => ⟨fun his => his.unique hruns, fun his => his ▸ hruns⟩, fun i hi => ?_, fun hpos => ?_,
    fun hneg => ?_, fun items hitems => ?_⟩
  · obtain ⟨hi', hgo⟩ :=
      hruns.forall_mem (fun j hj _ => hj.next) hway i (List.mem_map_of_mem hi)
    exact Int.ofNat_lt.mp (hi'.lt hgo).2
  · have hascends := hexact.pairwise (R := (· < ·)) Int.lt_trans fun j =>
      Int.lt_add_of_pos_right j hpos
    exact (List.pairwise_map.mp hascends).imp Int.ofNat_lt.mp
  · have hdescends := hexact.pairwise (R := (· > ·)) (fun h h' => Int.lt_trans h' h) fun j =>
      (by omega : j + s.width < j)
    exact (List.pairwise_map.mp hdescends).imp Int.ofNat_lt.mp
  · subst hitems
    exact Guarded.slice_eq s items (Nat.le_refl _)

/-- A slice of the longest array there can be, whose steps lead beyond 64 bits. -/
theorem followsStandard_longest :
    let s : Slice := ⟨none, none, some 4611686018427387904⟩
    let length : Nat := 9223372036854775807
    (length : Int) ≤ Int64.maxValue.toInt ∧ s.FollowsStandard length ∧
      s.indices length = [0, 4611686018427387904] :=
  ⟨by decide, followsStandard _ (by decide), by decide⟩

end JsonPath.Query.Slice
