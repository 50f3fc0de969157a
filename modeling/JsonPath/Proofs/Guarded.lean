import JsonPath.Proofs.Lexing.Literal
import JsonPath.Proofs.Steps
import JsonPath.Query.Indices

/-!
# Operations that have no result everywhere

Integers have 64 bits, a bound is moved into a range only if the range does not end before it
starts, and a list has items only at its places. `Guarded` operations say where they run into one of
these limits. What slices, indices and escapes compute does not: with guards everywhere, they come
to the same results.
-/

namespace JsonPath

/-- What an operation without a result runs into. -/
inductive Hazard where
  /-- an integer of more than 64 bits -/
  | overflow
  /-- a difference below zero -/
  | underflow
  /-- a range that ends before it starts -/
  | crossedRange
  /-- a place outside of a list -/
  | outOfBounds

/-- What comes of operations with guards. -/
abbrev Guarded := Except Hazard

namespace Guarded

open Query

variable {α : Type}

/-- A result that depends on a condition. -/
def provided (p : Prop) [Decidable p] (hazard : Hazard) (a : α) : Guarded α :=
  if p then return a else throw hazard

/-- A guard does nothing where its condition holds. -/
theorem provided_eq {p : Prop} [Decidable p] (h : p) (hazard : Hazard) (a : α) :
    provided p hazard a = pure a := if_pos h

/-- An integer of 64 bits. -/
def word (i : Int) : Guarded Int :=
  provided (Int64.minValue.toInt ≤ i ∧ i ≤ Int64.maxValue.toInt) .overflow i

theorem word_eq {i : Int} (h : Int64.minValue.toInt ≤ i) (h' : i ≤ Int64.maxValue.toInt) :
    word i = pure i := provided_eq ⟨h, h'⟩ _ _

/-- A number, moved to the nearer end of a range. -/
def clamp (low high i : Int) : Guarded Int :=
  provided (low ≤ high) .crossedRange (clamped low high i)

theorem clamp_eq {low high : Int} (h : low ≤ high) (i : Int) :
    clamp low high i = pure (clamped low high i) := provided_eq h _ _

/-- The difference of natural numbers. -/
def difference (m n : Nat) : Guarded Nat := provided (n ≤ m) .underflow (m - n)

theorem difference_eq {m n : Nat} (h : n ≤ m) : difference m n = pure (m - n) := provided_eq h _ _

/-- The item at a place. -/
def item (items : List α) (i : Nat) : Guarded α :=
  match items[i]? with
  | some a => return a
  | none => throw .outOfBounds

theorem item_eq {items : List α} {i : Nat} {a : α} (h : items[i]? = some a) :
    item items i = pure a := by
  rw [item, h]

/-! ## Slices -/

/-- The place, counted from the front, of a bound that may count from the end. -/
def fromFront (length : Int) (bound : Int64) : Guarded Int :=
  if bound < 0 then word (length + bound.toInt) else return bound.toInt

/-- The place of a bound, or another place if there is none. -/
def bound (length : Int) (b : Option Int64) (otherwise : Int) : Guarded Int :=
  match b with
  | some b => fromFront length b
  | none => return otherwise

/-- The first index of a slice and the bound that is not reached. -/
def bounds (s : Slice) (length : Int) : Guarded (Int × Int) :=
  match compare (s.step.getD 1) 0 with
  | .gt => do
    let start ← bound length s.start 0
    let stop ← bound length s.stop length
    return (← clamp 0 length start, ← clamp 0 length stop)
  | .lt => do
    let last ← word (length - 1)
    let start ← bound length s.start last
    let negated ← word (-length)
    let front ← word (negated - 1)
    let stop ← bound length s.stop front
    return (← clamp (-1) last start, ← clamp (-1) last stop)
  | .eq => return (0, 0)

/-- The items from an index on, in steps of a given width, up to a bound; a number of them at
most. -/
def itemsFrom (items : List α) (step bound : Int) : Nat → Int → Guarded (List α)
  | 0, _ => return []
  | n + 1, i =>
    if (if 0 < step then i < bound else bound < i) then do
      let place ← provided (0 ≤ i) .outOfBounds i.toNat
      let here ← item items place
      let next ← word (saturated (i + step))
      let others ← itemsFrom items step bound n next
      return here :: others
    else return []

/-- The items that a slice picks, a number of them at most. -/
def slice (s : Slice) (count : Nat) (items : List α) : Guarded (List α) := do
  let (first, bound) ← bounds s (saturated items.length)
  itemsFrom items (s.step.getD 1).toInt bound count first

section Slices

theorem minValue_toInt : Int64.minValue.toInt = -9223372036854775808 := rfl

theorem maxValue_toInt : Int64.maxValue.toInt = 9223372036854775807 := rfl

theorem word_saturated (i : Int) : word (saturated i) = pure (saturated i) := by
  refine word_eq ?_ ?_ <;> simp only [saturated, minValue_toInt, maxValue_toInt] <;> omega

/-- A length of 64 bits. -/
def IsLength (length : Int) : Prop := 0 ≤ length ∧ length ≤ Int64.maxValue.toInt

/-- The saturated number of items is a length. -/
theorem isLength_saturated (n : Nat) : IsLength (saturated n) := by
  simp only [IsLength, saturated, minValue_toInt, maxValue_toInt]
  omega

variable {length : Int}

/-- The sum of a length and a negative bound has 64 bits. -/
theorem fromFront_eq (h : IsLength length) (b : Int64) :
    fromFront length b = pure (Query.fromFront length b) := by
  have hmin := b.minValue_le_toInt
  obtain ⟨h0, hmax⟩ := h
  unfold fromFront Query.fromFront
  split
  · next hb =>
    have hb : b.toInt < 0 := Int64.lt_iff_toInt_lt.mp hb
    have hlow : Int64.minValue.toInt ≤ length + b.toInt := by omega
    have hhigh : length + b.toInt ≤ Int64.maxValue.toInt := by omega
    rw [saturated, Int.min_eq_left hhigh, Int.max_eq_right hlow, word_eq hlow hhigh]
  · rfl

/-- A bound of a slice, counted from the front or from the end, has 64 bits. -/
theorem bound_eq (h : IsLength length) (b : Option Int64) (otherwise : Int) :
    bound length b otherwise = pure ((b.map (Query.fromFront length)).getD otherwise) := by
  cases b with
  | none => rfl
  | some b => exact fromFront_eq h b

/-- Both ends of a slice are computed without a hazard. -/
theorem bounds_eq (s : Slice) (h : IsLength length) : bounds s length = pure (s.bounds length) := by
  have ⟨h0, hmax⟩ := h
  rw [maxValue_toInt] at hmax
  unfold bounds Slice.bounds
  generalize compare (s.step.getD 1) 0 = direction
  -- The direction of the step decides which range the ends are moved into; neither range ends
  -- before it starts.
  cases direction with
  | gt => simp only [bound_eq h, clamp_eq h0, pure_bind]
  | lt =>
    have hlast : word (length - 1) = pure (length - 1) :=
      word_eq (by rw [minValue_toInt]; omega) (by rw [maxValue_toInt]; omega)
    have hnegated : word (-length) = pure (-length) :=
      word_eq (by rw [minValue_toInt]; omega) (by rw [maxValue_toInt]; omega)
    have hfront : word (-length - 1) = pure (-length - 1) :=
      word_eq (by rw [minValue_toInt]; omega) (by rw [maxValue_toInt]; omega)
    have hrange : -1 ≤ length - 1 := by omega
    simp only [hlast, hnegated, hfront, bound_eq h, clamp_eq hrange, pure_bind]
  | eq => rfl

/-- What is kept on the way from one index to the next: an index in front of the bound is the place
of an item. -/
structure OnTheWay (length step bound i : Int) : Prop where
  forwards : 0 < step → 0 ≤ i ∧ bound ≤ length
  backwards : ¬ 0 < step → -1 ≤ bound ∧ (bound < i → i < length ∧ step < 0)

/-- The way of a slice starts at its first index. -/
theorem onTheWay_bounds (s : Slice) (h : IsLength length) :
    OnTheWay length (s.step.getD 1).toInt (s.bounds length).2 (s.bounds length).1 := by
  have ⟨h0, _⟩ := h
  generalize hstep : s.step.getD 1 = step
  unfold Slice.bounds clamped
  rw [hstep]
  -- A step of zero picks nothing: the bound is the start, so nothing is on the way.
  cases hd : compare step 0 with
  | gt =>
    have hpos : 0 < step.toInt := Int64.lt_iff_toInt_lt.mp (Std.compare_eq_gt.mp hd)
    refine ⟨fun _ => ?_, fun hneg => absurd hpos hneg⟩
    dsimp only
    omega
  | lt =>
    have hneg : step.toInt < 0 := Int64.lt_iff_toInt_lt.mp (Std.compare_eq_lt.mp hd)
    refine ⟨fun hpos => absurd hneg (Int.not_lt.mpr (Int.le_of_lt hpos)), fun _ => ?_⟩
    dsimp only
    omega
  | eq =>
    have hzero : step = 0 := Std.LawfulEqOrd.eq_of_compare hd
    rw [hzero]
    refine ⟨fun hpos => absurd hpos (by decide), fun _ => ?_⟩
    dsimp only
    omega

/-- The way goes on at the next index, also where that is saturated. -/
theorem OnTheWay.next {step bound i : Int} (h : OnTheWay length step bound i) :
    OnTheWay length step bound (saturated (i + step)) := by
  obtain ⟨hforwards, hbackwards⟩ := h
  unfold saturated
  rw [minValue_toInt, maxValue_toInt]
  refine ⟨fun hpos => ?_, fun hneg => ?_⟩
  · have := hforwards hpos
    omega
  · have := hbackwards hneg
    omega

/-- On the way and not at its end, an index is one of an item. -/
theorem OnTheWay.lt {step bound i : Int} (h : OnTheWay length step bound i)
    (hi : if 0 < step then i < bound else bound < i) : 0 ≤ i ∧ i < length := by
  by_cases hpos : 0 < step
  · have := h.forwards hpos
    rw [if_pos hpos] at hi
    omega
  · have := h.backwards hpos
    rw [if_neg hpos] at hi
    omega

/-- From any index on the way, the guarded steps pick the items at the indices of the slice. -/
theorem itemsFrom_eq {items : List α} {step bound : Int} (count : Nat) {i : Int}
    (h : OnTheWay (saturated items.length) step bound i) :
    itemsFrom items step bound count i =
      pure ((Slice.indicesFrom step bound count i).filterMap (items[·]?)) := by
  induction count generalizing i with
  | zero => rfl
  | succ n ih =>
    unfold itemsFrom Slice.indicesFrom
    by_cases hi : if 0 < step then i < bound else bound < i
    · obtain ⟨h0, hlt⟩ := h.lt hi
      have hplace : i.toNat < items.length := by
        unfold saturated at hlt
        rw [minValue_toInt, maxValue_toInt] at hlt
        omega
      have hitem := List.getElem?_eq_getElem hplace
      rw [if_pos hi, if_pos hi, provided_eq h0, pure_bind, item_eq hitem, pure_bind,
        word_saturated, pure_bind, ih h.next, pure_bind, List.filterMap_cons, hitem]
    · rw [if_neg hi, if_neg hi]
      rfl

/-- How far an index is in front of the bound. -/
def room (step bound i : Int) : Nat := (if 0 < step then bound - i else i - bound).toNat

/-- There is no more room than there are items. -/
theorem OnTheWay.room_le {step bound i : Int} (h : OnTheWay length step bound i) :
    room step bound i ≤ length.toNat := by
  unfold room
  split
  · next hpos =>
    have := h.forwards hpos
    omega
  · next hneg =>
    have := h.backwards hneg
    omega

theorem OnTheWay.room_next {step bound i : Int} (h : OnTheWay length step bound i)
    (hl : IsLength length) (hi : if 0 < step then i < bound else bound < i) :
    room step bound (saturated (i + step)) < room step bound i := by
  obtain ⟨h0, hmax⟩ := hl
  unfold room saturated
  rw [minValue_toInt]
  rw [maxValue_toInt] at hmax ⊢
  by_cases hpos : 0 < step
  · have := h.forwards hpos
    rw [if_pos hpos] at hi
    rw [if_pos hpos, if_pos hpos]
    omega
  · have := h.backwards hpos
    rw [if_neg hpos] at hi
    rw [if_neg hpos, if_neg hpos]
    omega

/-- Behind the bound there are no indices, whatever their number. -/
theorem indicesFrom_of_not {step bound i : Int} (n : Nat)
    (hi : ¬ if 0 < step then i < bound else bound < i) :
    Slice.indicesFrom step bound n i = [] := by
  cases n with
  | zero => rfl
  | succ n => rw [Slice.indicesFrom, if_neg hi]

/-- The way ends by itself: there are no more indices than there is room. -/
theorem indicesFrom_eq_of_room_le {step bound i : Int} {m n : Nat}
    (h : OnTheWay length step bound i) (hl : IsLength length) (hm : room step bound i ≤ m)
    (hn : room step bound i ≤ n) :
    Slice.indicesFrom step bound m i = Slice.indicesFrom step bound n i := by
  induction m generalizing n i with
  | zero =>
    rw [indicesFrom_of_not 0, indicesFrom_of_not n]
    all_goals
      intro hi
      exact absurd (h.room_next hl hi) (by omega)
  | succ m ih =>
    by_cases hi : if 0 < step then i < bound else bound < i
    · have hnext := h.room_next hl hi
      cases n with
      | zero => omega
      | succ n =>
        rw [Slice.indicesFrom, Slice.indicesFrom, if_pos hi, if_pos hi,
          ih (n := n) h.next (by omega) (by omega)]
    · rw [indicesFrom_of_not _ hi, indicesFrom_of_not _ hi]

/-- With all guards, a slice picks the same items, and no more than there are. -/
theorem slice_eq (s : Slice) (items : List α) {count : Nat} (h : items.length ≤ count) :
    slice s count items = pure ((s.indices items.length).filterMap (items[·]?)) := by
  have hl := isLength_saturated items.length
  have hway := onTheWay_bounds s hl
  have hroom : (saturated items.length).toNat ≤ items.length := by
    unfold saturated
    rw [minValue_toInt, maxValue_toInt]
    omega
  have hindices := indicesFrom_eq_of_room_le hway hl
    (Nat.le_trans hway.room_le (Nat.le_trans hroom h)) (Nat.le_trans hway.room_le hroom)
  have hitems := itemsFrom_eq count hway
  rw [hindices] at hitems
  rw [slice, bounds_eq s hl, pure_bind]
  exact hitems

end Slices

/-! ## Indices -/

/-- The item that an index stands for, unless it is outside. -/
def index (i : Int64) (items : List α) : Guarded (Option α) := do
  let i ← fromFront (saturated items.length) i
  if 0 ≤ i ∧ i.toNat < items.length then some <$> item items i.toNat else return none

/-- An index, from the front or from the end, is looked up without a hazard. -/
theorem index_eq (i : Int64) (items : List α) :
    index i items = pure ((place? i items.length).bind (items[·]?)) := by
  rw [index, fromFront_eq (isLength_saturated items.length), pure_bind, place?]
  split
  · next h =>
    rw [item_eq (List.getElem?_eq_getElem h.2), map_pure, Option.bind_some,
      List.getElem?_eq_getElem h.2]
  · rfl

/-! ## The only node -/

/-- The only item of a list. -/
def only (items : List α) : Guarded (Option α) :=
  if items.length = 1 then some <$> item items 0 else return none

/-! ## Escapes -/

section Escapes

open Token

/-- The code point that a surrogate pair denotes. -/
def surrogatePair (high low : Nat) : Guarded Nat := do
  let upper ← difference high 0xD800
  let lower ← difference low 0xDC00
  return 0x10000 + upper * 0x400 + lower

/-- The two halves of a pair make up a code point without a hazard. -/
theorem surrogatePair_eq {high low : Nat} (h : isHighSurrogate high = true)
    (h' : isLowSurrogate low = true) :
    surrogatePair high low = pure (Literal.surrogatePair high low) := by
  obtain ⟨hhigh, -⟩ := by simpa only [isHighSurrogate, Bool.and_eq_true, decide_eq_true_eq] using h
  obtain ⟨hlow, -⟩ := by simpa only [isLowSurrogate, Bool.and_eq_true, decide_eq_true_eq] using h'
  have hsum : 0x10000 + (high - 0xD800) * 0x400 + (low - 0xDC00)
      = Literal.surrogatePair high low := by
    unfold Literal.surrogatePair
    omega
  rw [surrogatePair, difference_eq hhigh, difference_eq hlow, pure_bind, pure_bind, hsum]

example : surrogatePair 0xD7FF 0xDC00 = .error .underflow := rfl

/-- The characters that the inside of a literal denotes. -/
def decode : List Char → Guarded (List Char)
  | [] => return []
  | ['\\'] => return []
  | '\\' :: 'u' :: rest => do
    let high := Literal.hexQuad rest
    if isHighSurrogate high then
      let code ← surrogatePair high (Literal.hexQuad (rest.drop 6))
      return Literal.charOf code :: (← decode (rest.drop 10))
    else return Literal.charOf high :: (← decode (rest.drop 4))
  | '\\' :: c :: rest => return Literal.escaped c :: (← decode rest)
  | c :: rest => return c :: (← decode rest)
termination_by cs => cs.length
decreasing_by
  all_goals simp only [List.length_drop, List.length_cons]; omega

/-- The text that a literal denotes. -/
def unescape (text : String) : Guarded String :=
  String.ofList <$> decode (text.toList.drop 1).dropLast

/-- Between quotes, both halves of a surrogate pair are there. -/
theorem decode_denotes {quote c : Char} {ws : List Char} (h : Literal.Denotes quote ws c)
    (cs : List Char) : decode (ws ++ cs) = (c :: ·) <$> decode cs := by
  cases h with
  | plain _ hs _ =>
    rw [List.singleton_append, decode, map_eq_pure_bind]
    · exact fun h _ => hs h
    · exact fun _ h _ => hs h
    · exact fun _ _ h _ => hs h
  | letter hu _ =>
    rw [List.cons_append, List.singleton_append, decode, map_eq_pure_bind]
    exact fun h => hu h
  | @code ds n h hhigh _ =>
    rw [List.cons_append, List.cons_append, decode, h.hexQuad_eq]
    simp only [hhigh, Bool.false_eq_true, if_false]
    rw [List.drop_left' h.length_eq, map_eq_pure_bind]
  | @pair ds high es low h hhigh h' hlow =>
    rw [List.cons_append, List.cons_append, decode, h.drop_first, h.drop_both h', h'.hexQuad_eq,
      List.append_assoc, h.hexQuad_eq]
    simp only [hhigh, if_true]
    rw [surrogatePair_eq hhigh hlow, pure_bind, map_eq_pure_bind]

theorem decode_inside {quote : Char} {ws cs : List Char} (h : Literal.Inside quote ws cs) :
    decode ws = pure cs := by
  induction h with
  | nil => rw [decode]
  | cons head _ ih => rw [decode_denotes head, ih, map_pure]

/-- A quoted string is unescaped without a hazard. -/
theorem unescape_eq {text : String} {cs : List Char} (h : Literal.IsQuoted text.toList cs) :
    unescape text = pure (Literal.unescape text) := by
  obtain ⟨quote, ws, htext, hinside⟩ := h
  have hws : (text.toList.drop 1).dropLast = ws := by
    rw [htext, List.drop_succ_cons, List.drop_zero, List.dropLast_concat]
  rw [unescape, Literal.unescape, hws, decode_inside hinside, Literal.decode_inside hinside,
    map_pure]

end Escapes

end Guarded

end JsonPath
