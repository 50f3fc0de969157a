import Mathlib.Data.Nat.Bitwise
import JsonPath.Regex.Match

/-!
# The meaning of patterns

A pattern matches stretches of a text, each from one place to a later one or the same. Which
stretches these are is said here part by part (`Pattern.Spans`), without sets of places and without
a bound on how often something is repeated. Matching finds just these stretches: the ends for a set
of starts are the places to which a stretch leads from one of them (`Pattern.plan_follows`), so a
text has a match if it has such a stretch (`Pattern.isMatch_iff`).
-/

namespace JsonPath.Regex

/-! ## Stretches -/

/-- Whether the condition holds at a place of a text. -/
def Look.holdsAt (l : Look) (text : List Char) (i : Nat) : Bool :=
  l.holds (text.take i).getLast? text[i]?

/-- A number of turns, each of which starts where the one before it ends. -/
def Turns (R : Nat → Nat → Prop) : (count : Nat) → Nat → Nat → Prop
  | 0, i, j => i = j
  | n + 1, i, k => ∃ j, R i j ∧ Turns R n j k

/-- One character of a set. -/
def CharSet.Spans (text : List Char) (s : CharSet) (i j : Nat) : Prop :=
  text[i]?.any s.contains ∧ i + 1 = j

namespace Pattern

mutual

/-- The pattern matches the stretch of a text from one place to another. An upper bound of a
repetition that is below the lower one counts as the lower one. -/
def Spans (text : List Char) : Pattern → Nat → Nat → Prop
  | empty, i, j => i = j
  | setting, i, j => i = j
  | one s, i, j => s.Spans text i j
  | bracket s _, i, j => s.Spans text i j
  | look l, i, j => l.holdsAt text i ∧ i = j
  | sequence ps, i, j => SpanAll text ps i j
  | choice ps, i, j => SpanAny text ps i j
  | repetition p least most _, i, j =>
    ∃ n, least ≤ n ∧ (∀ m ∈ most, n ≤ max least m) ∧ Turns (Spans text p) n i j
  | group _ p, i, j => Spans text p i j

/-- Patterns in sequence match a stretch. -/
def SpanAll (text : List Char) : List Pattern → Nat → Nat → Prop
  | [], i, j => i = j
  | p :: ps, i, k => ∃ j, Spans text p i j ∧ SpanAll text ps j k

/-- One of several patterns matches a stretch. -/
def SpanAny (text : List Char) : List Pattern → Nat → Nat → Prop
  | [], _, _ => False
  | p :: ps, i, j => Spans text p i j ∨ SpanAny text ps i j

end

end Pattern

/-! ## Places -/

namespace Places

/-- A mask holds the marks that it is made of. -/
theorem testBit_ofMarks (marks : List Bool) (i : Nat) :
    (ofMarks marks).testBit i = marks[i]?.getD false := by
  induction marks generalizing i with
  | nil => exact Nat.zero_testBit i
  | cons b bs ih =>
    rw [ofMarks]
    cases i with
    | zero => cases b <;> simp [Nat.testBit_zero]
    | succ i =>
      have hhalf : (b.toNat + 2 * ofMarks bs) / 2 = ofMarks bs := by
        have := Bool.toNat_le b
        omega
      rw [Nat.testBit_succ, hhalf, ih]
      rfl

/-- All places are in a text of some length. -/
def Inside (length : Nat) (s : Places) : Prop := ∀ i, s.testBit i → i ≤ length

end Places

/-- The marks for a condition, where a character may stand in front of the text. -/
theorem getElem?_marksOf (l : Look) (before : Option Char) (cs : List Char) {i : Nat}
    (h : i ≤ cs.length) :
    (marksOf l before cs)[i]? = some (l.holds (before.toList ++ cs.take i).getLast? cs[i]?) := by
  induction cs generalizing before i with
  | nil =>
    obtain rfl := Nat.le_zero.mp h
    cases before <;> rfl
  | cons c cs ih =>
    cases i with
    | zero => cases before <;> rfl
    | succ i =>
      have hlast : (before.toList ++ c :: cs.take i).getLast? = (c :: cs.take i).getLast? := by
        rw [List.getLast?_append, List.getLast?_cons]
        rfl
      rw [marksOf, List.getElem?_cons_succ, List.getElem?_cons_succ,
        ih (some c) (Nat.le_of_succ_le_succ h), List.take_succ_cons, hlast]
      rfl

/-- The marks of a condition are the places at which it holds. -/
theorem testBit_marksOf (l : Look) {text : List Char} {i : Nat} (h : i ≤ text.length) :
    (Places.ofMarks (marksOf l none text)).testBit i = l.holdsAt text i := by
  rw [Places.testBit_ofMarks, getElem?_marksOf l none text h]
  rfl

theorem testBit_contains (s : CharSet) (text : List Char) (i : Nat) :
    (Places.ofMarks (text.map s.contains)).testBit i = text[i]?.any s.contains := by
  rw [Places.testBit_ofMarks, List.getElem?_map]
  cases text[i]? <;> rfl

/-! ## Turns -/

/-- Turns can be divided into those in front and those behind. -/
theorem turns_add_iff {R : Nat → Nat → Prop} {a b i k : Nat} :
    Turns R (a + b) i k ↔ ∃ j, Turns R a i j ∧ Turns R b j k := by
  induction a generalizing i with
  | zero =>
    rw [Nat.zero_add]
    exact ⟨fun h => ⟨i, rfl, h⟩, fun ⟨j, hij, h⟩ => hij ▸ h⟩
  | succ a ih =>
    rw [Nat.succ_add]
    constructor
    · rintro ⟨j, hij, hjk⟩
      obtain ⟨m, hjm, hmk⟩ := ih.mp hjk
      exact ⟨m, ⟨j, hij, hjm⟩, hmk⟩
    · rintro ⟨m, ⟨j, hij, hjm⟩, hmk⟩
      exact ⟨j, hij, ih.mpr ⟨m, hjm, hmk⟩⟩

/-! ## Steps along a relation -/

/-- A step over sets of places goes along a relation: it leads to the places that are related to one
of its starts. These are no earlier than the start, and in the text as well. -/
structure Follows (length : Nat) (step : Places → Places) (R : Nat → Nat → Prop) : Prop where
  forward : ∀ {i j}, i ≤ length → R i j → i ≤ j ∧ j ≤ length
  testBit_iff : ∀ {s}, s.Inside length → ∀ j, (step s).testBit j ↔ ∃ i, s.testBit i ∧ R i j

namespace Follows

variable {length : Nat} {step step' : Places → Places} {R R' : Nat → Nat → Prop} {s : Places}

theorem inside (h : Follows length step R) (hs : s.Inside length) : (step s).Inside length := by
  intro j hj
  obtain ⟨i, hi, hij⟩ := (h.testBit_iff hs j).mp hj
  exact (h.forward (hs i hi) hij).2

/-- A relation may be replaced by an equivalent one. -/
theorem congr (h : Follows length step R) (hR : ∀ i j, i ≤ length → (R i j ↔ R' i j)) :
    Follows length step R' where
  forward hi hij := h.forward hi ((hR _ _ hi).mpr hij)
  testBit_iff hs j := by
    rw [h.testBit_iff hs j]
    exact exists_congr fun i => and_congr_right fun hi => hR i j (hs i hi)

theorem stay (length : Nat) : Follows length Plan.stay.ends (· = ·) where
  forward hi hij := ⟨hij.le, hij ▸ hi⟩
  testBit_iff _ j := ⟨fun h => ⟨j, h, rfl⟩, fun ⟨_, hi, hij⟩ => hij ▸ hi⟩

/-- Nothing is spanned at the places that are kept. -/
theorem keep {here : Places} {P : Nat → Prop} (hP : ∀ i, i ≤ length → (here.testBit i ↔ P i)) :
    Follows length (Plan.keep here).ends fun i j => P i ∧ i = j where
  forward hi hij := ⟨hij.2.le, hij.2 ▸ hi⟩
  testBit_iff hs j := by
    rw [Plan.ends, Nat.testBit_and, Bool.and_eq_true]
    constructor
    · rintro ⟨hj, hhere⟩
      exact ⟨j, hj, (hP j (hs j hj)).mp hhere, rfl⟩
    · rintro ⟨i, hi, hPi, rfl⟩
      exact ⟨hi, (hP i (hs i hi)).mpr hPi⟩

/-- One character is spanned from the places that are taken. -/
theorem take {here : Places} {P : Nat → Prop} (hP : ∀ i, here.testBit i ↔ P i)
    (hlt : ∀ i, P i → i < length) :
    Follows length (Plan.take here).ends fun i j => P i ∧ i + 1 = j where
  forward hi hij := by
    obtain ⟨hPi, rfl⟩ := hij
    exact ⟨Nat.le_succ _, hlt _ hPi⟩
  testBit_iff {s} _ j := by
    rw [Plan.ends, Nat.testBit_shiftLeft, Bool.and_eq_true, Nat.testBit_and, Bool.and_eq_true,
      decide_eq_true_iff]
    constructor
    · rintro ⟨hj, hs, hhere⟩
      exact ⟨j - 1, hs, (hP _).mp hhere, Nat.sub_add_cancel hj⟩
    · rintro ⟨i, hi, hPi, rfl⟩
      exact ⟨Nat.le_add_left 1 i, hi, (hP i).mpr hPi⟩

/-- One plan after the other spans what both span, one behind the other. -/
theorem andThen {p q : Plan} (hp : Follows length p.ends R) (hq : Follows length q.ends R') :
    Follows length (Plan.andThen p q).ends fun i k => ∃ j, R i j ∧ R' j k where
  forward hi := by
    rintro ⟨j, hij, hjk⟩
    obtain ⟨hle, hj⟩ := hp.forward hi hij
    obtain ⟨hle', hk⟩ := hq.forward hj hjk
    exact ⟨hle.trans hle', hk⟩
  testBit_iff hs k := by
    rw [Plan.ends, hq.testBit_iff (hp.inside hs)]
    constructor
    · rintro ⟨j, hj, hjk⟩
      obtain ⟨i, hi, hij⟩ := (hp.testBit_iff hs j).mp hj
      exact ⟨i, hi, j, hij, hjk⟩
    · rintro ⟨i, hi, j, hij, hjk⟩
      exact ⟨j, (hp.testBit_iff hs j).mpr ⟨i, hi, hij⟩, hjk⟩

theorem orElse {p q : Plan} (hp : Follows length p.ends R) (hq : Follows length q.ends R') :
    Follows length (Plan.orElse p q).ends fun i j => R i j ∨ R' i j where
  forward hi hij := hij.elim (hp.forward hi) (hq.forward hi)
  testBit_iff hs j := by
    rw [Plan.ends, Nat.testBit_or, Bool.or_eq_true, hp.testBit_iff hs, hq.testBit_iff hs,
      ← exists_or]
    exact exists_congr fun i => and_or_left.symm

/-! ### Steps in turn -/

theorem turns_forward (h : Follows length step R) {n i j : Nat} (hi : i ≤ length)
    (hij : Turns R n i j) : i ≤ j ∧ j ≤ length := by
  induction n generalizing i with
  | zero => exact ⟨hij.le, hij ▸ hi⟩
  | succ n ih =>
    obtain ⟨k, hik, hkj⟩ := hij
    obtain ⟨hle, hk⟩ := h.forward hi hik
    obtain ⟨hle', hj⟩ := ih hk hkj
    exact ⟨hle.trans hle', hj⟩

/-- The first turn leads to the places that a step leads to. -/
theorem exists_turns_succ (h : Follows length step R) (hs : s.Inside length) {n j : Nat} :
    (∃ i, s.testBit i ∧ Turns R (n + 1) i j) ↔ ∃ i, (step s).testBit i ∧ Turns R n i j := by
  constructor
  · rintro ⟨i, hi, k, hik, hkj⟩
    exact ⟨k, (h.testBit_iff hs k).mpr ⟨i, hi, hik⟩, hkj⟩
  · rintro ⟨k, hk, hkj⟩
    obtain ⟨i, hi, hik⟩ := (h.testBit_iff hs k).mp hk
    exact ⟨i, hi, k, hik, hkj⟩

/-- If a step leads nowhere else, no number of turns does. -/
theorem testBit_turns_of_fixed (h : Follows length step R) (hs : s.Inside length)
    (hfixed : step s = s) (n : Nat) {j : Nat} :
    s.testBit j ↔ ∃ i, s.testBit i ∧ Turns R n i j := by
  induction n with
  | zero => exact ⟨fun hj => ⟨j, hj, rfl⟩, fun ⟨_, hi, hij⟩ => hij ▸ hi⟩
  | succ n ih => rw [h.exists_turns_succ hs, hfixed, ih]

theorem iterate (h : Follows length step R) (n : Nat) :
    Follows length (Plan.iterate step n) (Turns R n) where
  forward := h.turns_forward
  testBit_iff {s} hs j := by
    induction n generalizing s with
    | zero => exact ⟨fun hj => ⟨j, hj, rfl⟩, fun ⟨_, hi, hij⟩ => hij ▸ hi⟩
    | succ n ih =>
      rw [Plan.iterate]
      split
      · next hfixed => exact h.testBit_turns_of_fixed hs hfixed (n + 1)
      · rw [ih (h.inside hs), h.exists_turns_succ hs]

/-- A set and where a step leads from it. -/
theorem testBit_or_step (h : Follows length step R) (hs : s.Inside length) {j : Nat} :
    (s ||| step s).testBit j ↔ s.testBit j ∨ ∃ i, s.testBit i ∧ R i j := by
  rw [Nat.testBit_or, Bool.or_eq_true, h.testBit_iff hs]

theorem inside_or_step (h : Follows length step R) (hs : s.Inside length) :
    (s ||| step s).Inside length := by
  intro i hi
  rw [Nat.testBit_or, Bool.or_eq_true] at hi
  exact hi.elim (hs i) (h.inside hs i)

theorem exists_turns_le_zero {j : Nat} :
    (∃ i, s.testBit i ∧ ∃ m ≤ 0, Turns R m i j) ↔ s.testBit j := by
  constructor
  · rintro ⟨i, hi, m, hm, hij⟩
    obtain rfl := Nat.le_zero.mp hm
    exact hij ▸ hi
  · intro hj
    exact ⟨j, hj, 0, Nat.le_refl 0, rfl⟩

/-- The first turn, if there is one, leads to the places that are added first. -/
theorem exists_turns_le_succ (h : Follows length step R) (hs : s.Inside length) {n j : Nat} :
    (∃ i, s.testBit i ∧ ∃ m ≤ n + 1, Turns R m i j) ↔
      ∃ i, (s ||| step s).testBit i ∧ ∃ m ≤ n, Turns R m i j := by
  constructor
  · rintro ⟨i, hi, m, hm, hij⟩
    cases m with
    | zero => exact ⟨i, (h.testBit_or_step hs).mpr (.inl hi), 0, Nat.zero_le n, hij⟩
    | succ m =>
      obtain ⟨k, hik, hkj⟩ := hij
      exact ⟨k, (h.testBit_or_step hs).mpr (.inr ⟨i, hi, hik⟩), m, Nat.le_of_succ_le_succ hm, hkj⟩
  · rintro ⟨k, hk, m, hm, hkj⟩
    obtain hk | ⟨i, hi, hik⟩ := (h.testBit_or_step hs).mp hk
    · exact ⟨k, hk, m, Nat.le_succ_of_le hm, hkj⟩
    · exact ⟨i, hi, m + 1, Nat.succ_le_succ hm, k, hik, hkj⟩

/-- If a step adds nothing, no number of turns does. -/
theorem testBit_turns_le_of_fixed (h : Follows length step R) (hs : s.Inside length)
    (hfixed : s ||| step s = s) (n : Nat) {j : Nat} :
    s.testBit j ↔ ∃ i, s.testBit i ∧ ∃ m ≤ n, Turns R m i j := by
  induction n with
  | zero => exact exists_turns_le_zero.symm
  | succ n ih => rw [h.exists_turns_le_succ hs, hfixed, ih]

theorem grow (h : Follows length step R) (n : Nat) :
    Follows length (Plan.grow step n) fun i j => ∃ m ≤ n, Turns R m i j where
  forward hi := fun ⟨_, _, hij⟩ => h.turns_forward hi hij
  testBit_iff {s} hs j := by
    -- After each round the mask holds all places that can be reached in so many turns, or fewer.
    induction n generalizing s with
    | zero => exact exists_turns_le_zero.symm
    | succ n ih =>
      rw [Plan.grow]
      split
      · next hfixed => exact h.testBit_turns_le_of_fixed hs hfixed (n + 1)
      · rw [ih (h.inside_or_step hs), h.exists_turns_le_succ hs]

/-- Turns that do not move on can be left out. -/
theorem exists_turns_le (h : Follows length step R) {n i j : Nat} (hi : i ≤ length)
    (hij : Turns R n i j) : ∃ m ≤ j - i, Turns R m i j := by
  induction n generalizing i with
  | zero => exact ⟨0, Nat.zero_le _, hij⟩
  | succ n ih =>
    obtain ⟨k, hik, hkj⟩ := hij
    obtain ⟨hle, hk⟩ := h.forward hi hik
    obtain ⟨m, hm, hkj'⟩ := ih hk hkj
    -- The first turn is left out, or it takes a character that the others do not need turns for.
    obtain rfl | hlt := hle.eq_or_lt
    · exact ⟨m, hm, hkj'⟩
    · have hle' := (h.turns_forward hk hkj).1
      exact ⟨m + 1, by omega, k, hik, hkj'⟩

/-- A number of turns between two bounds: as many as must be, and some more. -/
theorem turns {p : Plan} (h : Follows length p.ends R) (least extra : Nat) :
    Follows length (Plan.turns p least extra).ends
      fun i j => ∃ n, least ≤ n ∧ n ≤ least + extra ∧ Turns R n i j where
  forward hi := fun ⟨_, _, _, hij⟩ => h.turns_forward hi hij
  testBit_iff {s} hs j := by
    rw [Plan.ends, (h.grow extra).testBit_iff ((h.iterate least).inside hs)]
    constructor
    · rintro ⟨k, hk, m, hm, hkj⟩
      obtain ⟨i, hi, hik⟩ := ((h.iterate least).testBit_iff hs k).mp hk
      exact ⟨i, hi, least + m, by omega, by omega, turns_add_iff.mpr ⟨k, hik, hkj⟩⟩
    · rintro ⟨i, hi, n, hleast, hextra, hij⟩
      obtain ⟨m, rfl⟩ := Nat.exists_eq_add_of_le hleast
      obtain ⟨k, hik, hkj⟩ := turns_add_iff.mp hij
      exact ⟨k, ((h.iterate least).testBit_iff hs k).mpr ⟨i, hi, hik⟩, m, by omega, hkj⟩

end Follows

/-! ## Patterns -/

namespace Pattern

/-- Up to an upper bound, there are so many further turns. -/
theorem bounded_turns_iff {R : Nat → Nat → Prop} {least m i j : Nat} :
    (∃ n, least ≤ n ∧ n ≤ least + (m - least) ∧ Turns R n i j) ↔
      ∃ n, least ≤ n ∧ (∀ u ∈ some m, n ≤ max least u) ∧ Turns R n i j := by
  have hmax : least + (m - least) = max least m := by omega
  simp only [hmax, Option.mem_def, Option.some.injEq, forall_eq']

/-- Without an upper bound, no more further turns are needed than there are characters. -/
theorem unbounded_turns_iff {length : Nat} {step : Places → Places} {R : Nat → Nat → Prop}
    (h : Follows length step R) {least i j : Nat} (hi : i ≤ length) :
    (∃ n, least ≤ n ∧ n ≤ least + (length + 1) ∧ Turns R n i j) ↔
      ∃ n, least ≤ n ∧ (∀ u ∈ (none : Option Nat), n ≤ max least u) ∧ Turns R n i j := by
  constructor
  · rintro ⟨n, hleast, -, hij⟩
    exact ⟨n, hleast, nofun, hij⟩
  · rintro ⟨n, hleast, -, hij⟩
    obtain ⟨extra, rfl⟩ := Nat.exists_eq_add_of_le hleast
    obtain ⟨k, hik, hkj⟩ := turns_add_iff.mp hij
    have hk := (h.turns_forward hi hik).2
    obtain ⟨m, hm, hkj'⟩ := h.exists_turns_le hk hkj
    have hj := (h.turns_forward hk hkj).2
    exact ⟨least + m, by omega, by omega, turns_add_iff.mpr ⟨k, hik, hkj'⟩⟩

theorem plan_one_follows (text : List Char) (s : CharSet) :
    Follows text.length (Plan.take (.ofMarks (text.map s.contains))).ends (s.Spans text) := by
  refine .take (fun i => by rw [testBit_contains]) fun i hi => ?_
  by_contra hlength
  rw [List.getElem?_eq_none (Nat.le_of_not_lt hlength)] at hi
  exact Bool.false_ne_true hi

mutual

/-- A plan goes along the stretches that its pattern matches. -/
theorem plan_follows (text : List Char) (p : Pattern) :
    Follows text.length (p.plan text).ends (p.Spans text) := by
  cases p with
  | empty => exact .stay _
  | setting => exact .stay _
  | one s => exact plan_one_follows text s
  | bracket s n => exact plan_one_follows text s
  | look l => exact .keep fun i hi => by rw [testBit_marksOf l hi]
  | sequence ps => exact planSequence_follows text ps
  | choice ps => exact planChoice_follows text ps
  | repetition p least most eager =>
    have hp := plan_follows text p
    cases most with
    | some m => exact (hp.turns least (m - least)).congr fun _ _ _ => bounded_turns_iff
    | none =>
      exact (hp.turns least (text.length + 1)).congr fun _ _ hi => unbounded_turns_iff hp hi
  | group n p => exact plan_follows text p

/-- Patterns in a sequence span one behind the other; the induction is that of the patterns. -/
theorem planSequence_follows (text : List Char) (ps : List Pattern) :
    Follows text.length (planSequence text ps).ends (SpanAll text ps) := by
  cases ps with
  | nil => exact .stay _
  | cons p ps => exact (plan_follows text p).andThen (planSequence_follows text ps)

/-- One of several patterns spans. -/
theorem planChoice_follows (text : List Char) (ps : List Pattern) :
    Follows text.length (planChoice text ps).ends (SpanAny text ps) := by
  cases ps with
  | nil =>
    have hnowhere : Follows text.length (Plan.keep 0).ends fun i j => False ∧ i = j :=
      .keep fun i _ => by rw [Nat.zero_testBit]; exact ⟨nofun, nofun⟩
    exact hnowhere.congr fun _ _ _ => ⟨fun h => h.1, nofun⟩
  | cons p ps => exact (plan_follows text p).orElse (planChoice_follows text ps)

end

/-- A text has a match if the pattern matches one of its stretches. -/
theorem isMatch_iff (p : Pattern) (text : List Char) :
    p.isMatch text ↔ ∃ i j, i ≤ text.length ∧ p.Spans text i j := by
  have hall : ∀ i, Nat.testBit (Nat.pow 2 (text.length + 1) - 1) i ↔ i ≤ text.length := by
    intro i
    rw [Nat.pow_eq, Nat.testBit_two_pow_sub_one, decide_eq_true_iff, Nat.lt_succ_iff]
  have hinside : Places.Inside text.length (Nat.pow 2 (text.length + 1) - 1) :=
    fun i hi => (hall i).mp hi
  rw [isMatch, bne_iff_ne]
  constructor
  · intro hne
    obtain ⟨j, hj⟩ := Nat.exists_testBit_of_ne_zero hne
    obtain ⟨i, hi, hij⟩ := ((plan_follows text p).testBit_iff hinside j).mp hj
    exact ⟨i, j, (hall i).mp hi, hij⟩
  · rintro ⟨i, j, hi, hij⟩ hzero
    have hj := ((plan_follows text p).testBit_iff hinside j).mpr ⟨i, (hall i).mpr hi, hij⟩
    rw [hzero, Nat.zero_testBit] at hj
    exact Bool.false_ne_true hj

end Pattern

end JsonPath.Regex
