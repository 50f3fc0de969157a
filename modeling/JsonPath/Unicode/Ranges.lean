import JsonPath.Text.Numeral

/-!
# Ranges of code points

A set of characters is stored as closed ranges of code points, ascending and apart. In a table they
are written in hexadecimal: `"41-5A AA"` is the range from U+0041 to U+005A and the single U+00AA.

What each operation does to membership is said by a lemma (`contains_union`,
`contains_intersection`, `contains_difference`); no one else looks inside. The complement is taken
between neighbouring ranges, which has an effect where two ranges touch in spite of a gap between
their code points: see `Ranges.complement`.
-/

namespace JsonPath.Unicode

open JsonPath.Text

/-- Closed ranges of code points. -/
abbrev Ranges := List (Nat × Nat)

/-- The last code point. -/
def lastCodePoint : Nat := 0x10FFFF

/-- The code point behind another. No character is a surrogate, so these are passed over. -/
def nextCodePoint (n : Nat) : Nat := if n = 0xD7FF then 0xE000 else n + 1

/-- The code point in front of another, likewise. -/
def previousCodePoint (n : Nat) : Nat := if n = 0xE000 then 0xD7FF else n - 1

namespace Ranges

/-! ## Membership -/

/-- Whether a code point lies in one of the ranges. -/
def contains (rs : Ranges) (n : Nat) : Bool := rs.any fun r => r.1 ≤ n && n ≤ r.2

@[simp] theorem contains_nil (n : Nat) : contains [] n = false := rfl

@[simp] theorem contains_cons (r : Nat × Nat) (rs : Ranges) (n : Nat) :
    contains (r :: rs) n = ((decide (r.1 ≤ n) && decide (n ≤ r.2)) || contains rs n) := rfl

/-- A number is in two lists of ranges if it is in one of them. -/
theorem contains_append (rs ss : Ranges) (n : Nat) :
    contains (rs ++ ss) n = (contains rs n || contains ss n) := by
  simp [contains, List.any_append]

/-- A number is in a list of ranges if it is in one of the ranges. -/
theorem contains_iff {rs : Ranges} {n : Nat} :
    contains rs n = true ↔ ∃ r ∈ rs, r.1 ≤ n ∧ n ≤ r.2 := by
  simp [contains]

/-! ## Tables -/

/-- Reads the ranges of a table: `low` is the lower end of the range being read, once its hyphen
has been passed, and `value` the number read so far. -/
def readFrom (low : Option Nat) (value : Nat) : List Char → Ranges
  | [] => [(low.getD value, value)]
  | ' ' :: rest => (low.getD value, value) :: readFrom none 0 rest
  | '-' :: rest => readFrom (some value) 0 rest
  | c :: rest => readFrom low (16 * value + (hexValue? c).getD 0) rest

/-- The ranges that the lines of a table list. -/
def ofLines (lines : List String) : Ranges :=
  lines.flatMap fun line => readFrom none 0 line.toList

/-- The ranges of single code points. -/
def ofCodePoints (ns : List Nat) : Ranges := ns.map fun n => (n, n)

/-! ## Union -/

/-- Puts a range among others, and those that come behind it among the rest of them. -/
def mergeWith (r : Nat × Nat) (behind : Ranges → Ranges) : Ranges → Ranges
  | [] => r :: behind []
  | s :: ss => if r.1 ≤ s.1 then r :: behind (s :: ss) else s :: mergeWith r behind ss

/-- Two lists of ranges in the order of their lower ends. -/
def merge : Ranges → Ranges → Ranges
  | [], ss => ss
  | r :: rs, ss => mergeWith r (merge rs) ss

/-- Makes one range of a range and those behind it that it overlaps or touches. -/
def joinFrom (r : Nat × Nat) : Ranges → Ranges
  | [] => [r]
  | s :: ss =>
    if s.1 ≤ r.2 + 1 ∧ r.1 ≤ s.2 + 1 then joinFrom (min r.1 s.1, max r.2 s.2) ss
    else r :: joinFrom s ss

/-- Makes one range of neighbours that overlap or touch. -/
def join : Ranges → Ranges
  | [] => []
  | r :: rs => joinFrom r rs

/-- The code points of either. -/
def union (rs ss : Ranges) : Ranges := join (merge rs ss)

/-- The code points of any. -/
def unions : List Ranges → Ranges
  | [] => []
  | [rs] => rs
  | rs :: rss => rs.union (unions rss)

/-- To merge a range into others adds its numbers. -/
theorem contains_mergeWith (r : Nat × Nat) (behind : Ranges → Ranges) (rs ss : Ranges) (n : Nat)
    (h : ∀ ts, contains (behind ts) n = (contains rs n || contains ts n)) :
    contains (mergeWith r behind ss) n = (contains (r :: rs) n || contains ss n) := by
  induction ss with
  | nil => simp [mergeWith, h]
  | cons s ss ih =>
    unfold mergeWith
    split
    · simp [h, Bool.or_assoc]
    · rw [contains_cons, ih, contains_cons s, Bool.or_left_comm]

/-- To merge two lists adds the numbers of both. -/
theorem contains_merge (rs ss : Ranges) (n : Nat) :
    contains (merge rs ss) n = (contains rs n || contains ss n) := by
  induction rs generalizing ss with
  | nil => rfl
  | cons r rs ih => exact contains_mergeWith r (merge rs) rs ss n ih

/-- To join ranges that meet changes no number. -/
theorem contains_joinFrom (r : Nat × Nat) (ss : Ranges) (n : Nat) :
    contains (joinFrom r ss) n = contains (r :: ss) n := by
  induction ss generalizing r with
  | nil => rfl
  | cons s ss ih =>
    unfold joinFrom
    split
    · rename_i h
      rw [ih]
      simp only [contains_cons, ← Bool.or_assoc]
      congr 1
      rw [Bool.eq_iff_iff]
      simp only [Bool.or_eq_true, Bool.and_eq_true, decide_eq_true_eq]
      omega
    · rw [contains_cons, ih, ← contains_cons]

theorem contains_join (rs : Ranges) (n : Nat) : contains (join rs) n = contains rs n := by
  cases rs with
  | nil => rfl
  | cons r rs => exact contains_joinFrom r rs n

theorem contains_union (rs ss : Ranges) (n : Nat) :
    contains (rs.union ss) n = (contains rs n || contains ss n) := by
  rw [union, contains_join, contains_merge]

/-- A union has the numbers of all. -/
theorem contains_unions (rss : List Ranges) (n : Nat) :
    contains (unions rss) n = rss.any fun rs => contains rs n := by
  induction rss with
  | nil => rfl
  | cons rs rss ih =>
    cases rss with
    | nil => simp [unions]
    | cons ss rss =>
      have h : unions (rs :: ss :: rss) = rs.union (unions (ss :: rss)) := rfl
      rw [h, contains_union, ih, List.any_cons, List.any_cons, List.any_cons]

/-! ## Intersection and difference -/

/-- What two ranges have in common. -/
def overlap? (r s : Nat × Nat) : Option (Nat × Nat) :=
  if max r.1 s.1 ≤ min r.2 s.2 then some (max r.1 s.1, min r.2 s.2) else none

/-- The code points of both. -/
def intersection (rs ss : Ranges) : Ranges := rs.flatMap fun r => ss.filterMap (overlap? r)

/-- An intersection has the numbers of both at once. -/
theorem contains_intersection (rs ss : Ranges) (n : Nat) :
    contains (rs.intersection ss) n = (contains rs n && contains ss n) := by
  rw [Bool.eq_iff_iff, Bool.and_eq_true, contains_iff, contains_iff, contains_iff]
  constructor
  · rintro ⟨t, ht, hlow, hhigh⟩
    obtain ⟨r, hr, ht⟩ := List.mem_flatMap.1 ht
    obtain ⟨s, hs, he⟩ := List.mem_filterMap.1 ht
    unfold overlap? at he
    split at he
    · cases he
      exact ⟨⟨r, hr, by omega, by omega⟩, s, hs, by omega, by omega⟩
    · cases he
  · rintro ⟨⟨r, hr, hr₁, hr₂⟩, s, hs, hs₁, hs₂⟩
    refine ⟨(max r.1 s.1, min r.2 s.2), List.mem_flatMap.2 ⟨r, hr, List.mem_filterMap.2
      ⟨s, hs, ?_⟩⟩, ?_⟩
    · unfold overlap?
      rw [if_pos (by omega)]
    · exact ⟨by omega, by omega⟩

/-- What is left of a range without another. -/
def cut (r s : Nat × Nat) : Ranges :=
  (if r.1 < s.1 then [(r.1, min r.2 (previousCodePoint s.1))] else [])
    ++ (if s.2 < r.2 then [(max r.1 (nextCodePoint s.2), r.2)] else [])

/-- The code points of the first that are not in the second. -/
def difference (rs ss : Ranges) : Ranges := ss.foldl (fun rs s => rs.flatMap (cut · s)) rs

/-- What is cut out of a range is missing afterwards, and nothing else is. -/
theorem contains_cut {r s : Nat × Nat} {n : Nat} (hs : s.1 ≤ s.2) (hn : n.isValidChar) :
    contains (cut r s) n =
      ((decide (r.1 ≤ n) && decide (n ≤ r.2)) && !(decide (s.1 ≤ n) && decide (n ≤ s.2))) := by
  rw [Bool.eq_iff_iff]
  unfold cut previousCodePoint nextCodePoint
  simp only [Nat.isValidChar] at hn
  by_cases h₁ : r.1 < s.1 <;> by_cases h₂ : s.2 < r.2 <;>
    simp only [h₁, h₂, ↓reduceIte, List.nil_append, List.append_nil, List.cons_append,
      contains_cons, contains_nil, Bool.or_false, Bool.false_eq_true, Bool.not_and, Bool.not_true,
      Bool.or_eq_true, Bool.and_eq_true, Bool.not_eq_eq_eq_not, decide_eq_true_eq,
      decide_eq_false_iff_not, false_iff] <;>
    (repeat' split) <;> omega

theorem contains_flatMap_cut {rs : Ranges} {s : Nat × Nat} {n : Nat} (hs : s.1 ≤ s.2)
    (hn : n.isValidChar) :
    contains (rs.flatMap (cut · s)) n =
      (contains rs n && !(decide (s.1 ≤ n) && decide (n ≤ s.2))) := by
  induction rs with
  | nil => rfl
  | cons r rs ih =>
    rw [List.flatMap_cons, contains_append, ih, contains_cut hs hn, contains_cons,
      Bool.and_or_distrib_right]

/-- A character is in the difference if it is in the first set and not in the second. -/
theorem contains_difference {rs ss : Ranges} {n : Nat} (hs : ∀ s ∈ ss, s.1 ≤ s.2)
    (hn : n.isValidChar) :
    contains (rs.difference ss) n = (contains rs n && !contains ss n) := by
  unfold difference
  induction ss generalizing rs with
  | nil => simp
  | cons s ss ih =>
    rw [List.foldl_cons, ih fun t ht => hs t (List.mem_cons_of_mem s ht),
      contains_flatMap_cut (hs s List.mem_cons_self) hn, contains_cons, Bool.not_or,
      Bool.and_assoc]

/-- The code points of one that are not in the other. -/
def symmetricDifference (rs ss : Ranges) : Ranges :=
  (rs.union ss).difference (rs.intersection ss)

/-! ## Complement -/

/-- What lies between two neighbouring ranges, from the code point behind the first to the one in
front of the second, in ascending order. -/
def between (r s : Nat × Nat) : Nat × Nat :=
  (min (nextCodePoint r.2) (previousCodePoint s.1), max (nextCodePoint r.2) (previousCodePoint s.1))

/-- What lies behind a range and outside of the ranges that follow it. -/
def gapsFrom (r : Nat × Nat) : Ranges → Ranges
  | [] => if r.2 < lastCodePoint then [(nextCodePoint r.2, lastCodePoint)] else []
  | s :: ss => between r s :: gapsFrom s ss

/-- All other code points. A range that ends in front of the surrogates and one that starts behind
them are neighbours with nothing in between; then it is these two ends that lie between them, and
they belong to the set and to its complement. -/
def complement : Ranges → Ranges
  | [] => [(0, lastCodePoint)]
  | r :: rs => (if 0 < r.1 then [(0, previousCodePoint r.1)] else []) ++ gapsFrom r rs

end Ranges

end JsonPath.Unicode
