import JsonPath.Proofs.Regex.BreakingOut

/-!
# How large classes are

A class may be refused only because the machine for it is too large. How large it is depends on the
sequences of octets for the ranges of the class, and there are no more of these than characters in
the class: a range is cut into parts that are not empty and do not overlap. Each sequence takes a
bounded number of states, whether the machine reads forwards or backwards, and whatever states it
finds again. So a class with few enough characters is never refused
(`Pattern.isAllowed_anchored_bracket`).
-/

namespace JsonPath.Unicode.Ranges

variable {r : Nat × Nat} {rs ss parts : Ranges} {m n : Nat}

/-! ## Counting characters -/

/-- The number of code points in ranges that do not overlap. -/
def total : Ranges → Nat
  | [] => 0
  | r :: rs => r.2 + 1 - r.1 + total rs

@[simp] theorem total_nil : total [] = 0 := rfl

@[simp] theorem total_cons (r : Nat × Nat) (rs : Ranges) :
    total (r :: rs) = r.2 + 1 - r.1 + total rs := rfl

@[simp] theorem total_append (rs ss : Ranges) : total (rs ++ ss) = total rs + total ss := by
  induction rs with
  | nil => exact (Nat.zero_add _).symm
  | cons r rs ih => rw [List.cons_append, total_cons, total_cons, ih, Nat.add_assoc]

/-- The order of ranges does not change the number of their code points. -/
theorem total_perm (h : rs.Perm ss) : total rs = total ss := by
  induction h with
  | nil => rfl
  | cons r _ ih => rw [total_cons, total_cons, ih]
  | swap r s rs => exact Nat.add_left_comm ..
  | trans _ _ ih ih' => exact ih.trans ih'

/-- There are no more ranges than code points, as none of them is empty. -/
theorem length_le_total (h : ∀ r ∈ rs, r.1 ≤ r.2) : rs.length ≤ total rs := by
  induction rs with
  | nil => exact Nat.le_refl 0
  | cons r rs ih =>
    obtain ⟨hr, hrs⟩ := List.forall_mem_cons.mp h
    have := ih hrs
    rw [List.length_cons, total_cons]
    omega

/-- A range from one character to another that is not in front of it. -/
structure IsProper (r : Nat × Nat) : Prop where
  low : r.1.isValidChar
  high : r.2.isValidChar
  ordered : r.1 ≤ r.2

/-- Ranges between characters, with no more than so many code points. -/
structure Fits (n : Nat) (rs : Ranges) : Prop where
  proper : ∀ r ∈ rs, IsProper r
  total_le : total rs ≤ n

theorem fits_nil : Fits n [] := ⟨nofun, Nat.zero_le n⟩

theorem fits_char (c : Char) : Fits 1 [(c.toNat, c.toNat)] where
  proper := List.forall_mem_singleton.mpr ⟨c.valid, c.valid, Nat.le_refl _⟩
  total_le := by
    rw [total_cons, total_nil]
    omega

/-- Ranges that fit are no more than so many. -/
theorem Fits.length_le (h : Fits n rs) : rs.length ≤ n :=
  Nat.le_trans (length_le_total fun r hr => (h.proper r hr).ordered) h.total_le

/-! ## Unions -/

/-- To merge a range into others moves it to its place. -/
theorem mergeWith_perm {behind : Ranges → Ranges} (h : ∀ ts, (behind ts).Perm (rs ++ ts))
    (r : Nat × Nat) (ss : Ranges) : (mergeWith r behind ss).Perm (r :: (rs ++ ss)) := by
  induction ss with
  | nil => exact (h []).cons r
  | cons s ss ih =>
    rw [mergeWith]
    split
    · exact (h (s :: ss)).cons r
    · exact (ih.cons s).trans ((List.Perm.swap r s _).trans (List.perm_middle.symm.cons r))

/-- To merge two lists puts their ranges together. -/
theorem merge_perm (rs ss : Ranges) : (merge rs ss).Perm (rs ++ ss) := by
  induction rs generalizing ss with
  | nil => exact .refl ss
  | cons r rs ih => exact mergeWith_perm ih r ss

/-- Two lists that fit are merged to one that fits. -/
theorem Fits.merge (hr : Fits m rs) (hs : Fits n ss) : Fits (m + n) (merge rs ss) := by
  have hperm := merge_perm rs ss
  constructor
  · intro r hmem
    obtain h | h := List.mem_append.mp (hperm.mem_iff.mp hmem)
    · exact hr.proper r h
    · exact hs.proper r h
  · have htotal := total_perm hperm
    have := hr.total_le
    have := hs.total_le
    rw [htotal, total_append]
    omega

/-- To join ranges that meet leaves no more code points. -/
theorem Fits.joinFrom (h : Fits n (r :: rs)) : Fits n (joinFrom r rs) := by
  induction rs generalizing r n with
  | nil => exact h
  | cons s ss ih =>
    have htotal := h.total_le
    obtain ⟨hr, hs, hss⟩ : IsProper r ∧ IsProper s ∧ ∀ t ∈ ss, IsProper t := by
      simpa only [List.forall_mem_cons] using h.proper
    have hlow := hr.ordered
    have hhigh := hs.ordered
    rw [total_cons, total_cons] at htotal
    rw [Ranges.joinFrom]
    split
    · next htouch =>
      -- There is no gap between the two, so the joined range is not longer than both.
      refine ih ⟨List.forall_mem_cons.mpr ⟨⟨?_, ?_, ?_⟩, hss⟩, ?_⟩
      · rw [Nat.min_def]
        split
        · exact hr.low
        · exact hs.low
      · rw [Nat.max_def]
        split
        · exact hs.high
        · exact hr.high
      · exact Nat.le_trans (Nat.min_le_left _ _) (Nat.le_trans hlow (Nat.le_max_left _ _))
      · rw [total_cons]
        omega
    · have hrest := ih (n := total (s :: ss)) ⟨List.forall_mem_cons.mpr ⟨hs, hss⟩, Nat.le_refl _⟩
      have hrest_le := hrest.total_le
      refine ⟨List.forall_mem_cons.mpr ⟨hr, hrest.proper⟩, ?_⟩
      rw [total_cons] at hrest_le ⊢
      omega

/-- The union of two sets has no more code points than both. -/
theorem Fits.union (hr : Fits m rs) (hs : Fits n ss) : Fits (m + n) (rs.union ss) := by
  have h := hr.merge hs
  rw [Ranges.union]
  cases hmerge : Ranges.merge rs ss with
  | nil => exact fits_nil
  | cons t ts =>
    rw [hmerge] at h
    exact h.joinFrom

/-- The union of single characters has no more code points than there are of them. -/
theorem Fits.unions {rss : List Ranges} (h : ∀ rs ∈ rss, Fits 1 rs) :
    Fits rss.length (unions rss) := by
  induction rss with
  | nil => exact fits_nil
  | cons rs rss ih =>
    obtain ⟨hrs, hrss⟩ := List.forall_mem_cons.mp h
    cases rss with
    | nil => exact hrs
    | cons ss rss =>
      rw [List.length_cons, Nat.add_comm]
      exact hrs.union (ih hrss)

/-! ## Cutting ranges -/

/-- Parts of a range that are not empty and have no more code points than it has. -/
structure Cuts (r : Nat × Nat) (parts : Ranges) : Prop where
  ordered : ∀ p ∈ parts, p.1 ≤ p.2
  total_le : total parts ≤ r.2 + 1 - r.1

theorem cuts_self (h : r.1 ≤ r.2) : Cuts r [r] where
  ordered := List.forall_mem_singleton.mpr h
  total_le := Nat.le_refl _

/-- Two parts of a range, with or without a gap between them. -/
theorem cuts_in_two {low high : Nat} (hlow : r.1 ≤ low) (hgap : low < high) (hhigh : high ≤ r.2) :
    Cuts r [(r.1, low), (high, r.2)] where
  ordered := List.forall_mem_cons.mpr ⟨hlow, List.forall_mem_singleton.mpr hhigh⟩
  total_le := by
    simp only [total_cons, total_nil]
    omega

/-- The parts of the parts of a range. -/
theorem Cuts.flatMap {f : Nat × Nat → Ranges} (h : Cuts r parts)
    (hf : ∀ p, p.1 ≤ p.2 → Cuts p (f p)) : Cuts r (parts.flatMap f) := by
  have htotal : ∀ ps : Ranges, (∀ p ∈ ps, p.1 ≤ p.2) → total (ps.flatMap f) ≤ total ps := by
    intro ps hps
    induction ps with
    | nil => exact Nat.le_refl 0
    | cons p ps ih =>
      obtain ⟨hp, hps⟩ := List.forall_mem_cons.mp hps
      rw [List.flatMap_cons, total_append, total_cons]
      exact Nat.add_le_add (hf p hp).total_le (ih hps)
  constructor
  · intro p hp
    obtain ⟨q, hq, hp⟩ := List.mem_flatMap.mp hp
    exact (hf q (h.ordered q hq)).ordered p hp
  · exact Nat.le_trans (htotal parts h.ordered) h.total_le

/-- Without the surrogates, which no character is, a range falls into two at most. -/
theorem cuts_withoutSurrogates (h : IsProper r) : Cuts r (withoutSurrogates r) := by
  have hlow := h.low
  have hhigh := h.high
  unfold Nat.isValidChar at hlow hhigh
  unfold withoutSurrogates
  split
  · next hinside => exact cuts_in_two (by omega) (by decide) (by omega)
  · exact cuts_self h.ordered

/-- A range is cut behind a number, if it goes that far. -/
theorem cuts_cutBehind (last : Nat) (h : r.1 ≤ r.2) : Cuts r (cutBehind last r) := by
  unfold cutBehind
  split
  · next hinside => exact cuts_in_two hinside.1 (Nat.lt_succ_self last) hinside.2
  · exact cuts_self h

/-- A range is cut where a block starts and where one ends. -/
theorem cuts_cutAtBlocks {size : Nat} (hsize : 0 < size) (h : r.1 ≤ r.2) :
    Cuts r (cutAtBlocks size r) := by
  unfold cutAtBlocks
  split
  · exact cuts_self h
  · next hblocks =>
    have hlow : r.1 ≤ (r.1 + size - 1) / size * size := by
      have hdiv := Nat.div_add_mod' (r.1 + size - 1) size
      have hmod := Nat.mod_lt (r.1 + size - 1) hsize
      omega
    have hhigh : (r.2 + 1) / size * size ≤ r.2 + 1 := Nat.div_mul_le_self _ _
    have hbetween : (r.1 + size - 1) / size * size ≤ (r.2 + 1) / size * size := by
      refine Nat.mul_le_mul_right size ?_
      have hdiv := Nat.div_le_div_right (c := size) h
      calc (r.1 + size - 1) / size ≤ (r.1 + size) / size := Nat.div_le_div_right (Nat.sub_le _ _)
        _ = r.1 / size + 1 := Nat.add_div_right r.1 hsize
        _ ≤ r.2 / size := Nat.lt_of_le_of_ne hdiv hblocks
        _ ≤ (r.2 + 1) / size := Nat.div_le_div_right (Nat.le_succ _)
    generalize (r.1 + size - 1) / size * size = low at hlow hbetween ⊢
    generalize (r.2 + 1) / size * size = high at hhigh hbetween ⊢
    -- The blocks begin and end within the range, in this order; the rest is about three parts.
    constructor
    · intro p hp
      simp only [List.mem_append, List.mem_ite_nil_right, List.mem_singleton] at hp
      obtain (⟨_, rfl⟩ | ⟨_, rfl⟩) | ⟨_, rfl⟩ := hp
      · exact Nat.le_sub_one_of_lt ‹_›
      · exact Nat.le_sub_one_of_lt ‹_›
      · assumption
    · rw [total_append, total_append]
      (repeat' split) <;> simp only [total_cons, total_nil] <;> omega

/-- A range is cut into parts whose code points have as many octets, and the same first ones. -/
theorem cuts_evenParts (h : r.1 ≤ r.2) : Cuts r (evenParts r) := by
  unfold evenParts
  split
  · exact cuts_self h
  · exact ((cuts_cutAtBlocks (by decide) h).flatMap fun _ => cuts_cutAtBlocks (by decide)).flatMap
      fun _ => cuts_cutAtBlocks (by decide)

/-- A range has no more sequences of octets than characters. -/
theorem length_octetRanges_le (h : IsProper r) : (octetRanges r).length ≤ r.2 + 1 - r.1 := by
  have hcuts := ((((cuts_withoutSurrogates h).flatMap fun _ => cuts_cutBehind 0x7F).flatMap
    fun _ => cuts_cutBehind 0x7FF).flatMap fun _ => cuts_cutBehind 0xFFFF).flatMap
    fun _ => cuts_evenParts
  rw [octetRanges, List.length_map]
  exact Nat.le_trans (length_le_total hcuts.ordered) hcuts.total_le

/-- Ranges that fit have no more sequences than code points. -/
theorem Fits.length_flatMap_octetRanges_le (h : Fits n rs) :
    (rs.flatMap octetRanges).length ≤ n := by
  refine Nat.le_trans ?_ h.total_le
  have hproper := h.proper
  clear h
  induction rs with
  | nil => exact Nat.le_refl 0
  | cons r rs ih =>
    obtain ⟨hr, hrs⟩ := List.forall_mem_cons.mp hproper
    rw [List.flatMap_cons, List.length_append, total_cons]
    exact Nat.add_le_add (length_octetRanges_le hr) (ih hrs)

end JsonPath.Unicode.Ranges

namespace JsonPath.Unicode

/-- A code point has four octets at most. -/
theorem length_octets_le (n : Nat) : (octets n).length ≤ 4 := by
  unfold octets
  split
  · exact Nat.le_add_left 1 3
  · split
    · exact Nat.le_add_left 2 2
    · split
      · exact Nat.le_add_left 3 1
      · exact Nat.le_refl 4

/-- A sequence of ranges has four at most, one for each octet. -/
theorem length_le_of_mem_octetRanges {r : Nat × Nat} {q : OctetRanges} (h : q ∈ octetRanges r) :
    q.length ≤ 4 := by
  obtain ⟨p, -, rfl⟩ := List.mem_map.mp h
  rw [List.length_zip]
  exact Nat.le_trans (Nat.min_le_left _ _) (length_octets_le _)

end JsonPath.Unicode

namespace JsonPath.Regex

open JsonPath.Unicode

/-! ## Machines for sets -/

namespace Size

@[simp] theorem memory_grow (count : Nat) (z : Size) :
    (z.grow count).memory = z.memory + 32 * count := by
  simp only [grow, memory]
  omega

@[simp] theorem memory_link (count : Nat) (z : Size) :
    (z.link count).memory = z.memory + 4 * count := by
  simp only [link, memory]
  omega

@[simp] theorem memory_branch (count : Nat) (z : Size) :
    (z.branch count).memory = z.memory + 8 * count := by
  simp only [branch, memory]
  omega

end Size

namespace Assembly

variable {qs : List OctetRanges}

/-- A state takes room at most once, whether it is found again or not. -/
theorem memory_state_le (slots ranges : Nat) (key : List Nat) (a : Assembly) :
    (a.state slots ranges key).2.size.memory ≤ a.size.memory + 32 + 8 * ranges := by
  have hbuilt : ((a.size.grow 1).branch ranges).memory = a.size.memory + 32 + 8 * ranges := by
    rw [Size.memory_branch, Size.memory_grow]
  unfold state
  dsimp only
  split
  · split
    · rw [Nat.add_assoc]
      exact Nat.le_add_right _ _
    · exact Nat.le_of_eq hbuilt
  · exact Nat.le_of_eq hbuilt

/-! ### Backwards -/

/-- The states of one sequence, each of which has one range. -/
theorem memory_chain_le (a : Assembly) (target : Nat) (q : OctetRanges) :
    (chain a target q).2.size.memory ≤ a.size.memory + 32 * q.length := by
  induction q generalizing a target with
  | nil => exact Nat.le_refl _
  | cons r q ih =>
    have hfirst := memory_state_le backwardSlots 0 [target, r.1, r.2] a
    have hrest := ih (a.state backwardSlots 0 [target, r.1, r.2]).2
      (a.state backwardSlots 0 [target, r.1, r.2]).1
    rw [List.length_cons]
    exact Nat.le_trans hrest (by omega)

/-- The states of several sequences one after the other. -/
theorem memory_chains_le (target : Nat) (h : ∀ q ∈ qs, q.length ≤ 4) (a : Assembly) :
    (qs.foldl (fun a q => (chain a target q).2) a).size.memory
      ≤ a.size.memory + 128 * qs.length := by
  induction qs generalizing a with
  | nil => exact Nat.le_refl _
  | cons q qs ih =>
    obtain ⟨hq, hqs⟩ := List.forall_mem_cons.mp h
    have hfirst := memory_chain_le a target q
    have hrest := ih hqs (chain a target q).2
    rw [List.foldl_cons, List.length_cons]
    omega

/-- The machine for sequences that are read backwards. -/
theorem memory_backwards_le (h : ∀ q ∈ qs, q.length ≤ 4) (z : Size) :
    (backwards qs z).memory ≤ z.memory + 64 + 132 * qs.length := by
  have hchains := memory_chains_le (z.states + 1) h (.start (z.grow 2))
  have hstart : (start (z.grow 2)).size.memory = z.memory + 64 := Size.memory_grow 2 z
  rw [backwards, Size.memory_link]
  omega

/-! ### Forwards -/

/-- The number of sequences in groups. -/
def members : List ((Nat × Nat) × List OctetRanges) → Nat
  | [] => 0
  | g :: gs => g.2.length + members gs

@[simp] theorem members_cons (g : (Nat × Nat) × List OctetRanges)
    (gs : List ((Nat × Nat) × List OctetRanges)) :
    members (g :: gs) = g.2.length + members gs := rfl

/-- Sequences fall into no more groups than there are, and each of them into one. -/
theorem groups_le (qs : List OctetRanges) :
    (groups qs).length ≤ qs.length ∧ members (groups qs) ≤ qs.length := by
  induction qs with
  | nil => exact ⟨Nat.le_refl 0, Nat.le_refl 0⟩
  | cons q qs ih =>
    obtain ⟨hlength, hmembers⟩ := ih
    cases q with
    | nil => exact ⟨Nat.le_succ_of_le hlength, Nat.le_succ_of_le hmembers⟩
    | cons r rest =>
      rw [groups]
      cases hgroups : groups qs with
      | nil => exact ⟨Nat.le_add_left 1 _, Nat.le_add_left 1 _⟩
      | cons g gs =>
        obtain ⟨s, rests⟩ := g
        rw [hgroups] at hlength hmembers
        simp only [members_cons, List.length_cons] at hlength hmembers
        dsimp only
        split
        · simp only [members_cons, List.length_cons]
          omega
        · simp only [members_cons, List.length_cons, List.length_nil]
          omega

/-- The states from which the sequences of several groups lead to a target. -/
theorem memory_nodes_le {target length : Nat}
    (h : ∀ qs a, (node target length qs a).2.size.memory
      ≤ a.size.memory + 40 * length * qs.length)
    (gs : List ((Nat × Nat) × List OctetRanges)) (key : List Nat) (a : Assembly) :
    (gs.foldl (fun (key, a) g =>
        let (n, a) := node target length g.2 a
        (key ++ [g.1.1, g.1.2, n], a)) (key, a)).2.size.memory
      ≤ a.size.memory + 40 * length * members gs := by
  induction gs generalizing key a with
  | nil => exact Nat.le_add_right _ _
  | cons g gs ih =>
    have hfirst := h g.2 a
    have hrest := ih (key ++ [g.1.1, g.1.2, (node target length g.2 a).1])
      (node target length g.2 a).2
    rw [members_cons, Nat.mul_add]
    exact Nat.le_trans hrest (by omega)

/-- The states of sequences of a given length that share their first ranges. -/
theorem memory_node_le (target length : Nat) (qs : List OctetRanges) (a : Assembly) :
    (node target length qs a).2.size.memory ≤ a.size.memory + 40 * length * qs.length := by
  induction length generalizing qs a with
  | zero => exact Nat.le_add_right _ _
  | succ length ih =>
    obtain ⟨hlength, hmembers⟩ := groups_le qs
    have hnodes := memory_nodes_le ih (groups qs) [] a
    have hstate := memory_state_le forwardSlots (groups qs).length
    have hmul := Nat.mul_le_mul_left (40 * length) hmembers
    rw [node]
    split
    · exact Nat.le_add_right _ _
    · next gs hgroups =>
      -- This state is paid for by the first sequence, and its ranges by one sequence each.
      have hpos : 0 < (groups qs).length := List.length_pos_iff.mpr hgroups
      have hchildren :=
        Nat.add_le_add_right (Nat.add_le_add_right hnodes 32) (8 * (groups qs).length)
      refine Nat.le_trans (hstate _ _) (Nat.le_trans hchildren ?_)
      rw [Nat.mul_add, Nat.add_mul]
      omega

/-- The machine for sequences that are read forwards, in four steps at most. -/
theorem memory_forwards_le (qs : List OctetRanges) (z : Size) :
    (forwards qs z).memory ≤ z.memory + 32 + 160 * qs.length := by
  have hnode := memory_node_le z.states 4 qs (.start (z.grow 1))
  have hstart : (start (z.grow 1)).size.memory = z.memory + 32 := Size.memory_grow 1 z
  rw [hstart] at hnode
  exact hnode

end Assembly

/-- The machine for a set takes no more room than so much for each of its characters. -/
theorem CharSet.memory_size_le {s : CharSet} {n : Nat} (h : s.ranges.Fits n) (backward : Bool)
    (z : Size) : (s.size backward z).memory ≤ z.memory + 64 + 160 * n := by
  have hcount := h.length_flatMap_octetRanges_le
  unfold size
  split
  · have hlength := h.length_le
    rw [Size.memory_branch, Size.memory_grow]
    omega
  · split
    · have hbackwards : ∀ q ∈ s.ranges.flatMap octetRanges, q.length ≤ 4 := by
        intro q hq
        obtain ⟨r, -, hq⟩ := List.mem_flatMap.mp hq
        exact length_le_of_mem_octetRanges hq
      have := Assembly.memory_backwards_le hbackwards z
      omega
    · have := Assembly.memory_forwards_le (s.ranges.flatMap octetRanges) z
      omega

/-! ## Machines for classes -/

namespace Term

variable {s : CharSet} {n : Nat}

/-- A set of one character is built as a text, any other as a set. -/
theorem meters_ofSet (h : s.ranges.Fits n) (backward : Bool) (b : Built) :
    ∃ z, ((ofSet s).meters backward).1 b = .plain z ∧
      z.memory ≤ b.entered.memory + 128 + 160 * n := by
  unfold ofSet
  split
  · next c _ =>
    refine ⟨b.entered.grow (readOctets backward [c]).length, rfl, ?_⟩
    have hlength : (readOctets backward [c]).length ≤ 4 := by
      have hoctets := length_octets_le c.toNat
      cases backward <;> simpa [readOctets] using hoctets
    rw [Size.memory_grow]
    omega
  · refine ⟨s.size backward b.entered, rfl, ?_⟩
    have := CharSet.memory_size_le h backward b.entered
    omega

/-- A class for a whole text is a set between two looks. -/
theorem term_anchored_bracket (s : CharSet) (nesting : Nat) :
    (Pattern.anchored (.bracket s nesting)).term
      = .andThen (.look .textStart) (.andThen (.ofSet s) (.look .textEnd)) := by
  change inSequence [.look .textStart, ofSet s, .look .textEnd] = _
  unfold ofSet
  split <;> rfl

/-- The size of a machine that looks for a set between two looks, in either direction, when so many
states stand in front of the set and as many behind it. -/
theorem memory_states_ofSet_le (h : s.ranges.Fits n) (backward : Bool) {count : Nat}
    (hcount : count ≤ 3) :
    (Meter.states count (((ofSet s).meters backward).1 (.plain ⟨count, 0⟩))).size.memory
      ≤ 320 + 160 * n := by
  obtain ⟨z, hz, hmemory⟩ := meters_ofSet h backward (.plain ⟨count, 0⟩)
  have hsize : (Meter.states count (((ofSet s).meters backward).1 (.plain ⟨count, 0⟩))).size
      = (z.link 0).grow count := by
    rw [hz]
    rfl
  have hentered : (Built.plain ⟨count, 0⟩).entered.memory = 32 * count := rfl
  rw [hsize, Size.memory_grow, Size.memory_link]
  omega

/-- Both machines for a class that a whole text has to be in. The one that reads forwards has a state
more at either end, for the group of the whole match. -/
theorem memory_anchored_bracket_le (h : s.ranges.Fits n) (nesting : Nat) :
    (Pattern.anchored (.bracket s nesting)).term.forwardSize.memory ≤ 320 + 160 * n ∧
      (Pattern.anchored (.bracket s nesting)).term.backwardSize.memory ≤ 320 + 160 * n := by
  rw [term_anchored_bracket]
  constructor
  · change (Meter.states 3 (((ofSet s).meters false).1 (.plain ⟨3, 0⟩))).size.memory ≤ _
    exact memory_states_ofSet_le h false (Nat.le_refl 3)
  · change (Meter.states 2 (((ofSet s).meters true).1 (.plain ⟨2, 0⟩))).size.memory ≤ _
    exact memory_states_ofSet_le h true (Nat.le_succ 2)

end Term

/-- A class of few enough characters for a whole text is not refused. -/
theorem Pattern.isAllowed_anchored_bracket {s : CharSet} {nesting n : Nat}
    (h : s.ranges.Fits n) (hn : n ≤ 65000) (hnesting : nesting ≤ 247) :
    (anchored (.bracket s nesting)).isAllowed := by
  have hdepth : (anchored (.bracket s nesting)).nesting = nesting + 3 := by
    simp [anchored, Pattern.nesting, maxNesting]
  have hsmall : ∀ z : Size, z.memory ≤ 320 + 160 * n → z.isExcessive = false := by
    intro z hz
    refine decide_eq_false ?_
    rw [Size.limit]
    omega
  obtain ⟨hforward, hbackward⟩ := Term.memory_anchored_bracket_le h nesting
  rw [isAllowed, hdepth, Term.isAdmissible, hsmall _ hforward, hsmall _ hbackward,
    Bool.and_eq_true, decide_eq_true_eq]
  exact ⟨Nat.add_le_add_right hnesting 3, rfl⟩

end JsonPath.Regex
