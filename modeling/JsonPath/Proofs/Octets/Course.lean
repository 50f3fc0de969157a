import JsonPath.Proofs.Octets.Sequences

/-!
# The course of a reader

A reader goes through octets sequence by sequence, and each read consumes one. So the sequences
tell what is found after any number of reads (`Reader.read_skip`), what is left then
(`Reader.skip_eq`) and how many octets have been consumed (`Reader.IsPlaced.bytesRead_skip`). A
sequence has one to four octets, whether it is well formed or not, and together the sequences are
all of the octets.

For the octets of a text the sequences are those of its characters. A reader finds these characters,
then the end, and then the end again (`Reader.ofBytes_isFaithful`).
-/

namespace JsonPath.Text

/-! ## The length of a sequence -/

/-- The octets behind the first one are as many as it asks for at most. -/
theorem length_le_readTail (count bits : Nat) (rest : List UInt8) :
    rest.length ≤ (readTail count bits rest).2.length + count := by
  fun_induction readTail count bits rest with
  | case1 => exact Nat.le_refl _
  | case2 => exact Nat.zero_le _
  | case3 count bits octet rest low hlow ih =>
    rw [List.length_cons]
    omega
  | case4 count bits octet rest hnone =>
    rw [List.length_cons]
    exact Nat.add_le_add_left (Nat.le_add_left 1 count) _

/-- No more than three octets follow the first. -/
theorem length_le_readFrom (lead : UInt8) (rest : List UInt8) :
    rest.length ≤ (readFrom lead rest).2.length + 3 := by
  unfold readFrom
  split
  · next count bits hcount =>
    have hle : count ≤ 3 := by cases announces_of_announced? hcount <;> decide
    exact Nat.le_trans (length_le_readTail count bits rest) (Nat.add_le_add_left hle _)
  · exact Nat.le_add_right _ _

/-- A step takes one to four octets. -/
theorem length_consumed (lead : UInt8) (rest : List UInt8) :
    1 ≤ (consumed lead rest).length ∧ (consumed lead rest).length ≤ 4 := by
  have hle := length_le_readFrom lead rest
  rw [consumed, List.length_cons, List.length_take]
  omega

theorem length_of_mem_sequences {octets os : List UInt8} (h : os ∈ sequences octets) :
    1 ≤ os.length ∧ os.length ≤ 4 := by
  induction octets using sequences.induct with
  | case1 =>
    rw [sequences_nil] at h
    cases h
  | case2 lead rest ih =>
    rw [sequences_cons] at h
    cases h with
    | head => exact length_consumed lead rest
    | tail _ h => exact ih h

/-! ## The sequences of a text -/

/-- The octets of characters are divided into those of each character. -/
theorem sequences_encoded (cs : List Char) :
    sequences (cs.flatMap String.utf8EncodeChar) = cs.map String.utf8EncodeChar := by
  induction cs with
  | nil => exact sequences_nil
  | cons c cs ih =>
    rw [List.flatMap_cons, (encodes_utf8EncodeChar c).sequences_append, List.map_cons]
    exact congrArg (String.utf8EncodeChar c :: ·) ih

/-- The octets of characters are read as their code points. -/
theorem readings_encoded (cs : List Char) :
    readings (cs.flatMap String.utf8EncodeChar) = cs.map fun c => .codePoint c.toNat := by
  have hread := (decodes_encoded cs).readings_append []
  rwa [List.append_nil, readings_nil, List.append_nil] at hread

/-! ## One read after the other -/

theorem readTail_fst_ne_end (count bits : Nat) (rest : List UInt8) :
    (readTail count bits rest).1 ≠ .endOfInput := by
  intro hend
  fun_induction readTail count bits rest with
  | case1 => cases hend
  | case2 => cases hend
  | case3 _ _ _ _ _ _ ih => exact ih hend
  | case4 => cases hend

/-- A read that consumes something does not find the end. -/
theorem readFrom_fst_ne_end (lead : UInt8) (rest : List UInt8) :
    (readFrom lead rest).1 ≠ .endOfInput := by
  unfold readFrom
  split
  · exact readTail_fst_ne_end _ _ rest
  · exact nofun

namespace Reader

/-- The reader behind so many reads more. -/
def skip : Nat → Reader → Reader
  | 0, r => r
  | n + 1, r => skip n r.read.2

/-- One step more is one step at the end. -/
theorem skip_succ (n : Nat) (r : Reader) : r.skip (n + 1) = (r.skip n).read.2 := by
  induction n generalizing r with
  | zero => rfl
  | succ n ih => exact ih r.read.2

theorem read_nil {r : Reader} (h : r.rest = []) : r.read = (.endOfInput, r) := by
  rw [read, h]

/-- At the end a read finds the end and changes nothing. Anywhere else it takes the first of the
readings and the first of the sequences. -/
theorem read_cases (r : Reader) :
    (r.rest = [] ∧ r.read = (.endOfInput, r)) ∨
    ∃ found os rest, r.read = (found, { r with rest := rest }) ∧ found ≠ .endOfInput ∧
      readings r.rest = found :: readings rest ∧ sequences r.rest = os :: sequences rest := by
  obtain ⟨marked, source, rest⟩ := r
  cases rest with
  | nil => exact .inl ⟨rfl, rfl⟩
  | cons lead rest =>
    exact .inr ⟨_, _, _, rfl, readFrom_fst_ne_end lead rest, readings_cons lead rest,
      sequences_cons lead rest⟩

/-- What is found after so many reads are the readings, and behind them the end, for ever. -/
theorem read_skip (n : Nat) (r : Reader) :
    (r.skip n).read.1 = (readings r.rest).getD n .endOfInput := by
  induction n generalizing r with
  | zero =>
    rw [skip]
    rcases r.read_cases with ⟨hrest, hread⟩ | ⟨found, os, rest, hread, -, hreadings, -⟩
    · rw [hread, hrest, readings_nil]
      rfl
    · rw [hread, hreadings]
      rfl
  | succ n ih =>
    rw [skip, ih]
    rcases r.read_cases with ⟨hrest, hread⟩ | ⟨found, os, rest, hread, -, hreadings, -⟩
    · rw [hread, hrest, readings_nil]
      rfl
    · rw [hread, hreadings, List.getD_cons_succ]

/-- What is left after so many reads are the sequences behind as many. -/
theorem skip_eq (n : Nat) (r : Reader) :
    r.skip n = { r with rest := ((sequences r.rest).drop n).flatten } := by
  induction n generalizing r with
  | zero => rw [skip, List.drop_zero, flatten_sequences]
  | succ n ih =>
    rw [skip, ih]
    rcases r.read_cases with ⟨hrest, hread⟩ | ⟨found, os, rest, hread, -, -, hsequences⟩
    · rw [hread, hrest, sequences_nil, List.drop_nil, List.drop_nil]
    · rw [hread, hsequences, List.drop_succ_cons]

/-- What is left to be read is an end of the source. -/
def IsPlaced (r : Reader) : Prop := r.rest <:+ r.source

/-- The place stays within the octets, however many steps are taken. -/
theorem IsPlaced.skip {r : Reader} (h : r.IsPlaced) (n : Nat) : (r.skip n).IsPlaced := by
  have hsuffix : ((sequences r.rest).drop n).flatten <:+ r.rest := by
    obtain ⟨front, hfront⟩ := List.drop_suffix n (sequences r.rest)
    refine ⟨front.flatten, ?_⟩
    rw [← List.flatten_append, hfront, flatten_sequences]
  rw [skip_eq]
  exact hsuffix.trans h

/-- The octets of the sequences in front are those that have been consumed. -/
theorem IsPlaced.bytesRead_skip {r : Reader} (h : r.IsPlaced) (n : Nat) :
    (r.skip n).bytesRead = r.bytesRead + ((sequences r.rest).take n).flatten.length := by
  -- Octets are counted from the end of the source, so those that are left are subtracted.
  have hlength : ((sequences r.rest).take n).flatten.length
      + ((sequences r.rest).drop n).flatten.length = r.rest.length := by
    rw [← List.length_append, ← List.flatten_append, List.take_append_drop, flatten_sequences]
  have hle : r.rest.length ≤ r.source.length := h.length_le
  rw [skip_eq]
  simp only [bytesRead]
  omega

/-- A read consumes one to four octets, or it finds the end. -/
theorem IsPlaced.bytesRead_read {r : Reader} (h : r.IsPlaced) (hend : r.read.1 ≠ .endOfInput) :
    r.bytesRead + 1 ≤ r.read.2.bytesRead ∧ r.read.2.bytesRead ≤ r.bytesRead + 4 := by
  rcases r.read_cases with ⟨-, hread⟩ | ⟨found, os, rest, -, -, -, hsequences⟩
  · exact absurd (congrArg Prod.fst hread) hend
  · have hplace : r.read.2.bytesRead = r.bytesRead + ((sequences r.rest).take 1).flatten.length :=
      h.bytesRead_skip 1
    have hos := length_of_mem_sequences (hsequences ▸ List.mem_cons_self)
    rw [hsequences, List.take_succ_cons, List.take_zero, List.flatten_singleton] at hplace
    omega

/-- The end is read if and only if no octets are left. -/
theorem read_eq_end_iff (r : Reader) : r.read.1 = .endOfInput ↔ r.rest = [] := by
  rcases r.read_cases with ⟨hrest, hread⟩ | ⟨found, os, rest, hread, hfound, hreadings, -⟩
  · rw [hread]
    exact iff_of_true rfl hrest
  · refine iff_of_false (hread ▸ hfound) fun hrest => ?_
    rw [hrest, readings_nil] at hreadings
    cases hreadings

/-! ## Readers at the start -/

/-- The octets that a reader passes over when it is set up. -/
def passedOver (octets : List UInt8) : List UInt8 :=
  if byteOrderMark.isPrefixOf octets then byteOrderMark else []

theorem ofBytes_unmarked {octets : List UInt8} (h : ¬ byteOrderMark <+: octets) :
    ofBytes octets = ⟨false, octets, octets⟩ := by
  rw [ofBytes, if_neg (mt List.isPrefixOf_iff_prefix.mp h)]

/-- A byte order mark is passed over, and the reader is placed behind it. -/
theorem ofBytes_cases (octets : List UInt8) : ∃ source, passedOver octets ++ source = octets ∧
    ofBytes octets = ⟨byteOrderMark.isPrefixOf octets, source, source⟩ := by
  by_cases h : byteOrderMark <+: octets
  · obtain ⟨source, rfl⟩ := h
    exact ⟨source, rfl, rfl⟩
  · have hmarked : byteOrderMark.isPrefixOf octets = false :=
      Bool.eq_false_iff.mpr (mt List.isPrefixOf_iff_prefix.mp h)
    refine ⟨octets, ?_, ?_⟩
    · rw [passedOver, hmarked]
      rfl
    · rw [ofBytes_unmarked h, hmarked]

theorem isPlaced_start (marked : Bool) (octets : List UInt8) :
    IsPlaced ⟨marked, octets, octets⟩ := List.suffix_refl octets

theorem bytesRead_start (marked : Bool) (octets : List UInt8) :
    bytesRead ⟨marked, octets, octets⟩ = if marked then byteOrderMark.length else 0 := by
  rw [bytesRead, Nat.sub_self, Nat.add_zero]

/-- A reader starts at its place. -/
theorem isPlaced_ofBytes (octets : List UInt8) : (ofBytes octets).IsPlaced := by
  obtain ⟨source, -, hreader⟩ := ofBytes_cases octets
  rw [hreader]
  exact isPlaced_start _ source

/-- At first, only the byte order mark has been read. -/
theorem bytesRead_ofBytes (octets : List UInt8) :
    (ofBytes octets).bytesRead = (passedOver octets).length := by
  obtain ⟨source, -, hreader⟩ := ofBytes_cases octets
  rw [hreader, bytesRead_start, passedOver]
  exact (apply_ite List.length (byteOrderMark.isPrefixOf octets = true) byteOrderMark []).symm

/-- Behind the mark the octets are sequences. Those in front of the place of a reader have been
consumed, and the others are left. -/
theorem exists_sequences (octets : List UInt8) : ∃ oss : List (List UInt8),
    passedOver octets ++ oss.flatten = octets ∧ ∀ n,
      ((ofBytes octets).skip n).rest = (oss.drop n).flatten ∧
      ((ofBytes octets).skip n).bytesRead = (passedOver octets ++ (oss.take n).flatten).length := by
  obtain ⟨source, hsource, hreader⟩ := ofBytes_cases octets
  refine ⟨sequences source, ?_, fun n => ⟨?_, ?_⟩⟩
  · rw [flatten_sequences, hsource]
  · rw [skip_eq, hreader]
  · rw [(isPlaced_ofBytes octets).bytesRead_skip, bytesRead_ofBytes, hreader, List.length_append]

/-- The octets that are consumed and those that are left are all of them. -/
theorem bytesRead_add_length_rest (octets : List UInt8) (n : Nat) :
    ((ofBytes octets).skip n).bytesRead + ((ofBytes octets).skip n).rest.length
      = octets.length := by
  obtain ⟨oss, hall, hplace⟩ := exists_sequences octets
  rw [(hplace n).1, (hplace n).2, ← List.length_append, List.append_assoc, ← List.flatten_append,
    List.take_append_drop, hall]

/-! ## Main statement -/

/-- From its place on, the reader finds the characters, one with each read. -/
structure Finds (r : Reader) (cs : List Char) : Prop where
  /-- the characters are found in order -/
  character : ∀ n c, cs[n]? = some c → (r.skip n).read.1 = .codePoint c.toNat
  /-- behind them the end is found, for ever -/
  finish : ∀ n, cs.length ≤ n → (r.skip n).read.1 = .endOfInput
  /-- and so many reads consume the octets of so many characters -/
  place : ∀ n, (r.skip n).bytesRead
    = r.bytesRead + ((cs.take n).flatMap String.utf8EncodeChar).length

/-- Both readers find the same, at places that stay so far apart. -/
structure IsShifted (distance : Nat) (r s : Reader) : Prop where
  found : ∀ n, (r.skip n).read.1 = (s.skip n).read.1
  place : ∀ n, (r.skip n).bytesRead = distance + (s.skip n).bytesRead

/-- In the octets of characters, the characters are found. -/
theorem IsPlaced.finds_encoded {r : Reader} (h : r.IsPlaced) {cs : List Char}
    (hrest : r.rest = cs.flatMap String.utf8EncodeChar) : r.Finds cs where
  character := by
    intro n c hc
    rw [read_skip, hrest, readings_encoded, List.getD_eq_getElem?_getD, List.getElem?_map, hc]
    rfl
  finish := by
    intro n hn
    rw [read_skip, hrest, readings_encoded, List.getD_eq_getElem?_getD, List.getElem?_map,
      List.getElem?_eq_none hn]
    rfl
  place := by
    intro n
    rw [h.bytesRead_skip, hrest, sequences_encoded, ← List.map_take, List.flatMap]

/-- Behind a byte order mark everything is as without it, but three octets further. -/
theorem isShifted_mark (octets : List UInt8) :
    IsShifted byteOrderMark.length ⟨true, octets, octets⟩ ⟨false, octets, octets⟩ where
  found := by
    intro n
    rw [read_skip, read_skip]
  place := by
    intro n
    rw [skip_eq, skip_eq, bytesRead, bytesRead, if_pos rfl, if_neg Bool.false_ne_true, Nat.zero_add]

/-- How a reader goes through octets, whatever they are. -/
structure IsFaithful (octets : List UInt8) : Prop where
  /-- of the octets of a text the characters are found -/
  text : ∀ cs, cs.head? ≠ some '\uFEFF' → octets = cs.flatMap String.utf8EncodeChar →
    (ofBytes octets).bytesRead = 0 ∧ (ofBytes octets).Finds cs
  /-- and so they are behind a byte order mark, whatever they start with -/
  markedText : ∀ cs, octets = byteOrderMark ++ cs.flatMap String.utf8EncodeChar →
    (ofBytes octets).bytesRead = byteOrderMark.length ∧ (ofBytes octets).Finds cs
  /-- what is found behind the mark is what is found where there is none -/
  marked : ∀ behind, octets = byteOrderMark ++ behind →
    IsShifted byteOrderMark.length (ofBytes octets) ⟨false, behind, behind⟩
  /-- and nothing else is passed over -/
  unmarked : ¬ byteOrderMark <+: octets → ofBytes octets = ⟨false, octets, octets⟩
  /-- a read before the end consumes one to four octets, and none behind the last -/
  progress : ∀ n, ((ofBytes octets).skip n).read.1 ≠ .endOfInput →
    ((ofBytes octets).skip n).bytesRead + 1 ≤ ((ofBytes octets).skip (n + 1)).bytesRead ∧
    ((ofBytes octets).skip (n + 1)).bytesRead ≤ ((ofBytes octets).skip n).bytesRead + 4 ∧
    ((ofBytes octets).skip (n + 1)).bytesRead ≤ octets.length
  /-- the end is found where all octets are consumed, and nowhere else -/
  finish : ∀ n, ((ofBytes octets).skip n).read.1 = .endOfInput ↔
    ((ofBytes octets).skip n).bytesRead = octets.length
  /-- a read there changes nothing -/
  stays : ∀ n, ((ofBytes octets).skip n).read.1 = .endOfInput →
    (ofBytes octets).skip (n + 1) = (ofBytes octets).skip n
  /-- the octets are parted into the mark and what the reads consume, each its own -/
  parted : ∃ oss : List (List UInt8), passedOver octets ++ oss.flatten = octets ∧ ∀ n,
    ((ofBytes octets).skip n).rest = (oss.drop n).flatten ∧
    ((ofBytes octets).skip n).bytesRead = (passedOver octets ++ (oss.take n).flatten).length
  /-- and a reader that is reset is as it was at the start, so it finds the same again -/
  reset : ∀ n, ((ofBytes octets).skip n).reset = ofBytes octets

/-- **Faithfulness.** A reader of any octets is faithful to them, be they UTF-8 or not: it is
always in front of an end of them, and goes from one to the next. -/
theorem ofBytes_isFaithful (octets : List UInt8) : IsFaithful octets where
  -- Without a mark in front, the octets are the text itself.
  text := by
    rintro cs hhead rfl
    rw [ofBytes_unmarked (mt head?_of_isMarked hhead)]
    exact ⟨bytesRead_start false _, (isPlaced_start false _).finds_encoded rfl⟩
  markedText := by
    rintro cs rfl
    exact ⟨bytesRead_start true _, (isPlaced_start true _).finds_encoded rfl⟩
  marked := by
    rintro behind rfl
    exact isShifted_mark behind
  unmarked := ofBytes_unmarked
  progress := by
    intro n hend
    have hstep := ((isPlaced_ofBytes octets).skip n).bytesRead_read hend
    rw [← skip_succ] at hstep
    exact ⟨hstep.1, hstep.2, Nat.le.intro (bytesRead_add_length_rest octets (n + 1))⟩
  finish := by
    intro n
    have hlength := bytesRead_add_length_rest octets n
    rw [read_eq_end_iff, ← List.length_eq_zero_iff]
    omega
  stays := by
    intro n hend
    rw [skip_succ, read_nil ((read_eq_end_iff _).mp hend)]
  parted := exists_sequences octets
  reset := by
    intro n
    obtain ⟨source, -, hreader⟩ := ofBytes_cases octets
    rw [skip_eq, hreader]
    rfl

end Reader

end JsonPath.Text
