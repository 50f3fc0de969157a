import Mathlib.Data.List.Basic
import Mathlib.Data.List.Forall2
import JsonPath.Proofs.Octets

/-!
# Sequences of octets

What successive reads consume are the sequences of the input (`sequences`). A read finds a code
point exactly if its sequence has the form of one (`readFrom_eq_codePoint_iff`), so octets are read
as characters throughout exactly if each of their sequences encodes one (`decodes_iff`).

A sequence may be longer than its character needs. Such a sequence is overlong, and no UTF-8; apart
from these the reader finds characters in UTF-8 only (`Decodes.isUtf8_iff`).
-/

namespace JsonPath.Text

/-! ## What one read consumes -/

theorem readTail_suffix (count bits : Nat) (rest : List UInt8) :
    (readTail count bits rest).2 <:+ rest := by
  fun_induction readTail count bits rest with
  | case1 => exact List.suffix_refl _
  | case2 => exact List.suffix_refl _
  | case3 _ _ _ _ _ _ ih => exact ih.trans (List.suffix_cons _ _)
  | case4 => exact List.suffix_cons _ _

/-- What a step leaves is an end of what was there. -/
theorem readFrom_suffix (lead : UInt8) (rest : List UInt8) : (readFrom lead rest).2 <:+ rest := by
  unfold readFrom
  split
  · exact readTail_suffix ..
  · exact List.suffix_refl _

/-- The octets that the read of a sequence consumes. -/
def consumed (lead : UInt8) (rest : List UInt8) : List UInt8 :=
  lead :: rest.take (rest.length - (readFrom lead rest).2.length)

/-- What a step takes and what it leaves are the whole. -/
theorem consumed_append (lead : UInt8) (rest : List UInt8) :
    consumed lead rest ++ (readFrom lead rest).2 = lead :: rest := by
  obtain ⟨tail, htail⟩ := readFrom_suffix lead rest
  have hlength : rest.length - (readFrom lead rest).2.length = tail.length := by
    have h := congrArg List.length htail
    rw [List.length_append] at h
    omega
  have htake : rest.take tail.length = tail := by
    conv => lhs; rw [← htail]
    exact List.take_left
  rw [consumed, hlength, htake, List.cons_append, htail]

/-! ## The form of a sequence -/

/-- A continuation octet carries six bits behind its mark. -/
theorem continuation?_eq_some {octet : UInt8} {n : Nat} (h : continuation? octet = some n) :
    n < 0x40 ∧ octet = .ofNat (n + 0x80) := by
  simp only [continuation?] at h
  split at h
  · next ho =>
    obtain rfl := Option.some.inj h
    refine ⟨by omega, ?_⟩
    rw [Nat.sub_add_cancel ho.1, UInt8.ofNat_toNat]
  · cases h

/-- A sequence that is read to its end has as many continuation octets as are to come, and their
bits are put behind each other. -/
theorem readTail_eq_codePoint {count bits n : Nat} {rest rest' : List UInt8}
    (h : readTail count bits rest = (.codePoint n, rest')) :
    ∃ xs : List Nat, xs.length = count ∧ (∀ x ∈ xs, x < 0x40) ∧
      rest = xs.map (fun x => .ofNat (x + 0x80)) ++ rest' ∧
      n = xs.foldl (fun bits x => 64 * bits + x) bits := by
  fun_induction readTail count bits rest with
  | case1 bits rest =>
    cases h
    exact ⟨[], rfl, List.forall_mem_nil _, rfl, rfl⟩
  | case2 => cases h
  | case3 count bits octet rest low hlow ih =>
    obtain ⟨xs, hlength, hxs, rfl, hn⟩ := ih h
    obtain ⟨hlt, rfl⟩ := continuation?_eq_some hlow
    exact ⟨low :: xs, congrArg (· + 1) hlength, List.forall_mem_cons.mpr ⟨hlt, hxs⟩, rfl, hn⟩
  | case4 => cases h

/-- A leading octet announces so many continuation octets only if it has the form for it. -/
inductive Announces : UInt8 → Nat → Nat → Prop
  | one {n} (hn : n < 0x80) : Announces (.ofNat n) 0 n
  | two {a} (ha : a < 0x20) : Announces (.ofNat (a + 0xC0)) 1 a
  | three {a} (ha : a < 0x10) : Announces (.ofNat (a + 0xE0)) 2 a
  | four {a} (ha : a < 0x08) : Announces (.ofNat (a + 0xF0)) 3 a

/-- A lead octet announces as many octets as the table says. -/
theorem announces_of_announced? {lead : UInt8} {count bits : Nat}
    (h : announced? lead = some (count, bits)) : Announces lead count bits := by
  have hlead {k : Nat} (hk : k ≤ lead.toNat) : .ofNat (lead.toNat - k + k) = lead := by
    rw [Nat.sub_add_cancel hk, UInt8.ofNat_toNat]
  simp only [announced?] at h
  split at h
  · next hn =>
    obtain ⟨rfl, rfl⟩ := Prod.mk.inj (Option.some.inj h)
    have h := Announces.one hn
    rwa [UInt8.ofNat_toNat] at h
  split at h
  · cases h
  split at h
  · obtain ⟨rfl, rfl⟩ := Prod.mk.inj (Option.some.inj h)
    have h := Announces.two (a := lead.toNat - 0xC0) (by omega)
    rwa [hlead (by omega)] at h
  split at h
  · obtain ⟨rfl, rfl⟩ := Prod.mk.inj (Option.some.inj h)
    have h := Announces.three (a := lead.toNat - 0xE0) (by omega)
    rwa [hlead (by omega)] at h
  split at h
  · obtain ⟨rfl, rfl⟩ := Prod.mk.inj (Option.some.inj h)
    have h := Announces.four (a := lead.toNat - 0xF0) (by omega)
    rwa [hlead (by omega)] at h
  · cases h

/-- What a read finds a code point in has the form of a sequence. -/
theorem encodes_of_readFrom {lead : UInt8} {rest rest' : List UInt8} {n : Nat}
    (h : readFrom lead rest = (.codePoint n, rest')) :
    ∃ tail, rest = tail ++ rest' ∧ Encodes (lead :: tail) n := by
  unfold readFrom at h
  split at h
  · next count bits hc =>
    obtain ⟨xs, rfl, hxs, rfl, rfl⟩ := readTail_eq_codePoint h
    refine ⟨_, rfl, ?_⟩
    -- The leading octet says how many bits follow, so each case has its own form.
    generalize hcount : xs.length = count at hc
    cases announces_of_announced? hc with
    | one hn =>
      obtain rfl := List.length_eq_zero_iff.mp hcount
      exact .one hn
    | two ha =>
      obtain ⟨x, rfl⟩ := List.length_eq_one_iff.mp hcount
      simp only [List.forall_mem_cons] at hxs
      exact .two ha hxs.1
    | three ha =>
      obtain ⟨x, y, rfl⟩ := List.length_eq_two.mp hcount
      simp only [List.forall_mem_cons] at hxs
      exact .three ha hxs.1 hxs.2.1
    | four ha =>
      obtain ⟨x, y, z, rfl⟩ := List.length_eq_three.mp hcount
      simp only [List.forall_mem_cons] at hxs
      exact .four ha hxs.1 hxs.2.1 hxs.2.2.1
  · cases h

/-- A read finds a code point exactly if what it consumes is a sequence that encodes it. -/
theorem readFrom_eq_codePoint_iff {lead : UInt8} {rest : List UInt8} {n : Nat} :
    (readFrom lead rest).1 = .codePoint n ↔ Encodes (consumed lead rest) n := by
  have happend := consumed_append lead rest
  refine ⟨fun h => ?_, fun h => ?_⟩
  · obtain ⟨tail, hrest, henc⟩ := encodes_of_readFrom (Prod.ext h rfl)
    have hsplit : consumed lead rest ++ (readFrom lead rest).2
        = lead :: tail ++ (readFrom lead rest).2 := happend.trans (congrArg (lead :: ·) hrest)
    rwa [List.append_cancel_right hsplit]
  · obtain ⟨lead', tail, hconsumed, hread⟩ := h.readFrom_eq
    rw [hconsumed] at happend
    obtain ⟨rfl, hrest⟩ := List.cons.inj (List.cons_append.symm.trans happend)
    rw [← hrest, hread]

/-! ## All sequences -/

/-- The octets that successive reads consume. -/
def sequences : List UInt8 → List (List UInt8)
  | [] => []
  | lead :: rest => consumed lead rest :: sequences (readFrom lead rest).2
termination_by octets => octets.length
decreasing_by exact Nat.lt_succ_of_le (readFrom_length_le lead rest)

theorem sequences_nil : sequences [] = [] := by rw [sequences]

theorem sequences_cons (lead : UInt8) (rest : List UInt8) :
    sequences (lead :: rest) = consumed lead rest :: sequences (readFrom lead rest).2 := by
  rw [sequences]

/-- Reads leave nothing out. -/
theorem flatten_sequences (octets : List UInt8) : (sequences octets).flatten = octets := by
  induction octets using sequences.induct with
  | case1 => rw [sequences_nil]; rfl
  | case2 lead rest ih => rw [sequences_cons, List.flatten_cons, ih, consumed_append]

/-- Each sequence of the octets encodes a character. -/
def Decodes (octets : List UInt8) (cs : List Char) : Prop :=
  List.Forall₂ (fun os c => Encodes os c.toNat) (sequences octets) cs

/-- A reading is a character if its code point is one. -/
theorem char?_eq_some_iff {r : Reading} {c : Char} :
    r.char? = some c ↔ r = .codePoint c.toNat := by
  refine ⟨fun h => ?_, fun h => h ▸ char?_codePoint c⟩
  cases r with
  | codePoint n =>
    rw [Reading.char?] at h
    split at h
    · next hn =>
      obtain rfl := Option.some.inj h
      have hlt : n < UInt32.size := by
        have := hn
        simp only [Nat.isValidChar] at this
        simp only [UInt32.size]
        omega
      exact congrArg Reading.codePoint (UInt32.toNat_ofNat_of_lt' hlt).symm
    · cases h
  | malformed => cases h
  | endOfInput => cases h

/-- All that is read are characters exactly if all sequences encode them. -/
theorem decodes_iff {octets : List UInt8} {cs : List Char} :
    Decodes octets cs ↔ (readings octets).map Reading.char? = cs.map some := by
  induction octets using sequences.induct generalizing cs with
  | case1 =>
    rw [Decodes, sequences_nil, readings_nil]
    cases cs <;> simp
  | case2 lead rest ih =>
    rw [Decodes, sequences_cons, readings_cons]
    cases cs with
    | nil => simp
    | cons c cs =>
      rw [List.forall₂_cons, List.map_cons, List.map_cons, List.cons.injEq, char?_eq_some_iff,
        readFrom_eq_codePoint_iff]
      exact and_congr_right' ih

/-- The octets of a code point are the first sequence. -/
theorem Encodes.sequences_append {os : List UInt8} {n : Nat} (h : Encodes os n)
    (rest : List UInt8) : sequences (os ++ rest) = os :: sequences rest := by
  obtain ⟨lead, tail, rfl, hread⟩ := h.readFrom_eq
  have happend := consumed_append lead (tail ++ rest)
  rw [hread, ← List.cons_append] at happend
  rw [List.cons_append, sequences_cons, hread, List.append_cancel_right happend]

theorem decodes_nil : Decodes [] [] := by
  rw [Decodes, sequences_nil]
  exact .nil

theorem Decodes.cons {os octets : List UInt8} {c : Char} {cs : List Char} (hos : Encodes os c.toNat)
    (h : Decodes octets cs) : Decodes (os ++ octets) (c :: cs) := by
  rw [Decodes, hos.sequences_append]
  exact .cons hos h

/-- The octets of a text are read as its characters. -/
theorem decodes_encoded (cs : List Char) : Decodes (cs.flatMap String.utf8EncodeChar) cs := by
  induction cs with
  | nil => exact decodes_nil
  | cons c cs ih =>
    rw [List.flatMap_cons]
    exact ih.cons (encodes_utf8EncodeChar c)

/-- The first character has octets of its own in front. -/
theorem Decodes.exists_cons {octets : List UInt8} {c : Char} {cs : List Char}
    (h : Decodes octets (c :: cs)) :
    ∃ os rest, octets = os ++ rest ∧ Encodes os c.toNat ∧ Decodes rest cs := by
  cases octets with
  | nil =>
    rw [Decodes, sequences_nil] at h
    cases h
  | cons lead rest =>
    rw [Decodes, sequences_cons] at h
    cases h with
    | cons hos htail => exact ⟨_, _, (consumed_append lead rest).symm, hos, htail⟩

/-- Octets that are read as characters throughout are read as these in front of any others. -/
theorem Decodes.readings_append {octets : List UInt8} {cs : List Char} (h : Decodes octets cs)
    (rest : List UInt8) :
    readings (octets ++ rest) = (cs.map fun c => .codePoint c.toNat) ++ readings rest := by
  rw [← flatten_sequences octets]
  rw [Decodes] at h
  generalize sequences octets = oss at h ⊢
  induction h with
  | nil => rfl
  | cons hos _ ih =>
    rw [List.flatten_cons, List.append_assoc, hos.readings_append, ih]
    rfl

/-- A sequence with which octets start is the byte order mark if they start with it. -/
theorem Encodes.of_isMarked {os rest : List UInt8} {n : Nat} (h : Encodes os n)
    (hm : byteOrderMark <+: os ++ rest) : os = byteOrderMark ∧ n = '\uFEFF'.toNat := by
  have hmark : Encodes byteOrderMark '\uFEFF'.toNat := encodes_utf8EncodeChar '\uFEFF'
  obtain ⟨rest', hrest⟩ := hm
  have hsequences := congrArg sequences hrest
  have hreadings := congrArg readings hrest
  rw [hmark.sequences_append, h.sequences_append] at hsequences
  rw [hmark.readings_append, h.readings_append] at hreadings
  exact ⟨(List.cons.inj hsequences).1.symm,
    (Reading.codePoint.inj (List.cons.inj hreadings).1).symm⟩

/-! ## Overlong sequences -/

/-- Whether octets are the UTF-8 of a text. -/
def IsUtf8 (octets : List UInt8) : Prop := octets.toByteArray.IsValidUTF8

instance (octets : List UInt8) : Decidable (IsUtf8 octets) :=
  inferInstanceAs (Decidable octets.toByteArray.IsValidUTF8)

/-- Octets are well formed if they are those of some characters. -/
theorem isUtf8_iff {octets : List UInt8} :
    IsUtf8 octets ↔ ∃ cs : List Char, octets = cs.flatMap String.utf8EncodeChar := by
  refine ⟨?_, ?_⟩
  · rintro ⟨cs, hcs⟩
    exact ⟨cs, List.toByteArray_inj.mp hcs⟩
  · rintro ⟨cs, rfl⟩
    exact ⟨cs, rfl⟩

/-- The sequence encodes a character and is longer than it needs to be. -/
def IsOverlong (os : List UInt8) : Prop :=
  ∃ c : Char, Encodes os c.toNat ∧ c.utf8Size < os.length

theorem utf8Size_eq (c : Char) : c.utf8Size =
    if c.toNat < 0x80 then 1 else if c.toNat < 0x800 then 2
    else if c.toNat < 0x10000 then 3 else 4 := by
  simp [Char.utf8Size, UInt32.le_iff_toNat_le, Nat.lt_succ_iff]

/-- Octets encode a code point if they are read as it, and as nothing more. -/
theorem encodes_iff {os : List UInt8} {n : Nat} : Encodes os n ↔ readings os = [.codePoint n] := by
  refine ⟨fun h => ?_, fun h => ?_⟩
  · rw [← List.append_nil os, h.readings_append, readings_nil]
  · cases os with
    | nil =>
      rw [readings_nil] at h
      cases h
    | cons lead rest =>
      rw [readings_cons] at h
      obtain ⟨hread, hrest⟩ := List.cons.inj h
      -- Nothing is left to be read, so the first read has consumed everything.
      have hend : (readFrom lead rest).2 = [] := by
        cases hr : (readFrom lead rest).2 with
        | nil => rfl
        | cons lead' rest' =>
          rw [hr, readings_cons] at hrest
          cases hrest
      have hconsumed := consumed_append lead rest
      rw [hend, List.append_nil] at hconsumed
      rw [← hconsumed]
      exact readFrom_eq_codePoint_iff.mp hread

/-- A sequence is overlong if its character has a shorter one. -/
theorem isOverlong_iff {os : List UInt8} :
    IsOverlong os ↔ (match readings os with
      | [r] => r.char?.any fun c => c.utf8Size < os.length
      | _ => false) = true := by
  refine ⟨?_, fun h => ?_⟩
  · rintro ⟨c, henc, hlt⟩
    rw [encodes_iff.mp henc]
    simp [char?_codePoint, hlt]
  · split at h
    · next r hread =>
      obtain ⟨c, hc, hlt⟩ := (Option.any_eq_true _ _).mp h
      rw [char?_eq_some_iff.mp hc] at hread
      exact ⟨c, encodes_iff.mpr hread, of_decide_eq_true hlt⟩
    · cases h

instance (os : List UInt8) : Decidable (IsOverlong os) := decidable_of_iff _ isOverlong_iff.symm

/-- No sequence is shorter than the UTF-8 of its character. -/
theorem Encodes.utf8Size_le {os : List UInt8} {c : Char} (h : Encodes os c.toNat) :
    c.utf8Size ≤ os.length := by
  have hsize := utf8Size_eq c
  generalize c.toNat = n at h hsize
  cases h <;> grind

/-- Sequences of the same length encode different numbers. -/
theorem Encodes.eq_of_length_eq {os os' : List UInt8} {n n' : Nat} (h : Encodes os n)
    (h' : Encodes os' n') (hlength : os.length = os'.length) (hn : n = n') : os = os' := by
  cases h with
  | one =>
    cases h' with
    | one => rw [hn]
    | _ => cases hlength
  | @two a x =>
    cases h' with
    | @two a' x' =>
      obtain ⟨rfl, rfl⟩ : a = a' ∧ x = x' := by omega
      rfl
    | _ => cases hlength
  | @three a x y =>
    cases h' with
    | @three a' x' y' =>
      obtain ⟨rfl, rfl, rfl⟩ : a = a' ∧ x = x' ∧ y = y' := by omega
      rfl
    | _ => cases hlength
  | @four a x y z =>
    cases h' with
    | @four a' x' y' z' =>
      obtain ⟨rfl, rfl, rfl, rfl⟩ : a = a' ∧ x = x' ∧ y = y' ∧ z = z' := by omega
      rfl
    | _ => cases hlength

/-- A sequence that is not overlong is the UTF-8 of its character. -/
theorem Encodes.eq_of_not_isOverlong {os : List UInt8} {c : Char} (h : Encodes os c.toNat)
    (hos : ¬ IsOverlong os) : os = String.utf8EncodeChar c := by
  have hlength : os.length = c.utf8Size :=
    Nat.le_antisymm (Nat.le_of_not_lt fun hlt => hos ⟨c, h, hlt⟩) h.utf8Size_le
  refine h.eq_of_length_eq (encodes_utf8EncodeChar c) ?_ rfl
  rw [hlength, String.length_utf8EncodeChar]

/-- Octets that are read as characters throughout are UTF-8 unless a sequence is overlong. -/
theorem Decodes.isUtf8 {octets : List UInt8} {cs : List Char} (h : Decodes octets cs)
    (hshort : ∀ os ∈ sequences octets, ¬ IsOverlong os) : IsUtf8 octets := by
  have heq : sequences octets = cs.map String.utf8EncodeChar := by
    rw [Decodes] at h
    generalize sequences octets = oss at h hshort
    induction h with
    | nil => rfl
    | cons hos _ ih =>
      obtain ⟨hhead, htail⟩ := List.forall_mem_cons.mp hshort
      rw [hos.eq_of_not_isOverlong hhead, ih htail, List.map_cons]
  exact isUtf8_iff.mpr ⟨cs, by rw [← flatten_sequences octets, heq, List.flatMap]⟩

/-- The dot of two octets is overlong. -/
example : (sequences [0x24, 0xC0, 0xAE, 0x61]).map (decide <| IsOverlong ·)
    = [false, true, false] := by decide +kernel

end JsonPath.Text
