import JsonPath.Output
import JsonPath.Proofs.Number.Layout
import JsonPath.Proofs.Octets
import JsonPath.Proofs.Quoting

/-!
# Highlighted and plain output agree

Without colours, nodes are highlighted exactly as they are written plainly, octet for octet, also to
a sink that fails on the way. With colours, the octets are the plain ones with control sequences in
between, and taking out every control sequence leaves the plain ones (`write_highlighted`).

Whoever writes piece by piece writes the pieces one behind the other: to write two texts is to write
the text that they make up (`put_append`), wherever the sink fails. So a value is first taken apart
into `pieces`, which know their colours. Plainly, their texts are written, and in colours the same
texts, each coloured one between two control sequences. No text contains the sign that starts a
control sequence, because strings are escaped.
-/

namespace JsonPath.Output

open JsonPath.Text

/-! ## Writing one text behind the other -/

namespace Sink

theorem append_append (octets : Array UInt8) (xs ys : List UInt8) :
    octets ++ (xs ++ ys) = octets ++ xs ++ ys := by
  apply Array.ext'
  rw [Array.toList_appendList, Array.toList_appendList, Array.toList_appendList, List.append_assoc]

/-- To write nothing changes no sink. -/
theorem take_nil (s : Sink) : s.take [] = s := by
  obtain ⟨octets, room, failure⟩ := s
  cases room <;> simp [take, accepted]

/-- A sink takes two texts as it takes the text that they make up, also if it fails within the
first. -/
theorem take_append (s : Sink) (xs ys : List UInt8) : s.take (xs ++ ys) = (s.take xs).take ys := by
  obtain ⟨octets, room, failure⟩ := s
  -- The room of a sink counts down: what is left of it behind the first text is a difference that
  -- stops at zero.
  cases room with
  | none => simp [take, accepted, append_append]
  | some n => simp [take, accepted, append_append, List.take_append, Nat.sub_sub]

/-- Two texts fit if the first one does, and then the second one. -/
theorem fits_append (s : Sink) (xs ys : List UInt8) :
    s.fits (xs ++ ys) = (s.fits xs && (s.take xs).fits ys) := by
  obtain ⟨octets, room, failure⟩ := s
  cases room with
  | none => rfl
  | some n =>
    simp only [fits, take, Option.map_some, Option.all_some, List.length_append]
    rw [Bool.eq_iff_iff, Bool.and_eq_true, decide_eq_true_eq, decide_eq_true_eq, decide_eq_true_eq]
    omega

/-- A sink that has failed takes nothing more. -/
theorem take_take_of_not_fits {s : Sink} {xs : List UInt8} (h : s.fits xs = false)
    (ys : List UInt8) : (s.take xs).take ys = s.take xs := by
  obtain ⟨octets, room, failure⟩ := s
  cases room with
  | none => cases h
  | some n =>
    have hn : n - xs.length = 0 := by
      simp only [fits, Option.all_some, decide_eq_false_iff_not] at h
      omega
    simp [take, accepted, hn]

end Sink

theorem encode_append (a b : List Char) : encode (a ++ b) = encode a ++ encode b :=
  List.flatMap_append

/-- A text is written without a failure if it fits, and the sink takes what it has room for. -/
theorem run_put (text : List Char) (s : Sink) :
    (put text).run.run s = (if s.fits (encode text) then .ok () else .error s.failure,
      s.take (encode text)) := by
  change (if s.fits (encode text) then pure () else throw s.failure : Write Unit).run.run
    (s.take (encode text)) = _
  cases s.fits (encode text) <;> rfl

/-- To write nothing is to do nothing. -/
theorem put_nil : put [] = pure () := by
  funext s
  change (put []).run.run s = (.ok (), s)
  rw [run_put]
  cases h : s.room <;> simp [encode, Sink.take_nil, Sink.fits, h]

/-- Two texts are written one behind the other as one. If the sink fails within the first, it has
taken as much of both. -/
theorem put_append (a b : List Char) : put (a ++ b) = (do put a; put b) := by
  funext s
  change (put (a ++ b)).run.run s = (do put a; put b : Write Unit).run.run s
  rw [ExceptT.run_bind, StateT.run_bind, run_put, run_put, encode_append, Sink.take_append,
    Sink.fits_append]
  cases h : s.fits (encode a) with
  | true =>
    change _ = (put b).run.run (s.take (encode a))
    rw [run_put]
    rfl
  | false =>
    rw [Sink.take_take_of_not_fits h]
    rfl

/-! ## Pieces -/

/-- A stretch of what is written, and its colour if it has one of its own. -/
structure Piece where
  shade : Option Shade
  text : List Char

/-- A piece without a colour. -/
def Piece.plain (text : List Char) : Piece := ⟨none, text⟩

/-- The start of a new line, if there is one. -/
def linePieces (pretty : Bool) (level : Nat) : List Piece :=
  if pretty then [.plain (Json.newLine level)] else []

mutual

/-- The pieces of a value that is at the given level. -/
def pieces (pretty : Bool) (level : Nat) : Json → List Piece
  | .null => [⟨some .null, ['n', 'u', 'l', 'l']⟩]
  | .bool true => [⟨some .bool, ['t', 'r', 'u', 'e']⟩]
  | .bool false => [⟨some .bool, ['f', 'a', 'l', 's', 'e']⟩]
  | .number n => [⟨some .number, n.text⟩]
  | .string s => [⟨some .string, Json.stringText s⟩]
  | .array items =>
    .plain ['['] :: (itemPieces pretty level items
      ++ ((if items.isEmpty then [] else linePieces pretty level) ++ [.plain [']']]))
  | .object members =>
    .plain ['\x7b'] :: (memberPieces pretty level members
      ++ ((if members.isEmpty then [] else linePieces pretty level) ++ [.plain ['\x7d']]))

/-- The pieces of items, one level below the array. -/
def itemPieces (pretty : Bool) (level : Nat) : List Json → List Piece
  | [] => []
  | x :: xs =>
    linePieces pretty (level + 1) ++ (pieces pretty (level + 1) x
      ++ ((if xs.isEmpty then [] else [.plain [',']]) ++ itemPieces pretty level xs))

/-- The pieces of members, one level below the object. -/
def memberPieces (pretty : Bool) (level : Nat) : List (String × Json) → List Piece
  | [] => []
  | (name, x) :: ms =>
    linePieces pretty (level + 1) ++ (⟨some .name, Json.stringText name⟩
      :: .plain (if pretty then [':', ' '] else [':'])
      :: (pieces pretty (level + 1) x
        ++ ((if ms.isEmpty then [] else [.plain [',']]) ++ memberPieces pretty level ms)))

end

namespace Format

variable (f : Format)

/-- What is written for a piece. -/
def piece (p : Piece) : List Char :=
  match p.shade with
  | some s => f.paint s p.text
  | none => p.text

/-- What is written for pieces. -/
def text (ps : List Piece) : List Char := ps.flatMap f.piece

/-- To do so is to write the pieces. -/
def Writes (w : Write Unit) (ps : List Piece) : Prop := w = put (f.text ps)

variable {f}

namespace Writes

theorem nil : f.Writes (pure ()) [] := put_nil.symm

theorem single (p : Piece) : f.Writes (put (f.piece p)) [p] :=
  congrArg put (List.append_nil _).symm

/-- What writes some pieces and then what writes others. -/
theorem append {w v : Write Unit} {ps qs : List Piece} (hw : f.Writes w ps) (hv : f.Writes v qs) :
    f.Writes (do w; v) (ps ++ qs) := by
  rw [Writes, text, List.flatMap_append, put_append, hw, hv]
  rfl

/-- A piece is written, and then others. -/
theorem cons {v : Write Unit} {qs : List Piece} (p : Piece) (hv : f.Writes v qs) :
    f.Writes (do put (f.piece p); v) (p :: qs) := (single p).append hv

/-- What may be passed over, and then something else. -/
theorem unless_append (b : Bool) {w v : Write Unit} {ps qs : List Piece} (hw : f.Writes w ps)
    (hv : f.Writes v qs) :
    f.Writes (if b then v else do w; v) ((if b then [] else ps) ++ qs) := by
  cases b with
  | true => exact hv
  | false => exact hw.append hv

end Writes

/-- A line is broken in pretty output only. -/
theorem breakLine_writes (f : Format) (level : Nat) :
    f.Writes (f.breakLine level) (linePieces f.pretty level) := by
  unfold breakLine linePieces
  cases f.pretty with
  | true => exact .single (.plain (Json.newLine level))
  | false => exact .nil

end Format

section

variable (f : Format)

mutual

/-- A value is written piece by piece. -/
theorem writeValue_writes (level : Nat) (j : Json) :
    f.Writes (writeValue f level j) (pieces f.pretty level j) := by
  match j with
  | .null => exact .single ⟨some .null, _⟩
  | .bool true => exact .single ⟨some .bool, _⟩
  | .bool false => exact .single ⟨some .bool, _⟩
  | .number _ => exact .single ⟨some .number, _⟩
  | .string _ => exact .single ⟨some .string, _⟩
  | .array items =>
    rw [writeValue, pieces]
    exact .cons (.plain _) ((writeItems_writes level items).append
      (.unless_append _ (f.breakLine_writes level) (.single (.plain _))))
  | .object members =>
    rw [writeValue, pieces]
    exact .cons (.plain _) ((writeMembers_writes level members).append
      (.unless_append _ (f.breakLine_writes level) (.single (.plain _))))

/-- The items of an array are written piece by piece, each on a line of its own. -/
theorem writeItems_writes (level : Nat) (xs : List Json) :
    f.Writes (writeItems f level xs) (itemPieces f.pretty level xs) := by
  match xs with
  | [] =>
    rw [writeItems, itemPieces]
    exact .nil
  | x :: xs =>
    rw [writeItems, itemPieces]
    exact (f.breakLine_writes (level + 1)).append ((writeValue_writes (level + 1) x).append
      (.unless_append _ (.single (.plain _)) (writeItems_writes level xs)))

/-- The members of an object are written piece by piece, each on a line of its own. -/
theorem writeMembers_writes (level : Nat) (ms : List (String × Json)) :
    f.Writes (writeMembers f level ms) (memberPieces f.pretty level ms) := by
  match ms with
  | [] =>
    rw [writeMembers, memberPieces]
    exact .nil
  | (name, x) :: ms =>
    rw [writeMembers, memberPieces]
    exact (f.breakLine_writes (level + 1)).append (.cons ⟨some .name, _⟩ (.cons (.plain _)
      ((writeValue_writes (level + 1) x).append
        (.unless_append _ (.single (.plain _)) (writeMembers_writes level ms)))))

end

end

/-! ## Plain texts -/

/-- Without colours, every piece is written as its text. -/
theorem text_plain (pretty : Bool) (ps : List Piece) :
    Format.text ⟨pretty, false⟩ ps = ps.flatMap Piece.text := by
  have hpiece : Format.piece ⟨pretty, false⟩ = Piece.text := by
    funext p
    obtain ⟨shade, text⟩ := p
    cases shade <;> rfl
  rw [Format.text, hpiece]

@[simp] theorem plain_text (text : List Char) : (Piece.plain text).text = text := rfl

@[simp] theorem text_linePieces (pretty : Bool) (level : Nat) :
    (linePieces pretty level).flatMap Piece.text = if pretty then Json.newLine level else [] := by
  cases pretty <;> simp [linePieces]

mutual

/-- The texts of the pieces of a value make up the text of the value. -/
theorem text_pieces (pretty : Bool) (level : Nat) (j : Json) :
    (pieces pretty level j).flatMap Piece.text
      = if pretty then j.prettyAt level else j.compact := by
  match j with
  | .null => cases pretty <;> rfl
  | .bool true => cases pretty <;> rfl
  | .bool false => cases pretty <;> rfl
  | .number _ => cases pretty <;> exact List.append_nil _
  | .string _ => cases pretty <;> exact List.append_nil _
  | .array [] => cases pretty <;> rfl
  | .object [] => cases pretty <;> rfl
  | .array (x :: xs) =>
    rw [pieces, List.flatMap_cons]
    refine (congrArg ('[' :: ·) (text_itemPieces pretty level (x :: xs) nofun)).trans ?_
    cases pretty <;> rfl
  | .object (m :: ms) =>
    rw [pieces, List.flatMap_cons]
    refine (congrArg ('\x7b' :: ·) (text_memberPieces pretty level (m :: ms) nofun)).trans ?_
    cases pretty <;> rfl

/-- The same for the items of an array that is not empty, with the bracket behind them. -/
theorem text_itemPieces (pretty : Bool) (level : Nat) (xs : List Json) (h : xs ≠ []) :
    (itemPieces pretty level xs ++ (linePieces pretty level ++ [Piece.plain [']']])).flatMap
      Piece.text = if pretty then Json.prettyItems level xs else Json.compactItems xs := by
  -- Two equations write items: the last item has no comma behind it.
  match xs, h with
  | [x], _ =>
    have hx := text_pieces pretty (level + 1) x
    cases pretty <;> simp_all [itemPieces, Json.prettyItems, Json.compactItems]
  | x :: y :: ys, _ =>
    have hx := text_pieces pretty (level + 1) x
    have hxs := text_itemPieces pretty level (y :: ys) nofun
    rw [itemPieces, Json.prettyItems.eq_3 _ _ _ (List.cons_ne_nil y ys),
      Json.compactItems.eq_3 _ _ (List.cons_ne_nil y ys)]
    simp only [List.append_assoc, List.flatMap_append, hx, hxs, text_linePieces]
    cases pretty <;> simp

/-- The same for the members of an object that is not empty, with the brace behind them. -/
theorem text_memberPieces (pretty : Bool) (level : Nat) (ms : List (String × Json))
    (h : ms ≠ []) :
    (memberPieces pretty level ms ++ (linePieces pretty level ++ [Piece.plain ['\x7d']])).flatMap
      Piece.text = if pretty then Json.prettyMembers level ms else Json.compactMembers ms := by
  match ms, h with
  | [(name, x)], _ =>
    have hx := text_pieces pretty (level + 1) x
    cases pretty <;> simp_all [memberPieces, Json.prettyMembers, Json.compactMembers]
  | (name, x) :: m :: ms, _ =>
    have hx := text_pieces pretty (level + 1) x
    have hms := text_memberPieces pretty level (m :: ms) nofun
    rw [memberPieces, Json.prettyMembers.eq_3 _ _ _ _ (List.cons_ne_nil m ms),
      Json.compactMembers.eq_3 _ _ _ (List.cons_ne_nil m ms)]
    simp only [List.append_assoc, List.cons_append, List.flatMap_append, List.flatMap_cons, hx, hms,
      text_linePieces]
    cases pretty <;> simp

end

/-! ## What is coloured -/

mutual

/-- The number of scalars and of names of members in a value. -/
def shades : Json → Nat
  | .array items => itemShades items
  | .object members => memberShades members
  | _ => 1

/-- The number of scalars and of names of members in items. -/
def itemShades : List Json → Nat
  | [] => 0
  | x :: xs => shades x + itemShades xs

/-- The number of scalars and of names of members in members, with their own names. -/
def memberShades : List (String × Json) → Nat
  | [] => 0
  | (_, x) :: ms => 1 + shades x + memberShades ms

end

/-- The number of coloured pieces. -/
def shaded (ps : List Piece) : Nat := ps.countP (·.shade.isSome)

@[simp] theorem shaded_nil : shaded [] = 0 := rfl

@[simp] theorem shaded_cons (p : Piece) (ps : List Piece) :
    shaded (p :: ps) = shaded ps + if p.shade.isSome then 1 else 0 := List.countP_cons

@[simp] theorem shaded_append (ps qs : List Piece) : shaded (ps ++ qs) = shaded ps + shaded qs :=
  List.countP_append

@[simp] theorem plain_shade (text : List Char) : (Piece.plain text).shade = none := rfl

@[simp] theorem shaded_linePieces (pretty : Bool) (level : Nat) :
    shaded (linePieces pretty level) = 0 := by
  cases pretty <;> rfl

@[simp] theorem shaded_ite {c : Prop} [Decidable c] (ps : List Piece) :
    shaded (if c then [] else ps) = if c then 0 else shaded ps := apply_ite shaded c [] ps

mutual

/-- Scalars and names of members are coloured, and nothing else is. -/
theorem shaded_pieces (pretty : Bool) (level : Nat) (j : Json) :
    shaded (pieces pretty level j) = shades j := by
  match j with
  | .null => rfl
  | .bool true => rfl
  | .bool false => rfl
  | .number _ => rfl
  | .string _ => rfl
  | .array items => simp [pieces, shades, shaded_itemPieces pretty level items]
  | .object members => simp [pieces, shades, shaded_memberPieces pretty level members]

/-- The scalars and names within items are coloured. -/
theorem shaded_itemPieces (pretty : Bool) (level : Nat) (xs : List Json) :
    shaded (itemPieces pretty level xs) = itemShades xs := by
  match xs with
  | [] => rfl
  | x :: xs =>
    simp [itemPieces, itemShades, shaded_pieces pretty (level + 1) x,
      shaded_itemPieces pretty level xs]

/-- The names of members are coloured, and the scalars and names within the members. -/
theorem shaded_memberPieces (pretty : Bool) (level : Nat) (ms : List (String × Json)) :
    shaded (memberPieces pretty level ms) = memberShades ms := by
  match ms with
  | [] => rfl
  | (name, x) :: ms =>
    simp [memberPieces, memberShades, shaded_pieces pretty (level + 1) x,
      shaded_memberPieces pretty level ms]
    omega

end

/-! ## Printed texts

No text of a piece contains the sign that starts a control sequence. -/

/-- No text of a piece contains the sign. -/
def Quiet (ps : List Piece) : Prop := ∀ p ∈ ps, '\x1b' ∉ p.text

@[simp] theorem quiet_nil : Quiet [] := nofun

@[simp] theorem quiet_cons (p : Piece) (ps : List Piece) :
    Quiet (p :: ps) ↔ '\x1b' ∉ p.text ∧ Quiet ps := List.forall_mem_cons

@[simp] theorem quiet_append (ps qs : List Piece) : Quiet (ps ++ qs) ↔ Quiet ps ∧ Quiet qs :=
  List.forall_mem_append

@[simp] theorem quiet_ite {c : Prop} [Decidable c] {ps : List Piece} (h : Quiet ps) :
    Quiet (if c then [] else ps) := by
  split
  · exact quiet_nil
  · exact h

@[simp] theorem quiet_linePieces (pretty : Bool) (level : Nat) :
    Quiet (linePieces pretty level) := by
  cases pretty with
  | true => simp [linePieces, Json.newLine, List.mem_replicate]
  | false => exact quiet_nil

/-- Digits are not the sign. -/
theorem not_mem_of_digits {ds : List Char} (h : ∀ c ∈ ds, isDigit c = true) : '\x1b' ∉ ds :=
  fun hc => absurd (h _ hc) (by decide)

theorem not_mem_integer (i : Int) : '\x1b' ∉ integer i := by
  have hd := not_mem_of_digits (isDigit_of_mem_digits i.natAbs)
  unfold integer
  split
  · simpa using hd
  · exact hd

/-- A numeral is made of digits, a point, an exponent and signs before them. -/
theorem not_mem_numeral (n : Number.Numeral) : '\x1b' ∉ n.text := by
  have hpointed : '\x1b' ∉ n.pointed := by
    unfold Number.Numeral.pointed
    split
    · exact List.not_mem_nil
    · simpa using not_mem_of_digits n.fraction_digits
  have hscaled : '\x1b' ∉ n.scaled := by
    unfold Number.Numeral.scaled
    split
    · exact List.not_mem_nil
    · next he =>
      have hform := n.exponent_form he
      generalize n.exponent = es at hform
      cases hform with
      | plain _ hd => simpa using not_mem_of_digits hd
      | minus _ hd => simpa using not_mem_of_digits hd
      | plus _ hd => simpa using not_mem_of_digits hd
  have hunsigned : '\x1b' ∉ n.unsigned := by
    simp [Number.Numeral.unsigned, not_mem_of_digits n.whole_digits, hpointed, hscaled]
  unfold Number.Numeral.text
  split
  · simpa using hunsigned
  · exact hunsigned

/-- The text of a number does not contain the sign. -/
theorem not_mem_number (n : Number) : '\x1b' ∉ n.text := by
  cases n with
  | integer n => exact not_mem_integer _
  | natural n _ => exact not_mem_of_digits (isDigit_of_mem_digits _)
  | float x hx =>
    obtain ⟨m, hm, -⟩ := documentLayout.exists_numeral_float hx
    rw [Number.text, ← hm]
    exact not_mem_numeral m

/-- No character of a string is written with the sign: it is a control character itself, and these
are escaped. -/
theorem not_mem_stringChar (c : Char) : '\x1b' ∉ Json.stringChar c := by
  unfold Json.stringChar
  split
  · next l hl =>
    have hne : l ≠ '\x1b' := by
      unfold Json.escapeLetter? at hl
      split at hl
      case h_8 => cases hl
      all_goals
        cases hl
        decide
    simpa using hne.symm
  · split
    · next hlt =>
      have hn : c.toNat < 0x20 := hlt
      -- There are few control characters, so all their escapes are looked at.
      have hdigits : ∀ n < 0x20, '\x1b' ∉ Query.controlDigits n := by decide
      rw [Query.padded_digits hn]
      simpa using hdigits _ hn
    · next hle =>
      intro h
      rw [← List.mem_singleton.mp h] at hle
      exact hle (by decide)

/-- Control characters are escaped in a string. -/
theorem not_mem_stringText (s : String) : '\x1b' ∉ Json.stringText s := by
  simp [Json.stringText, not_mem_stringChar]

mutual

/-- The pieces of a value are free of the sign. -/
theorem quiet_pieces (pretty : Bool) (level : Nat) (j : Json) : Quiet (pieces pretty level j) := by
  match j with
  | .null => simp [pieces]
  | .bool true => simp [pieces]
  | .bool false => simp [pieces]
  | .number n => simp [pieces, not_mem_number]
  | .string s => simp [pieces, not_mem_stringText]
  | .array items => simp [pieces, quiet_itemPieces pretty level items]
  | .object members => simp [pieces, quiet_memberPieces pretty level members]

/-- The pieces of items are free of the sign. -/
theorem quiet_itemPieces (pretty : Bool) (level : Nat) (xs : List Json) :
    Quiet (itemPieces pretty level xs) := by
  match xs with
  | [] => exact quiet_nil
  | x :: xs =>
    simp [itemPieces, quiet_pieces pretty (level + 1) x, quiet_itemPieces pretty level xs]

/-- The pieces of members are free of the sign, in the names too. -/
theorem quiet_memberPieces (pretty : Bool) (level : Nat) (ms : List (String × Json)) :
    Quiet (memberPieces pretty level ms) := by
  match ms with
  | [] => exact quiet_nil
  | (name, x) :: ms =>
    cases pretty <;>
      simp [memberPieces, not_mem_stringText, quiet_pieces _ (level + 1) x,
        quiet_memberPieces _ level ms]

end

/-! ## Control sequences -/

/-- What follows the first `m`, if the octets start with `ESC [`. -/
def afterControl? : List UInt8 → Option (List UInt8)
  | 0x1B :: 0x5B :: rest => (rest.dropWhile (· != 0x6D)).tail?
  | _ => none

/-- What follows a control sequence is shorter than what starts with it. -/
theorem length_lt_of_afterControl? {octets after : List UInt8}
    (h : afterControl? octets = some after) : after.length < octets.length := by
  unfold afterControl? at h
  split at h
  · next rest =>
    have hle := (List.dropWhile_sublist (l := rest) (· != 0x6D)).length_le
    cases hd : rest.dropWhile (· != 0x6D) with
    | nil => simp [hd] at h
    | cons m tail =>
      simp only [hd, List.tail?_cons, Option.some.injEq] at h
      subst h
      simp only [hd, List.length_cons] at hle ⊢
      omega
  · cases h

/-- The octets without the sequences that start with `ESC [` and end with the next `m`. -/
def withoutControls : List UInt8 → List UInt8
  | [] => []
  | o :: rest =>
    match _h : afterControl? (o :: rest) with
    | some after => withoutControls after
    | none => o :: withoutControls rest
termination_by octets => octets.length
decreasing_by
  · exact length_lt_of_afterControl? _h
  · exact Nat.lt_succ_self _

@[simp] theorem withoutControls_nil : withoutControls [] = [] := by rw [withoutControls]

/-- An octet that starts no control sequence stays. -/
theorem withoutControls_cons {o : UInt8} (h : o ≠ 0x1B) (rest : List UInt8) :
    withoutControls (o :: rest) = o :: withoutControls rest := by
  have hnone : afterControl? (o :: rest) = none := by
    unfold afterControl?
    split
    · next heq => exact absurd (List.cons.inj heq).1 h
    · rfl
  rw [withoutControls]
  split
  · next he => exact nomatch hnone.symm.trans he
  · rfl

/-- A control sequence at the front is taken out. -/
theorem withoutControls_of_some {octets after : List UInt8}
    (h : afterControl? octets = some after) :
    withoutControls octets = withoutControls after := by
  cases octets with
  | nil => cases h
  | cons o rest =>
    rw [withoutControls]
    split
    · next he => rw [Option.some.inj (he.symm.trans h)]
    · next he => exact nomatch he.symm.trans h

/-- Octets among which no control sequence starts stay. -/
theorem withoutControls_append {octets : List UInt8} (h : 0x1B ∉ octets) (rest : List UInt8) :
    withoutControls (octets ++ rest) = octets ++ withoutControls rest := by
  induction octets with
  | nil => rfl
  | cons o octets ih =>
    rw [List.mem_cons, not_or] at h
    rw [List.cons_append, withoutControls_cons (Ne.symm h.1), ih h.2, List.cons_append]

/-- The octet that starts a control sequence is part of no other character. -/
theorem not_mem_encode {text : List Char} (h : '\x1b' ∉ text) : 0x1B ∉ encode text := by
  intro hmem
  obtain ⟨c, hc, ho⟩ := List.mem_flatMap.mp hmem
  have hne : c.toNat ≠ 0x1B := by
    intro hn
    have hesc : c = '\x1b' := by rw [← Char.ofNat_toNat c, hn]
    exact h (hesc ▸ hc)
  have henc := encodes_utf8EncodeChar c
  generalize c.toNat = n at hne henc
  generalize String.utf8EncodeChar c = octets at ho henc
  have hoct {m : Nat} (hm : m < 0x100) (h0 : m ≠ 0x1B) : (0x1B : UInt8) ≠ .ofNat m := by
    intro h
    have hn := congrArg UInt8.toNat h
    rw [UInt8.toNat_ofNat_of_lt' hm] at hn
    exact h0 hn.symm
  cases henc <;>
    simp (disch := omega) only [List.mem_cons, List.not_mem_nil, hoct, or_false] at ho

/-- Each of the colours is switched on by a control sequence. -/
theorem afterControl?_code (s : Shade) (rest : List UInt8) :
    afterControl? (encode (control s.code) ++ rest) = some rest := by
  cases s <;> rfl

theorem afterControl?_reset (rest : List UInt8) :
    afterControl? (encode (control ['0']) ++ rest) = some rest := rfl

/-- Taking out the control sequences leaves the texts of the pieces. -/
theorem withoutControls_text (pretty : Bool) {ps : List Piece} (h : Quiet ps) (rest : List UInt8) :
    withoutControls (encode (Format.text ⟨pretty, true⟩ ps) ++ rest)
      = encode (ps.flatMap Piece.text) ++ withoutControls rest := by
  induction ps with
  | nil => rfl
  | cons p ps ih =>
    rw [quiet_cons] at h
    have ih := ih h.2
    have hp := not_mem_encode h.1
    obtain ⟨shade, text⟩ := p
    rw [Format.text, List.flatMap_cons, List.flatMap_cons, encode_append, encode_append]
    rw [← Format.text, List.append_assoc, List.append_assoc, ← ih]
    cases shade with
    | none => exact withoutControls_append hp _
    | some s =>
      have hpaint : Format.piece ⟨pretty, true⟩ ⟨some s, text⟩
          = control s.code ++ text ++ control ['0'] := rfl
      rw [hpaint, encode_append, encode_append, List.append_assoc, List.append_assoc,
        withoutControls_of_some (afterControl?_code s _), withoutControls_append hp,
        withoutControls_of_some (afterControl?_reset _)]

/-- Two control sequences stand around each coloured piece, and none anywhere else. -/
theorem count_text (pretty : Bool) {ps : List Piece} (h : Quiet ps) :
    (encode (Format.text ⟨pretty, true⟩ ps)).count 0x1B = 2 * shaded ps := by
  induction ps with
  | nil => rfl
  | cons p ps ih =>
    rw [quiet_cons] at h
    have ih := ih h.2
    have hp := List.count_eq_zero.mpr (not_mem_encode h.1)
    obtain ⟨shade, text⟩ := p
    rw [Format.text, List.flatMap_cons, encode_append, List.count_append, ← Format.text, ih,
      shaded_cons]
    cases shade with
    | none =>
      rw [show Format.piece ⟨pretty, true⟩ ⟨none, text⟩ = text from rfl, hp]
      simp
    | some s =>
      -- One sign switches the colour on, and one switches it off again.
      have hcode : (encode (control s.code)).count 0x1B = 1 := by cases s <;> rfl
      have hreset : (encode (control ['0'])).count 0x1B = 1 := rfl
      have hpaint : Format.piece ⟨pretty, true⟩ ⟨some s, text⟩
          = control s.code ++ text ++ control ['0'] := rfl
      rw [hpaint, encode_append, encode_append, List.count_append, List.count_append, hcode, hreset,
        hp, Option.isSome_some, if_pos rfl]
      omega

/-! ## Main statement -/

/-- Nodes are written plainly as the texts of their pieces, and a line break. -/
theorem writeNodes_plain (pretty : Bool) (nodes : List Json) :
    writeNodes .plain pretty nodes
      = put ((pieces pretty 0 (.array nodes)).flatMap Piece.text ++ ['\n']) := by
  rw [put_append, text_pieces]
  rfl

/-- Nodes are highlighted as their pieces, and a line break. -/
theorem writeNodes_highlighted (pretty colours : Bool) (nodes : List Json) :
    writeNodes (.highlighted colours) pretty nodes
      = put (Format.text ⟨pretty, colours⟩ (pieces pretty 0 (.array nodes)) ++ ['\n']) := by
  have hw : Format.Writes ⟨pretty, colours⟩ _ _ := writeValue_writes _ 0 (.array nodes)
  rw [put_append, ← hw]
  rfl

/-- A sink without a limit takes all that is written. -/
theorem write_unlimited {style : Style} {pretty : Bool} {nodes : List Json} {text : List Char}
    (h : writeNodes style pretty nodes = put text) (taken : Array UInt8) (failure : Failure) :
    write style pretty nodes ⟨taken, none, failure⟩
      = (.ok (), ⟨taken ++ encode text, none, failure⟩) := by
  rw [write, h, run_put]
  rfl

/-- **Highlighting.** Nodes are highlighted without colours as they are written plainly: every
sink takes the same, and if it fails, for the same reason. With colours, control sequences are
written in between, two for each scalar and each name of a member, and without them the octets
are the plain ones. -/
theorem write_highlighted (pretty : Bool) (nodes : List Json) :
    (∀ sink : Sink,
      (write (.highlighted false) pretty nodes sink).2 = (write .plain pretty nodes sink).2 ∧
      (write (.highlighted false) pretty nodes sink).1.mapError WriteError.cause
        = (write .plain pretty nodes sink).1.mapError WriteError.cause) ∧
    ∃ octets : List UInt8, octets.count 0x1B = 2 * itemShades nodes ∧
      ∀ (taken : Array UInt8) (failure : Failure),
        write (.highlighted true) pretty nodes ⟨taken, none, failure⟩
          = (.ok (), ⟨taken ++ octets, none, failure⟩) ∧
        write .plain pretty nodes ⟨taken, none, failure⟩
          = (.ok (), ⟨taken ++ withoutControls octets, none, failure⟩) := by
  have hplain := writeNodes_plain pretty nodes
  have hquiet := quiet_pieces pretty 0 (.array nodes)
  refine ⟨fun sink => ?_, _, ?_, fun taken failure =>
    ⟨write_unlimited (writeNodes_highlighted pretty true nodes) taken failure, ?_⟩⟩
  · have hsame : writeNodes (.highlighted false) pretty nodes = writeNodes .plain pretty nodes := by
      rw [writeNodes_highlighted, text_plain, hplain]
    rw [write, write, hsame]
    cases (writeNodes .plain pretty nodes).run.run sink with
    | mk outcome s =>
      cases outcome with
      | ok _ => exact ⟨rfl, rfl⟩
      | error cause => cases cause <;> exact ⟨rfl, rfl⟩
  · rw [encode_append, List.count_append, count_text pretty hquiet, shaded_pieces]
    rfl
  -- The line break at the end is no part of a piece, but is free of the sign too.
  · have hend : withoutControls (encode ['\n']) = encode ['\n'] := by
      have hnewline : 0x1B ∉ encode ['\n'] := not_mem_encode (by decide)
      have h := withoutControls_append hnewline []
      rwa [withoutControls_nil, List.append_nil] at h
    rw [write_unlimited hplain, encode_append, encode_append, withoutControls_text pretty hquiet,
      hend]

end JsonPath.Output
