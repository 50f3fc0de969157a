import JsonPath.Proofs.Highlighting

/-!
# Output that is cut off

A sink that takes only so many octets has taken the first ones of those that it would have taken
without a limit, in whatever style nodes are written and wherever the sink fails: inside of a
scalar, of a control sequence or of a line, or in front of the very end (`write_limited`). If all
of them were taken or nobody reads them, writing ends well. Otherwise the failure of the sink is
what is reported.

Every style writes one text, in one piece or in many, which makes no difference (`forM_put`). What
becomes of a text is then said once for all styles (`write_of_put`).
-/

namespace JsonPath.Output

/-- Texts that are written one after the other are written as one. -/
theorem forM_put (texts : List (List Char)) : forM texts put = put texts.flatten := by
  induction texts with
  | nil => exact put_nil.symm
  | cons text texts ih => rw [List.forM_cons, ih, List.flatten_cons, put_append]

/-- In each style, one text is written. -/
theorem exists_writeNodes_eq_put (style : Style) (pretty : Bool) (nodes : List Json) :
    ∃ text, writeNodes style pretty nodes = put text := by
  cases style with
  | plain => exact ⟨_, writeNodes_plain pretty nodes⟩
  | highlighted colours => exact ⟨_, writeNodes_highlighted pretty colours nodes⟩

/-- What becomes of a text: the sink takes what it has room for, and its failure is reported unless
it takes everything or nobody reads it. -/
theorem write_of_put {style : Style} {pretty : Bool} {nodes : List Json} {text : List Char}
    (h : writeNodes style pretty nodes = put text) (sink : Sink) :
    write style pretty nodes sink =
      (if sink.fits (encode text) ∨ sink.failure = .brokenPipe then .ok ()
        else .error ⟨style, sink.failure⟩, sink.take (encode text)) := by
  rw [write, h, run_put]
  cases hfits : sink.fits (encode text) with
  | true => simp
  | false => cases hfailure : sink.failure <;> simp

/-- **Cutting off.** However nodes are written, there are octets that a sink without a limit
takes, and of which any other sink takes the first ones, as many as it has room for. Writing ends
well if that is all of them, or if nobody reads them; for any other reason why the sink takes no
more, this is reported. The plain text may be written in any number of pieces. -/
theorem write_limited (pretty : Bool) (nodes : List Json) :
    (∀ style, ∃ octets : List UInt8,
      write style pretty nodes .unlimited = (.ok (), ⟨octets.toArray, none, .other⟩) ∧
      ∀ limit failure, write style pretty nodes (.limited limit failure) =
        (if octets.length ≤ limit ∨ failure = .brokenPipe then .ok () else .error ⟨style, failure⟩,
          ⟨(octets.take limit).toArray, some (limit - octets.length), failure⟩)) ∧
    ∀ texts : List (List Char),
      texts.flatten
        = (if pretty then (Json.array nodes).prettyAt 0 else (Json.array nodes).compact) →
      writeNodes .plain pretty nodes = (do forM texts put; put ['\n']) := by
  constructor
  · intro style
    obtain ⟨text, htext⟩ := exists_writeNodes_eq_put style pretty nodes
    refine ⟨encode text, ?_, fun limit failure => ?_⟩
    · rw [write_of_put htext]
      simp [Sink.unlimited, Sink.fits, Sink.take, Sink.accepted]
    · rw [write_of_put htext]
      simp [Sink.limited, Sink.fits, Sink.take, Sink.accepted]
  · intro texts htexts
    rw [forM_put, htexts]
    rfl

/-- An array of one value, written in front of the value, with it and behind it. -/
theorem write_limited_pieces :
    [['['], ['n', 'u', 'l', 'l'], [']']].flatten = (Json.array [.null]).compact ∧
      writeNodes .plain false [.null]
        = (do forM [['['], ['n', 'u', 'l', 'l'], [']']] put; put ['\n']) :=
  ⟨rfl, (write_limited false [.null]).2 _ rfl⟩

/-- A sink that fails within a control sequence. -/
example : write (.highlighted true) false [.null] (.limited 3 .other)
    = (.error ⟨.highlighted true, .other⟩, ⟨#[0x5B, 0x1B, 0x5B], some 0, .other⟩) := rfl

end JsonPath.Output
