import JsonPath.Regex.CharSet
import JsonPath.Unicode.Age
import JsonPath.Unicode.Property

/-!
# Sets by name

A regular expression names sets of characters by properties: with two values, where the name of the
property is enough, or with more, where the value is named too. General categories and scripts may
also be named by the value alone. All names are compared in their loose form.
-/

namespace JsonPath.Regex

open JsonPath.Unicode

namespace CharSet

/-- The loose form of a property name: in lower case, without blanks, hyphens and underscores,
without characters beyond the first 128, and without `is` in front. -/
def looseName (name : String) : String :=
  let isHead := fun c d => (c == 'i' || c == 'I') && (d == 's' || d == 'S')
  let loosen := fun cs : List Char =>
    (cs.filter fun c => c != ' ' && c != '_' && c != '-' && c ≤ '\x7f').map fun c =>
      if 'A' ≤ c ∧ c ≤ 'Z' then otherCase c else c
  match name.toList with
  | c :: d :: rest =>
    if isHead c d then if loosen rest = ['c'] then "isc" else .ofList (loosen rest)
    else .ofList (loosen (c :: d :: rest))
  | cs => .ofList (loosen cs)

/-- The set of a general category or a group of them, by its loose name. -/
def category? : String → Option CharSet
  | "any" => some any
  | "ascii" => some (range 0 0x7F)
  | "assigned" => some (complement ⟨Category.unassignedRanges⟩)
  | name => (Category.named? name).map fun cs => ⟨Category.rangesOf cs⟩

/-- The set that a name stands for: a property, a category or a script. -/
def named? (name : String) : Option CharSet :=
  let loose := looseName name
  (Property.ofName? loose).map (fun p => ⟨p.ranges⟩) <|> category? loose
    <|> (Script.ofName? loose).map fun s => ⟨s.own⟩

/-- The set of the characters for which a property has a value. -/
def valued? (property value : String) : Option CharSet :=
  let loose := looseName value
  match looseName property with
  | "generalcategory" | "gc" => category? loose
  | "script" | "sc" => (Script.ofName? loose).map fun s => ⟨s.own⟩
  | "scriptextensions" | "scx" => (Script.ofName? loose).map fun s => ⟨s.used⟩
  | "age" => (agedRanges? loose).map fun rs => ⟨rs⟩
  | "graphemeclusterbreak" | "gcb" =>
    (GraphemeBreak.all.find? fun b => b.names.contains loose).map fun b => ⟨b.ranges⟩
  | "wordbreak" | "wb" =>
    (WordBreak.all.find? fun b => b.names.contains loose).map fun b => ⟨b.ranges⟩
  | "sentencebreak" | "sb" =>
    (SentenceBreak.all.find? fun b => b.names.contains loose).map fun b => ⟨b.ranges⟩
  | _ => Option.none

end CharSet

end JsonPath.Regex
