import QueryDefaults.Proofs.Json.Numeral
import QueryDefaults.Proofs.Json.Text

/-!
# Reading what was written

A JSON value whose numerals are well formed and whose strings are texts is read back from its own
text (`parse?_render`). The reader takes two steps for each character at most, so the fuel that it
is given is enough.
-/

set_option autoImplicit false

namespace QueryDefaults.Json

mutual

/-- Whether a value can be written: its numerals are well formed, and its strings are texts. -/
def Printable : Json → Prop
  | .null | .bool _ => True
  | .number numeral => numeral.WellFormed
  | .string text => text.isSome = true
  | .array items => PrintableAll items
  | .object members => PrintableMembers members

/-- Whether several values can be written. -/
def PrintableAll : List Json → Prop
  | [] => True
  | item :: items => item.Printable ∧ PrintableAll items

/-- Whether the members of an object can be written. -/
def PrintableMembers : List (Option String × Json) → Prop
  | [] => True
  | (name, value) :: members =>
    name.isSome = true ∧ value.Printable ∧ PrintableMembers members

end

/-! ## The first character -/

theorem skipBlanks_cons {c : Char} (visible : isBlank c = false) (cs : List Char) :
    skipBlanks (c :: cs) = c :: cs := by
  rw [skipBlanks, List.dropWhile_cons_of_neg (by simp [visible])]

/-- A numeral starts with a sign or a digit. -/
theorem numeral_front {n : Numeral} (formed : n.WellFormed) :
    ∃ c cs, n.print = c :: cs ∧ (c = '-' ∨ c.isDigit = true) := by
  obtain ⟨first, digits, front⟩ := List.exists_cons_of_ne_nil formed.whole_ne_nil
  rw [Numeral.print_eq, front]
  cases n.negative with
  | true => exact ⟨_, _, rfl, .inl rfl⟩
  | false => exact ⟨_, _, rfl, .inr (formed.whole first (front ▸ List.mem_cons_self))⟩

theorem isBlank_of_front {c : Char} (front : c = '-' ∨ c.isDigit = true) : isBlank c = false := by
  rw [isBlank]
  obtain rfl | digit := front
  · rfl
  · simp only [Bool.or_eq_false_iff, beq_eq_false_iff_ne, ne_eq]
    refine ⟨⟨⟨?_, ?_⟩, ?_⟩, ?_⟩ <;> rintro rfl <;> cases digit

/-- A value starts neither with a blank nor with a closing bracket. -/
theorem print_front {j : Json} (ok : j.Printable) :
    ∃ c cs, j.print = c :: cs ∧ isBlank c = false ∧ c ≠ ']' := by
  cases j with
  | null | string | array | object => exact ⟨_, _, rfl, rfl, by decide⟩
  | bool b => cases b <;> exact ⟨_, _, rfl, rfl, by decide⟩
  | number n =>
    obtain ⟨c, cs, front, starts⟩ := numeral_front ok
    refine ⟨c, cs, front, isBlank_of_front starts, ?_⟩
    rintro rfl
    rcases starts with same | digit
    · cases same
    · cases digit

/-! ## Lists -/

theorem printItems_cons (item : Json) {items : List Json} (more : items ≠ []) :
    printItems (item :: items) = item.print ++ ',' :: printItems items := by
  rw [printItems]
  exact more

theorem printMembers_cons (name : Option String) (value : Json)
    {members : List (Option String × Json)} (more : members ≠ []) :
    printMembers ((name, value) :: members) =
      printText (name.getD "") ++ ':' :: value.print ++ ',' :: printMembers members := by
  rw [printMembers]
  exact more

/-- A list of items starts neither with a blank nor with the closing bracket. -/
theorem printItems_front {item : Json} (items : List Json) (ok : item.Printable) :
    ∃ c cs, printItems (item :: items) = c :: cs ∧ isBlank c = false ∧ c ≠ ']' := by
  obtain ⟨c, cs, front, visible, other⟩ := print_front ok
  cases items with
  | nil => exact ⟨c, cs, front, visible, other⟩
  | cons next items =>
    refine ⟨c, cs ++ ',' :: printItems (next :: items), ?_, visible, other⟩
    rw [printItems_cons item (List.cons_ne_nil next items), front, List.cons_append]

theorem printMembers_front (member : Option String × Json) (members : List (Option String × Json)) :
    ∃ cs, printMembers (member :: members) = '"' :: cs := by
  cases members <;> exact ⟨_, rfl⟩

/-! ## Values -/

/-- What starts like a numeral is read as a numeral. -/
theorem parseValue?_numeral {c : Char} (front : c = '-' ∨ c.isDigit = true) (fuel : Nat)
    (cs : List Char) :
    parseValue? (fuel + 1) (c :: cs) =
      (Numeral.parse? (c :: cs)).map fun (numeral, rest) => (.number numeral, rest) := by
  rw [parseValue?, skipBlanks_cons (isBlank_of_front front), Option.map_eq_bind]
  split
  all_goals
    first
    | rfl
    | rename_i same
      cases same
      exact absurd front (by decide)

theorem ends_comma (cs : List Char) : Numeral.Ends (',' :: cs) := by
  rintro c ⟨⟩
  decide

theorem ends_bracket (cs : List Char) : Numeral.Ends (']' :: cs) := by
  rintro c ⟨⟩
  decide

theorem ends_brace (cs : List Char) : Numeral.Ends ('\x7d' :: cs) := by
  rintro c ⟨⟩
  decide

/-- Items are read behind the opening bracket, when there are any. -/
theorem parseValue?_items {c : Char} (visible : isBlank c = false) (other : c ≠ ']') (fuel : Nat)
    (cs : List Char) :
    parseValue? (fuel + 1) ('[' :: c :: cs) =
      (parseItems? fuel (c :: cs)).map fun (items, rest) => (.array items, rest) := by
  have opened : skipBlanks ('[' :: c :: cs) = '[' :: c :: cs := skipBlanks_cons rfl _
  simp only [parseValue?, opened]
  rw [skipBlanks_cons visible, Option.map_eq_bind]
  split
  · rename_i same
    cases same
    exact absurd rfl other
  · rfl

/-- Members are read behind the opening brace, when there are any. -/
theorem parseValue?_members (fuel : Nat) (cs : List Char) :
    parseValue? (fuel + 1) ('\x7b' :: '"' :: cs) =
      (parseMembers? fuel ('"' :: cs)).map fun (members, rest) => (.object members, rest) := by
  rw [Option.map_eq_bind]
  rfl

mutual

theorem parseValue?_print : ∀ {j : Json}, j.Printable → ∀ {rest : List Char}, Numeral.Ends rest →
    ∀ (fuel : Nat), 2 * j.print.length ≤ fuel + 1 →
      parseValue? (fuel + 1) (j.print ++ rest) = some (j, rest)
  | .null, _, rest, _, fuel, _ => rfl
  | .bool true, _, rest, _, fuel, _ => rfl
  | .bool false, _, rest, _, fuel, _ => rfl
  | .number n, ok, rest, ends, fuel, _ => by
    obtain ⟨c, cs, front, starts⟩ := numeral_front ok
    have read := Numeral.parse?_print ok ends
    rw [print]
    rw [front, List.cons_append] at read ⊢
    rw [parseValue?_numeral starts, read]
    rfl
  | .string (some text), _, rest, _, fuel, _ => by
    rw [print, Option.getD_some, printText_append]
    have opened : parseValue? (fuel + 1) ('"' :: (text.toList.flatMap printChar ++ '"' :: rest)) =
        (parseText? (text.toList.flatMap printChar ++ '"' :: rest)).bind fun (text, rest) =>
          some (.string text, rest) := rfl
    rw [opened, parseText?_print, Option.bind_some]
  | .array [], _, rest, _, fuel, _ => rfl
  | .array (item :: items), ok, rest, _, fuel, enough => by
    rw [print, List.cons_append, List.length_cons, List.length_append, List.length_singleton]
      at enough
    obtain ⟨fuel, rfl⟩ := Nat.exists_eq_add_of_le' (by omega : 2 ≤ fuel)
    have read := parseItems?_print ok (List.cons_ne_nil item items) rest fuel (by omega)
    obtain ⟨c, cs, front, visible, other⟩ := printItems_front items ok.1
    rw [print, List.cons_append, List.cons_append, List.append_assoc, List.singleton_append]
    rw [front, List.cons_append] at read ⊢
    rw [parseValue?_items visible other, read]
    rfl
  | .object [], _, rest, _, fuel, _ => rfl
  | .object (member :: members), ok, rest, _, fuel, enough => by
    rw [print, List.cons_append, List.length_cons, List.length_append, List.length_singleton]
      at enough
    obtain ⟨fuel, rfl⟩ := Nat.exists_eq_add_of_le' (by omega : 2 ≤ fuel)
    have read := parseMembers?_print ok (List.cons_ne_nil member members) rest fuel (by omega)
    obtain ⟨cs, front⟩ := printMembers_front member members
    rw [print, List.cons_append, List.cons_append, List.append_assoc, List.singleton_append]
    rw [front, List.cons_append] at read ⊢
    rw [parseValue?_members, read]
    rfl

theorem parseItems?_print : ∀ {items : List Json}, PrintableAll items → items ≠ [] →
    ∀ (rest : List Char) (fuel : Nat), 2 * (printItems items).length ≤ fuel + 1 →
      parseItems? (fuel + 2) (printItems items ++ ']' :: rest) = some (items, rest)
  | [item], ok, _, rest, fuel, enough => by
    have read := parseValue?_print ok.1 (ends_bracket rest) fuel enough
    rw [parseItems?, printItems, read]
    rfl
  | item :: next :: items, ok, _, rest, fuel, enough => by
    have more := List.cons_ne_nil next items
    rw [printItems_cons item more, List.length_append, List.length_cons] at enough
    obtain ⟨fuel, rfl⟩ := Nat.exists_eq_add_of_le' (by omega : 1 ≤ fuel)
    have first := parseValue?_print ok.1 (ends_comma (printItems (next :: items) ++ ']' :: rest))
      (fuel + 1) (by omega)
    have others := parseItems?_print ok.2 more rest fuel (by omega)
    rw [parseItems?, printItems_cons item more, List.append_assoc, List.cons_append, first]
    simp only [Option.bind_eq_bind, Option.bind_some, skipBlanks_cons (c := ',') rfl, others]
    rfl

theorem parseMembers?_print : ∀ {members : List (Option String × Json)}, PrintableMembers members →
    members ≠ [] → ∀ (rest : List Char) (fuel : Nat),
      2 * (printMembers members).length ≤ fuel + 1 →
        parseMembers? (fuel + 2) (printMembers members ++ '\x7d' :: rest) = some (members, rest)
  | [(some name, value)], ok, _, rest, fuel, enough => by
    rw [printMembers, List.length_append, List.length_cons] at enough
    have read := parseValue?_print ok.2.1 (ends_brace rest) fuel (by omega)
    rw [printMembers, List.append_assoc, List.cons_append, Option.getD_some, printText_append,
      parseMembers?]
    simp only [skipBlanks_cons (c := '"') rfl, parseText?_print, skipBlanks_cons (c := ':') rfl,
      Option.bind_eq_bind, Option.bind_some, read]
    rfl
  | (some name, value) :: (next, content) :: members, ok, _, rest, fuel, enough => by
    have more := List.cons_ne_nil (next, content) members
    rw [printMembers_cons _ _ more, List.length_append, List.length_append, List.length_cons,
      List.length_cons] at enough
    obtain ⟨fuel, rfl⟩ := Nat.exists_eq_add_of_le' (by omega : 1 ≤ fuel)
    have read := parseValue?_print ok.2.1
      (ends_comma (printMembers ((next, content) :: members) ++ '\x7d' :: rest))
      (fuel + 1) (by omega)
    have others := parseMembers?_print ok.2.2 more rest fuel (by omega)
    rw [printMembers_cons _ _ more, List.append_assoc, List.append_assoc, List.cons_append,
      List.cons_append, Option.getD_some, printText_append, parseMembers?]
    simp only [skipBlanks_cons (c := '"') rfl, parseText?_print, skipBlanks_cons (c := ':') rfl,
      Option.bind_eq_bind, Option.bind_some, read, skipBlanks_cons (c := ',') rfl, others]
    rfl

end

/-- **Round trip of JSON.** A value that can be written is read back from its text. -/
theorem parse?_render {j : Json} (ok : j.Printable) : parse? j.render = some j := by
  have nothing : Numeral.Ends [] := nofun
  have read := parseValue?_print ok nothing (2 * j.print.length + 1) (by omega)
  rw [List.append_nil] at read
  simp only [parse?, render, String.toList_ofList, read]
  rfl

end QueryDefaults.Json
