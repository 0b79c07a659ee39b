import QueryDefaults.Json.Parse
import QueryDefaults.Json.Print

/-!
# Strings

Every text is read back from its string, with nothing that follows the closing quote
(`parseText?_print`). Each character is read back from its own escape, so the escapes of a text can
be read one after another.
-/

set_option autoImplicit false

namespace QueryDefaults.Json

/-- The escape of a control character spells its code. -/
theorem hexUnit?_control : ∀ code < 0x20,
    hexUnit? '0' '0' (Nat.digitChar (code / 16)) (Nat.digitChar (code % 16)) = some code := by
  decide

/-- A code below the surrogates stands for its character. -/
theorem Piece.ofUnit_control {c : Char} (control : c.toNat < 0x20) : ofUnit c.toNat = .char c := by
  have low : ¬ (0xD800 ≤ c.toNat ∧ c.toNat < 0xE000) := by omega
  rw [ofUnit, if_neg low, Char.ofNat_toNat]

/-- A character is read back from what is written for it. -/
theorem parsePieces?_printChar (c : Char) (cs : List Char) :
    parsePieces? (printChar c ++ cs) =
      (parsePieces? cs).bind fun (pieces, rest) => some (.char c :: pieces, rest) := by
  unfold printChar
  split
  case h_8 quote backslash _ _ _ _ _ =>
    split
    · rename_i control
      simp [parsePieces?, hexUnit?_control _ control, Piece.ofUnit_control control]
    · rename_i printable
      rw [List.singleton_append, parsePieces?, if_neg printable]
      · rfl
      · exact quote
      · exact fun _ _ _ _ _ is _ => backslash is
      · exact fun _ _ is _ => backslash is
  all_goals simp [parsePieces?, unescape?]

theorem Piece.join?_chars (cs : List Char) : join? (cs.map .char) = some cs := by
  induction cs with
  | nil => rfl
  | cons c cs ih => rw [List.map_cons, join?, ih]; rfl

theorem parsePieces?_print (cs rest : List Char) :
    parsePieces? (cs.flatMap printChar ++ '"' :: rest) = some (cs.map .char, rest) := by
  induction cs with
  | nil => rfl
  | cons c cs ih => rw [List.flatMap_cons, List.append_assoc, parsePieces?_printChar, ih]; rfl

/-- A text is read back from its string, behind the opening quote. -/
theorem parseText?_print (text : String) (rest : List Char) :
    parseText? (text.toList.flatMap printChar ++ '"' :: rest) = some (some text, rest) := by
  simp [parseText?, parsePieces?_print, Piece.join?_chars]

theorem printText_append (text : String) (rest : List Char) :
    printText text ++ rest = '"' :: (text.toList.flatMap printChar ++ '"' :: rest) := by
  simp [printText]

end QueryDefaults.Json
