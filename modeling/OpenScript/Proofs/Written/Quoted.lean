import OpenScript.Json.Token

/-!
# Proofs/Written/Quoted — text reads back from between its quotes

    text ──encode──▸ "…" ++ rest ──string?──▸ the same text, rest

Every character is written as something that reads as one item, which stands for that character
again (`Quoted.exists_item`): itself, a letter behind a backslash, or a code.  So all text, with
whatever quotes, backslashes and control characters, reads back from how it is written
(`Token.string?_encode_append`).
-/

namespace OpenScript.Json

namespace Quoted

/-- The code that a control character is written as. -/
theorem code?_control : ∀ n < 0x20, code? '0' '0' (hexDigit (n / 16)) (hexDigit n) = some n := by
  decide +kernel

/-- A character that stands for itself is read as such. -/
theorem items?_plain {c : Char} (hq : c ≠ '"') (hb : c ≠ '\\') (hc : ¬ c.toNat < 0x20)
    (read : List Item) (cs : List Char) : items? read (c :: cs) = items? (.char c :: read) cs := by
  rw [items?, if_neg hc]
  · exact hq
  · exact fun _ _ _ _ _ e => absurd e hb
  · exact fun _ _ e => absurd e hb

/-- **A character is written as one item that stands for it.** -/
theorem exists_item (c : Char) :
    ∃ i : Item, (∀ read cs, items? read (encodeChar c ++ cs) = items? (i :: read) cs) ∧
      ∀ read items, decode read (i :: items) = decode (c :: read) items := by
  unfold encodeChar
  split
  case h_8 =>
    split
    · next hc =>
      refine ⟨.code c.toNat, fun read cs => ?_, fun read items => ?_⟩
      · simp only [List.cons_append, List.nil_append]
        rw [items?, code?_control c.toNat hc]
      · have low : isLow c.toNat = false := by simp only [isLow]; grind
        have high : isHigh c.toNat = false := by simp only [isHigh]; grind
        rw [decode.eq_def]
        simp only [low, high, Bool.false_eq_true, if_false, Char.ofNat_toNat]
    · next hq hb _ _ _ _ _ hc =>
      exact ⟨.char c, fun read cs => items?_plain hq hb hc read cs, fun _ _ => rfl⟩
  all_goals exact ⟨.char _, fun _ _ => rfl, fun _ _ => rfl⟩

/-- The characters of a text are written as items that stand for them. -/
theorem exists_items (cs : List Char) :
    ∃ items : List Item,
      (∀ read rest, items? read (cs.flatMap encodeChar ++ '"' :: rest)
        = some (read.reverse ++ items, rest)) ∧
      ∀ read, decode read items = some (read.reverse ++ cs) := by
  induction cs with
  | nil => exact ⟨[], fun read rest => by simp [items?], fun read => by simp [decode]⟩
  | cons c cs ih =>
    obtain ⟨i, reads, stands⟩ := exists_item c
    obtain ⟨items, readAll, standAll⟩ := ih
    refine ⟨i :: items, fun read rest => ?_, fun read => ?_⟩
    · rw [List.flatMap_cons, List.append_assoc, reads, readAll, List.reverse_cons,
        List.append_assoc, List.singleton_append]
    · rw [stands, standAll, List.reverse_cons, List.append_assoc, List.singleton_append]

end Quoted

namespace Token

/-- **Text reads back from between its quotes.** -/
theorem string?_encode_append (s : String) (rest : List Char) :
    string? (s.toList.flatMap Quoted.encodeChar ++ '"' :: rest)
      = some (.string (some s), rest) := by
  obtain ⟨items, reads, stands⟩ := Quoted.exists_items s.toList
  simp only [string?, reads [], stands [], List.reverse_nil, List.nil_append, Option.map_some,
    String.ofList_toList]

end Token

end OpenScript.Json
