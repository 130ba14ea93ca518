import OpenScript.Json.Parse
import OpenScript.Proofs.Written.Number
import OpenScript.Proofs.Written.Quoted

/-!
# Proofs/Written/Value — JSON values read back from their compact text

    value ──chars──▸ characters ──scan──▸ its tokens ──Reader.step──▸ the same value

The characters of a value are cut into its tokens, whatever was read before and whatever follows
that cannot go on a number (`Json.Valid.scans`), and over its tokens a reader gets from wherever a
value may stand to having read that value (`Json.read_tokens`).  So every value whose numbers keep
to the number syntax reads back from its compact text (`Json.parse_render_value`).
-/

namespace OpenScript.Json

open Decimal (Stops)

/-- A value whose numbers keep to the number syntax. -/
inductive Valid : Json → Prop where
  | null : Valid .null
  | bool (b : Bool) : Valid (.bool b)
  | number {l : Decimal.Literal} (h : l.Valid) : Valid (.number l)
  | string (s : Option String) : Valid (.string s)
  | array {items : List Json} (h : ∀ j ∈ items, Valid j) : Valid (.array items)
  | object {fields : List (Option String × Json)} (h : ∀ f ∈ fields, Valid f.2) :
    Valid (.object fields)

mutual

/-- The tokens of a value. -/
def tokens : Json → List Token
  | .null => [.null]
  | .bool true => [.true]
  | .bool false => [.false]
  | .number l => [.number l]
  | .string s => [.string s]
  | .array items => .beginArray :: itemsTokens items
  | .object fields => .beginObject :: fieldsTokens fields

/-- The tokens of the items of an array, and of its end. -/
def itemsTokens : List Json → List Token
  | [] => [.endArray]
  | [j] => j.tokens ++ [.endArray]
  | j :: js => j.tokens ++ .comma :: itemsTokens js

/-- The tokens of the fields of an object, and of its end. -/
def fieldsTokens : List (Option String × Json) → List Token
  | [] => [.endObject]
  | [(k, j)] => .string k :: .colon :: (j.tokens ++ [.endObject])
  | (k, j) :: fs => .string k :: .colon :: (j.tokens ++ .comma :: fieldsTokens fs)

end

/-! ## Scanning -/

namespace Token

variable {read : List Token} {cs ds rest : List Char} {ts us : List Token} {t : Token} {c : Char}

/-- One token is cut off. -/
theorem scanOnto_next (hb : isBlank c = Bool.false) (h : next? (c :: cs) = some (t, rest)) :
    scanOnto read (c :: cs) = scanOnto (t :: read) rest := by
  rw [scanOnto]
  simp only [hb, Bool.false_eq_true, if_false]
  split
  · next h' =>
    obtain ⟨rfl, rfl⟩ := Prod.mk.inj (Option.some.inj (h.symm.trans h'))
    rfl
  · next h' => exact absurd (h.symm.trans h') (Option.some_ne_none _)

/-- The characters are cut into the tokens, whatever was read before and whatever follows that
cannot go on a number. -/
def Scans (cs : List Char) (ts : List Token) : Prop :=
  ∀ (read : List Token) (rest : List Char), Stops rest →
    scanOnto read (cs ++ rest) = scanOnto (ts.reverse ++ read) rest

theorem Scans.append (h : Scans cs ts) (h' : Scans ds us) (hs : ∀ rest, Stops (ds ++ rest)) :
    Scans (cs ++ ds) (ts ++ us) := fun read rest hr => by
  rw [List.append_assoc, h _ _ (hs rest), h' _ _ hr, List.reverse_append, List.append_assoc]

/-- A character that is a token by itself. -/
theorem Scans.cons (hb : isBlank c = Bool.false) (hn : ∀ cs, next? (c :: cs) = some (t, cs))
    (h : Scans cs ts) : Scans (c :: cs) (t :: ts) := fun read rest hr => by
  rw [List.cons_append, scanOnto_next hb (hn _), h _ _ hr, List.reverse_cons, List.append_assoc,
    List.singleton_append]

theorem scans_nil : Scans [] [] := fun _ _ _ => rfl

theorem stops_cons (hc : c.isDigit = Bool.false ∧ c ≠ '.' ∧ c ≠ 'e' ∧ c ≠ 'E') :
    Stops (c :: cs) := by
  rintro d ⟨⟩
  exact hc

theorem next?_number (h : c = '-' ∨ c.isDigit = Bool.true) :
    next? (c :: cs) = (Decimal.Literal.read? (c :: cs)).map fun (l, rest) => (.number l, rest) := by
  unfold next?
  split
  case h_11 => rfl
  all_goals
    next e =>
    obtain ⟨rfl, -⟩ := List.cons.inj e
    exact absurd h (by decide)

/-- Characters that are a token, whatever follows that cannot go on a number. -/
theorem scans_of_next? (hb : isBlank c = Bool.false)
    (h : ∀ rest, Stops rest → next? (c :: (cs ++ rest)) = some (t, rest)) :
    Scans (c :: cs) [t] := fun _ rest hr => scanOnto_next hb (h rest hr)

theorem scans_number {l : Decimal.Literal} (h : l.Valid) : Scans l.chars [.number l] := by
  obtain ⟨c, cs, e, start⟩ := Decimal.Literal.head_chars h
  rw [e]
  refine scans_of_next? ?_ fun rest hr => ?_
  · rcases start with rfl | digit
    · rfl
    · simp only [isBlank, Bool.or_eq_false_iff, beq_eq_false_iff_ne]
      exact ⟨⟨⟨Decimal.Literal.ne_of_isDigit digit rfl, Decimal.Literal.ne_of_isDigit digit rfl⟩,
        Decimal.Literal.ne_of_isDigit digit rfl⟩, Decimal.Literal.ne_of_isDigit digit rfl⟩
  · have read := Decimal.Literal.read?_chars_append h hr
    rw [e, List.cons_append] at read
    rw [next?_number start, read, Option.map_some]

theorem scans_string (s : Option String) : Scans (stringChars s) [.string s] := by
  cases s with
  | none =>
    have code : Quoted.code? 'd' '8' '0' '0' = some 0xD800 := by decide
    have written : stringChars none = ['"', '\\', 'u', 'd', '8', '0', '0', '"'] := rfl
    rw [written]
    refine scans_of_next? rfl fun rest _ => ?_
    have half : Quoted.decode [] [.code 0xD800] = none := by decide
    simp only [List.cons_append, List.nil_append, next?, string?]
    rw [Quoted.items?, code]
    simp only [Quoted.items?, List.reverse_singleton, Option.map_some, half, Option.map_none]
  | some s =>
    refine scans_of_next? rfl fun rest _ => ?_
    rw [List.append_assoc]
    exact string?_encode_append s rest

end Token

open Token

variable {j : Json} {items : List Json} {fields : List (Option String × Json)}

theorem scans_items (h : ∀ j ∈ items, Scans j.chars j.tokens) :
    Scans (itemsChars items) (itemsTokens items) := by
  induction items with
  | nil => exact scans_nil.cons rfl fun _ => rfl
  | cons j js ih =>
    have first := h j List.mem_cons_self
    have others := ih fun j hj => h j (List.mem_cons_of_mem _ hj)
    cases js with
    | nil => exact first.append others fun _ => stops_cons (by decide)
    | cons => exact first.append (others.cons rfl fun _ => rfl) fun _ => stops_cons (by decide)

theorem scans_fields (h : ∀ f ∈ fields, Scans f.2.chars f.2.tokens) :
    Scans (fieldsChars fields) (fieldsTokens fields) := by
  induction fields with
  | nil => exact scans_nil.cons rfl fun _ => rfl
  | cons f fs ih =>
    obtain ⟨k, j⟩ := f
    have first := h (k, j) List.mem_cons_self
    have others := ih fun f hf => h f (List.mem_cons_of_mem _ hf)
    have field {cs ts} (after : Scans cs ts) (hs : ∀ rest, Stops (cs ++ rest)) :
        Scans (stringChars k ++ ':' :: (j.chars ++ cs)) (.string k :: .colon :: (j.tokens ++ ts)) :=
      (scans_string k).append ((first.append after hs).cons rfl fun _ => rfl)
        fun _ => stops_cons (by decide)
    cases fs with
    | nil => exact field others fun _ => stops_cons (by decide)
    | cons => exact field (others.cons rfl fun _ => rfl) fun _ => stops_cons (by decide)

/-- **The characters of a value are cut into its tokens.** -/
theorem Valid.scans (h : j.Valid) : Scans j.chars j.tokens := by
  induction h with
  | null => exact scans_of_next? rfl fun _ _ => rfl
  | bool b => cases b <;> exact scans_of_next? rfl fun _ _ => rfl
  | number h => exact scans_number h
  | string s => exact scans_string s
  | array _ ih => exact (scans_items ih).cons rfl fun _ => rfl
  | object _ ih => exact (scans_fields ih).cons rfl fun _ => rfl

/-! ## Reading -/

namespace Reader

variable {opened : List Open} {ts us : List Token}

/-- Over the tokens a reader gets from where a value may stand to having read the value. -/
def Reads (ts : List Token) (j : Json) : Prop :=
  ∀ opened : List Open, ts.foldlM step ⟨opened, .value⟩ = some ⟨opened, .done j⟩

theorem Reads.foldlM_append (h : Reads ts j) (opened : List Open) (us : List Token) :
    (ts ++ us).foldlM step ⟨opened, .value⟩ = us.foldlM step ⟨opened, .done j⟩ := by
  rw [List.foldlM_append, h]
  rfl

/-- A value that is read where a value may stand is read as the first item of an array. -/
theorem Reads.foldlM_bracket (h : Reads ts j) (opened : List Open) (us : List Token) :
    (ts ++ us).foldlM step ⟨opened, .bracket⟩
      = (ts ++ us).foldlM step ⟨.array [] :: opened, .value⟩ := by
  cases ts with
  | nil => exact absurd (h []) (by simp)
  | cons t ts => cases t with
    | endArray => exact absurd (h []) (by simp [step, begin?])
    | _ => rfl

theorem reads_items {read : List Json} (h : ∀ j ∈ items, Reads j.tokens j)
    (hn : items ≠ []) :
    (itemsTokens items).foldlM step ⟨.array read :: opened, .value⟩
      = some ⟨opened, .done (.array (read.reverse ++ items))⟩ := by
  induction items generalizing read with
  | nil => exact absurd rfl hn
  | cons j js ih =>
    have first := h j List.mem_cons_self
    cases js with
    | nil =>
      rw [itemsTokens, first.foldlM_append]
      simp [step]
    | cons k ks =>
      rw [itemsTokens, first.foldlM_append]
      · have others := @ih (j :: read) (fun j hj => h j (List.mem_cons_of_mem _ hj))
          (List.cons_ne_nil k ks)
        rw [List.reverse_cons, List.append_assoc, List.singleton_append] at others
        exact others
      · exact List.cons_ne_nil k ks

theorem reads_fields {read : List (Option String × Json)} (h : ∀ f ∈ fields, Reads f.2.tokens f.2)
    (hn : fields ≠ []) :
    (fieldsTokens fields).foldlM step ⟨opened, .key read⟩
      = some ⟨opened, .done (.object (read.reverse ++ fields))⟩ := by
  induction fields generalizing read with
  | nil => exact absurd rfl hn
  | cons f fs ih =>
    obtain ⟨k, j⟩ := f
    have first := h (k, j) List.mem_cons_self
    have start (us : List Token) :
        (Token.string k :: .colon :: (j.tokens ++ us)).foldlM step ⟨opened, .key read⟩
          = us.foldlM step ⟨.object read k :: opened, .done j⟩ :=
      first.foldlM_append (.object read k :: opened) us
    cases fs with
    | nil =>
      rw [fieldsTokens, start]
      simp [step]
    | cons g gs =>
      rw [fieldsTokens, start]
      · have others := @ih ((k, j) :: read) (fun f hf => h f (List.mem_cons_of_mem _ hf))
          (List.cons_ne_nil g gs)
        rw [List.reverse_cons, List.append_assoc, List.singleton_append] at others
        exact others
      · exact List.cons_ne_nil g gs

/-- **A value is read from its tokens, wherever a value may stand.** -/
theorem reads_tokens (h : j.Valid) : Reads j.tokens j := by
  induction h with
  | null | number | string => exact fun _ => rfl
  | bool b => cases b <;> exact fun _ => rfl
  | @array items _ ih =>
    intro opened
    cases items with
    | nil => rfl
    | cons j js =>
      obtain ⟨us, e⟩ : ∃ us, itemsTokens (j :: js) = j.tokens ++ us := by
        cases js <;> exact ⟨_, rfl⟩
      have first := (ih j List.mem_cons_self).foldlM_bracket opened us
      rw [← e] at first
      exact first.trans (reads_items ih (List.cons_ne_nil j js))
  | @object fields _ ih =>
    intro opened
    cases fields with
    | nil => rfl
    | cons f fs =>
      have all : (fieldsTokens (f :: fs)).foldlM step ⟨opened, .key []⟩ = _ :=
        reads_fields ih (List.cons_ne_nil f fs)
      cases fs <;> exact all

end Reader

/-- **A value reads back from its compact text** if its numbers keep to the number syntax. -/
theorem parse_render_value (h : j.Valid) : parse j.render = some j := by
  have scanned := h.scans [] [] Decimal.stops_nil
  rw [List.append_nil, List.append_nil] at scanned
  rw [parse, render, String.toList_ofList, ofChars?, scan, scanned, scanOnto, List.reverse_reverse]
  rw [Option.bind_some, ofTokens?, Reader.reads_tokens h]
  rfl

end OpenScript.Json
