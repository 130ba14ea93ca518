import Mathlib.Data.List.TakeWhile
import OpenScript.Segment

/-!
# Proofs/Markers — cutting a text into its longest markers

    Hi %x\%@y%@   ──cut──▸   Hi   |  %x  |  \%@y  |   %  |  @       pieces
                             "Hi " |   x  | "%@y"  |  "%" | "@"     segments

What a text starts with says which piece is to be cut off it (`Cut`), and there always is one
(`exists_cut`).  It is the longest that fits one of four patterns (`cut_iff_longest`), and pieces of
different patterns are never the same characters (`Pattern.ofPiece_eq`).  So a text has one list of
pieces, however it is cut from left to right (`Pieces.unique`), and the scanner has what they stand
for (`ofChars_pieces`).
-/

namespace OpenScript.Segment

variable {c : Char} {cs name more rest rest' : List Char}

/-! ## Runs -/

section Runs

variable {p : Char → Bool}

/-- The characters behind a run of characters of a kind start with none of them. -/
theorem head?_dropWhile (p : Char → Bool) (cs : List Char) :
    ∀ c ∈ (cs.dropWhile p).head?, p c = false := by
  intro c hc
  have stops := List.head?_dropWhile_not p cs
  rw [hc] at stops
  simpa using stops

theorem takeWhile_of_head? (h : ∀ c ∈ cs.head?, p c = false) : cs.takeWhile p = [] := by
  cases cs with
  | nil => rfl
  | cons c cs => exact List.takeWhile_cons_of_neg (by rw [h c rfl]; exact Bool.false_ne_true)

theorem dropWhile_of_head? (h : ∀ c ∈ cs.head?, p c = false) : cs.dropWhile p = cs := by
  cases cs with
  | nil => rfl
  | cons c cs => exact List.dropWhile_cons_of_neg (by rw [h c rfl]; exact Bool.false_ne_true)

end Runs

/-! ## Names -/

/-- The sigils that the name in a marker may have, none included. -/
def sigils : List (List Char) := [[], ['@'], ['@', '@'], ['$']]

/-- A name as it stands in a marker: a sigil and word characters, at least one. -/
def IsName (name : List Char) : Prop :=
  ∃ sigil ∈ sigils, ∃ word, word ≠ [] ∧ (∀ c ∈ word, isWord c = true) ∧ name = sigil ++ word

/-- A text that starts with a name. -/
def BeginsName (cs : List Char) : Prop := ∃ name rest, IsName name ∧ cs = name ++ rest

/-- A text that no word before it goes on in. -/
def EndsWord (rest : List Char) : Prop := ∀ c ∈ rest.head?, isWord c = false

theorem IsName.ne_nil (h : IsName name) : name ≠ [] := by
  obtain ⟨sigil, -, word, ne, -, rfl⟩ := h
  exact List.append_ne_nil_of_right_ne_nil sigil ne

theorem isPlain_of_isWord (h : isWord c = true) : isPlain c = true := by
  rw [isPlain, Bool.and_eq_true, bne_iff_ne, bne_iff_ne]
  constructor <;> rintro rfl <;> exact absurd h (by decide)

theorem IsName.isPlain (h : IsName name) : ∀ c ∈ name, isPlain c = true := by
  obtain ⟨sigil, hs, word, -, hw, rfl⟩ := h
  have plain : sigils.all (List.all · Segment.isPlain) = true := by decide
  intro c hc
  rcases List.mem_append.1 hc with hc | hc
  · exact List.all_eq_true.1 (List.all_eq_true.1 plain sigil hs) c hc
  · exact isPlain_of_isWord (hw c hc)

theorem splitSigil_append {sigil : List Char} (hs : sigil ∈ sigils) (hc : isWord c = true)
    (cs : List Char) : splitSigil (sigil ++ c :: cs) = (sigil, c :: cs) := by
  have at_ne : c ≠ '@' := by rintro rfl; exact absurd hc (by decide)
  have dollar_ne : c ≠ '$' := by rintro rfl; exact absurd hc (by decide)
  simp only [sigils, List.mem_cons, List.not_mem_nil, or_false] at hs
  rcases hs with rfl | rfl | rfl | rfl
  · unfold splitSigil
    split <;> simp_all
  · unfold splitSigil
    split <;> simp_all
  · rfl
  · rfl

theorem splitSigil_eq {sigil : List Char} (h : splitSigil cs = (sigil, rest)) :
    sigil ∈ sigils ∧ cs = sigil ++ rest := by
  unfold splitSigil at h
  split at h <;> cases h <;> exact ⟨by decide, rfl⟩

/-- **The longest name is split off.** -/
theorem splitName?_append (h : IsName name) (rest : List Char) :
    splitName? (name ++ rest) = some (name ++ rest.takeWhile isWord, rest.dropWhile isWord) := by
  obtain ⟨sigil, hs, word, ne, hw, rfl⟩ := h
  obtain ⟨c, cs, rfl⟩ := List.exists_cons_of_ne_nil ne
  have split : splitSigil (sigil ++ (c :: cs) ++ rest) = (sigil, (c :: cs) ++ rest) := by
    rw [List.append_assoc]
    exact splitSigil_append hs (hw c List.mem_cons_self) (cs ++ rest)
  rw [splitName?, split]
  dsimp only
  rw [List.takeWhile_append_of_pos hw, List.dropWhile_append_of_pos hw]
  dsimp only [List.cons_append]
  rw [List.append_assoc, List.cons_append]

/-- **What is split off is a name**, and the word in it does not go on. -/
theorem splitName?_eq_some (h : splitName? cs = some (name, rest)) :
    IsName name ∧ EndsWord rest ∧ cs = name ++ rest := by
  cases hs : splitSigil cs with
  | mk sigil more =>
    obtain ⟨mem, rfl⟩ := splitSigil_eq hs
    rw [splitName?, hs] at h
    dsimp only at h
    split at h
    · cases h
    · next word hw =>
      obtain ⟨rfl, rfl⟩ := Prod.mk.inj (Option.some.inj h)
      refine ⟨⟨sigil, mem, _, hw, ?_, rfl⟩, head?_dropWhile isWord more, ?_⟩
      · exact fun c hc => List.mem_takeWhile_imp hc
      · rw [List.append_assoc, List.takeWhile_append_dropWhile]

theorem splitName?_of_endsWord (h : IsName name) (hr : EndsWord rest) :
    splitName? (name ++ rest) = some (name, rest) := by
  rw [splitName?_append h, takeWhile_of_head? hr, dropWhile_of_head? hr, List.append_nil]

theorem splitName?_eq_none_iff : splitName? cs = none ↔ ¬BeginsName cs := by
  constructor
  · rintro h ⟨name, rest, hn, rfl⟩
    cases h.symm.trans (splitName?_append hn rest)
  · intro h
    cases hs : splitName? cs with
    | none => rfl
    | some p =>
      obtain ⟨hn, -, e⟩ := splitName?_eq_some hs
      exact absurd ⟨_, _, hn, e⟩ h

/-- A name before which there is no longer one is not outdone. -/
theorem length_le_of_isName (h : IsName name) (hr : EndsWord rest) (hm : IsName more)
    (e : more ++ rest' = name ++ rest) : more.length ≤ name.length := by
  have longest := splitName?_of_endsWord h hr
  rw [← e, splitName?_append hm] at longest
  have taken := (Prod.mk.inj (Option.some.inj longest)).1
  rw [← taken, List.length_append]
  exact Nat.le_add_right _ _

/-! ## Patterns -/

/-- The kinds of pieces that a text is cut into. -/
inductive Pattern where
  /-- A marker behind a backslash. -/
  | escaped
  | reference
  /-- Characters that can neither start a marker nor escape one. -/
  | plain
  /-- A `%` or a backslash. -/
  | stray
  deriving DecidableEq, Repr

/-- The pieces of a kind, wherever they stand. -/
def Pattern.Fits : Pattern → List Char → Prop
  | .escaped, cs => ∃ name, IsName name ∧ cs = '\\' :: '%' :: name
  | .reference, cs => ∃ name, IsName name ∧ cs = '%' :: name
  | .plain, cs => cs ≠ [] ∧ ∀ c ∈ cs, isPlain c = true
  | .stray, cs => cs = ['%'] ∨ cs = ['\\']

namespace Pattern

variable {p q : Pattern}

/-- The kind that a piece can only be of. -/
def ofPiece : List Char → Pattern
  | ['%'] | ['\\'] => .stray
  | '%' :: _ => .reference
  | '\\' :: _ => .escaped
  | _ => .plain

theorem ofPiece_eq (h : p.Fits cs) : ofPiece cs = p := by
  cases p with
  | escaped =>
    obtain ⟨name, -, rfl⟩ := h
    rfl
  | reference =>
    obtain ⟨name, hn, rfl⟩ := h
    obtain ⟨c, cs, rfl⟩ := List.exists_cons_of_ne_nil hn.ne_nil
    rfl
  | plain =>
    obtain ⟨ne, h⟩ := h
    unfold ofPiece
    split
    · exact absurd (h _ List.mem_cons_self) (by decide)
    · exact absurd (h _ List.mem_cons_self) (by decide)
    · exact absurd (h _ List.mem_cons_self) (by decide)
    · exact absurd (h _ List.mem_cons_self) (by decide)
    · rfl
  | stray => rcases h with rfl | rfl <;> rfl

theorem Fits.ne_nil (h : p.Fits cs) : cs ≠ [] := by
  cases p with
  | escaped | reference =>
    obtain ⟨name, -, rfl⟩ := h
    exact List.cons_ne_nil _ _
  | plain => exact h.1
  | stray => rcases h with rfl | rfl <;> exact List.cons_ne_nil _ _

/-! ### What a piece starts with -/

/-- A piece that a text with a `%` in front starts with is that `%` or a reference. -/
theorem Fits.of_percent (h : p.Fits more) (e : more ++ rest' = '%' :: cs) :
    more = ['%'] ∨ ∃ name, IsName name ∧ more = '%' :: name := by
  cases p with
  | escaped =>
    obtain ⟨name, -, rfl⟩ := h
    cases e
  | reference => exact .inr h
  | plain =>
    obtain ⟨c, more, rfl⟩ := List.exists_cons_of_ne_nil h.1
    obtain ⟨rfl, -⟩ := List.cons.inj e
    exact absurd (h.2 _ List.mem_cons_self) (by decide)
  | stray =>
    rcases h with rfl | rfl
    · exact .inl rfl
    · cases e

theorem Fits.of_backslash (h : p.Fits more) (e : more ++ rest' = '\\' :: cs) :
    more = ['\\'] ∨ ∃ name, IsName name ∧ more = '\\' :: '%' :: name := by
  cases p with
  | escaped => exact .inr h
  | reference =>
    obtain ⟨name, -, rfl⟩ := h
    cases e
  | plain =>
    obtain ⟨c, more, rfl⟩ := List.exists_cons_of_ne_nil h.1
    obtain ⟨rfl, -⟩ := List.cons.inj e
    exact absurd (h.2 _ List.mem_cons_self) (by decide)
  | stray =>
    rcases h with rfl | rfl
    · cases e
    · exact .inl rfl

theorem Fits.of_isPlain (h : p.Fits more) (hc : isPlain c = true) (e : more ++ rest' = c :: cs) :
    ∀ d ∈ more, isPlain d = true := by
  have other {d : Char} {ds : List Char} (hd : isPlain d = false) (e : d :: ds = c :: cs) : False :=
    Bool.false_ne_true (hd.symm.trans ((List.cons.inj e).1 ▸ hc))
  cases p with
  | escaped | reference =>
    obtain ⟨name, -, rfl⟩ := h
    exact (other (by decide) e).elim
  | plain => exact h.2
  | stray => rcases h with rfl | rfl <;> exact (other (by decide) e).elim

end Pattern

/-! ## Pieces -/

/-- A piece that was cut off a text, with its kind; an error has none. -/
structure Piece where
  pattern : Option Pattern
  chars : List Char

/-- What a piece stands for: a reference loses its `%`, what is escaped its backslash. -/
def Piece.segment : Piece → Segment
  | ⟨some .reference, cs⟩ => .reference (String.ofList cs.tail)
  | ⟨some .escaped, cs⟩ => .literal (String.ofList cs.tail)
  | ⟨_, cs⟩ => .literal (String.ofList cs)

/-- The piece that is cut off in front of `rest`, by what the text starts with. -/
inductive Cut : Piece → List Char → Prop where
  /-- A `%` and a name, as much of it as there is. -/
  | reference {name rest : List Char} (h : IsName name) (stop : EndsWord rest) :
    Cut ⟨some .reference, '%' :: name⟩ rest
  /-- A backslash and what would be a reference without it. -/
  | escaped {name rest : List Char} (h : IsName name) (stop : EndsWord rest) :
    Cut ⟨some .escaped, '\\' :: '%' :: name⟩ rest
  /-- The characters before the next `%` or backslash. -/
  | plain {run rest : List Char} (ne : run ≠ []) (h : ∀ c ∈ run, isPlain c = true)
    (stop : ∀ c ∈ rest.head?, isPlain c = false) : Cut ⟨some .plain, run⟩ rest
  /-- Any other `%`. -/
  | percent {rest : List Char} (bare : ¬BeginsName rest) : Cut ⟨some .stray, ['%']⟩ rest
  /-- Any other backslash. -/
  | backslash {rest : List Char} (bare : ∀ more, rest = '%' :: more → ¬BeginsName more) :
    Cut ⟨some .stray, ['\\']⟩ rest

/-- The piece that a scanner cuts off in front of `rest` which always takes the longest piece that
fits a pattern; where none does, it cuts off something as an error. -/
inductive Longest : Piece → List Char → Prop where
  | fits {p : Pattern} {cs rest : List Char} (h : p.Fits cs)
    (longest : ∀ (q : Pattern) (more rest' : List Char), q.Fits more → more ++ rest' = cs ++ rest →
      more.length ≤ cs.length) : Longest ⟨some p, cs⟩ rest
  | error {cs rest : List Char} (ne : cs ≠ [])
    (noFit : ∀ (q : Pattern) (more rest' : List Char), q.Fits more → more ++ rest' ≠ cs ++ rest) :
    Longest ⟨none, cs⟩ rest

theorem Cut.longest {p : Piece} (h : Cut p rest) : Longest p rest := by
  cases h with
  | @reference name _ h stop =>
    refine .fits ⟨_, h, rfl⟩ fun q more rest' hq e => ?_
    rcases hq.of_percent e with rfl | ⟨name', h', rfl⟩
    · exact Nat.succ_le_succ (Nat.zero_le _)
    · exact Nat.succ_le_succ (length_le_of_isName h stop h' (List.cons.inj e).2)
  | @escaped name _ h stop =>
    refine .fits ⟨_, h, rfl⟩ fun q more rest' hq e => ?_
    rcases hq.of_backslash e with rfl | ⟨name', h', rfl⟩
    · exact Nat.succ_le_succ (Nat.zero_le _)
    · have tails := (List.cons.inj (List.cons.inj e).2).2
      exact Nat.succ_le_succ (Nat.succ_le_succ (length_le_of_isName h stop h' tails))
  | @plain run _ ne h stop =>
    refine .fits ⟨ne, h⟩ fun q more rest' hq e => ?_
    obtain ⟨c, run, rfl⟩ := List.exists_cons_of_ne_nil ne
    have plain := hq.of_isPlain (h c List.mem_cons_self) e
    rcases List.append_eq_append_iff.1 e with ⟨as, longer, -⟩ | ⟨as, rfl, rfl⟩
    · rw [longer, List.length_append]
      exact Nat.le_add_right _ _
    · cases as with
      | nil => rw [List.append_nil]
      | cons d as =>
        have goesOn := plain d (List.mem_append_right _ List.mem_cons_self)
        exact absurd ((stop d rfl).symm.trans goesOn) Bool.false_ne_true
  | percent bare =>
    refine .fits (.inl rfl) fun q more rest' hq e => ?_
    rcases hq.of_percent e with rfl | ⟨name, h, rfl⟩
    · exact Nat.le_refl _
    · exact absurd ⟨name, rest', h, (List.cons.inj e).2.symm⟩ bare
  | backslash bare =>
    refine .fits (.inr rfl) fun q more rest' hq e => ?_
    rcases hq.of_backslash e with rfl | ⟨name, h, rfl⟩
    · exact Nat.le_refl _
    · exact absurd ⟨name, rest', h, rfl⟩ (bare _ (List.cons.inj e).2.symm)

theorem Longest.ne_nil {p : Piece} (h : Longest p rest) : p.chars ≠ [] := by
  cases h with
  | fits fits => exact fits.ne_nil
  | error ne => exact ne

/-- **What is cut off is the only longest piece.** -/
theorem Cut.unique {p q : Piece} (h : Cut p rest) (h' : Longest q rest')
    (e : q.chars ++ rest' = p.chars ++ rest) : q = p ∧ rest' = rest := by
  cases h.longest with
  | fits fits longest =>
    cases h' with
    | fits fits' longest' =>
      have length := Nat.le_antisymm (longest _ _ _ fits' e) (longest' _ _ _ fits e.symm)
      obtain ⟨rfl, rfl⟩ := List.append_inj e length
      rw [← Pattern.ofPiece_eq fits, ← Pattern.ofPiece_eq fits']
      exact ⟨rfl, rfl⟩
    | error _ noFit => exact absurd e.symm (noFit _ _ _ fits)
  | error => cases h

/-- **Something can be cut off every text.** -/
theorem exists_cut (ne : cs ≠ []) : ∃ p rest, Cut p rest ∧ p.chars ++ rest = cs := by
  obtain ⟨c, cs, rfl⟩ := List.exists_cons_of_ne_nil ne
  by_cases percent : c = '%'
  · subst percent
    cases hs : splitName? cs with
    | none => exact ⟨_, cs, .percent (splitName?_eq_none_iff.1 hs), rfl⟩
    | some q =>
      obtain ⟨hn, stop, rfl⟩ := splitName?_eq_some hs
      exact ⟨_, q.2, .reference hn stop, rfl⟩
  by_cases backslash : c = '\\'
  · subst backslash
    by_cases marker : ∃ more, cs = '%' :: more ∧ BeginsName more
    · obtain ⟨more, rfl, name, rest, hn, rfl⟩ := marker
      obtain ⟨hn', stop, e⟩ := splitName?_eq_some (splitName?_append hn rest)
      exact ⟨_, _, .escaped hn' stop, congrArg ('\\' :: '%' :: ·) e.symm⟩
    · exact ⟨_, cs, .backslash fun more e begins => marker ⟨more, e, begins⟩, rfl⟩
  have plain : isPlain c = true := by
    rw [isPlain, Bool.and_eq_true, bne_iff_ne, bne_iff_ne]
    exact ⟨percent, backslash⟩
  refine ⟨⟨some .plain, c :: cs.takeWhile isPlain⟩, cs.dropWhile isPlain, .plain ?_ ?_ ?_, ?_⟩
  · exact List.cons_ne_nil _ _
  · exact List.forall_mem_cons.2 ⟨plain, fun d hd => List.mem_takeWhile_imp hd⟩
  · exact head?_dropWhile isPlain cs
  · exact congrArg (c :: ·) List.takeWhile_append_dropWhile

/-- **To cut by what a text starts with is to take the longest piece.** -/
theorem cut_iff_longest {p : Piece} : Cut p rest ↔ Longest p rest := by
  refine ⟨Cut.longest, fun h => ?_⟩
  obtain ⟨q, rest', cut, e⟩ := exists_cut (List.append_ne_nil_of_left_ne_nil h.ne_nil rest)
  obtain ⟨rfl, rfl⟩ := cut.unique h e.symm
  exact cut

/-! ## Whole texts -/

/-- The pieces of a text that is cut up from left to right. -/
inductive Pieces (step : Piece → List Char → Prop) : List Char → List Piece → Prop where
  | nil : Pieces step [] []
  | cons {p : Piece} {rest : List Char} {ps : List Piece} (h : step p rest)
    (tail : Pieces step rest ps) : Pieces step (p.chars ++ rest) (p :: ps)

variable {ps qs : List Piece}

theorem exists_pieces (cs : List Char) : ∃ ps, Pieces Cut cs ps := by
  induction h : cs.length using Nat.strongRecOn generalizing cs with
  | _ n ih =>
    by_cases ne : cs = []
    · exact ⟨[], ne ▸ .nil⟩
    · obtain ⟨p, rest, cut, rfl⟩ := exists_cut ne
      have shorter : rest.length < n := by
        rw [← h, List.length_append]
        exact Nat.lt_add_of_pos_left (List.length_pos_iff.2 cut.longest.ne_nil)
      obtain ⟨ps, hp⟩ := ih _ shorter rest rfl
      exact ⟨p :: ps, .cons cut hp⟩

theorem Pieces.unique (h : Pieces Cut cs ps) (h' : Pieces Longest cs qs) : qs = ps := by
  induction h generalizing qs with
  | nil =>
    generalize e : ([] : List Char) = cs at h'
    cases h' with
    | nil => rfl
    | cons step => exact absurd (List.append_eq_nil_iff.1 e.symm).1 step.ne_nil
  | @cons p rest ps cut _ ih =>
    generalize e : p.chars ++ rest = cs at h'
    cases h' with
    | nil => exact absurd (List.append_eq_nil_iff.1 e).1 cut.longest.ne_nil
    | cons step tail =>
      obtain ⟨rfl, rfl⟩ := cut.unique step e.symm
      rw [ih tail]

theorem Pieces.exists_step {step : Piece → List Char → Prop} (h : Pieces step cs ps) {p : Piece}
    (hp : p ∈ ps) : ∃ rest, step p rest := by
  induction h with
  | nil => exact absurd hp List.not_mem_nil
  | @cons q rest ps hq _ ih =>
    rcases List.mem_cons.1 hp with rfl | hp
    · exact ⟨rest, hq⟩
    · exact ih hp

theorem Pieces.flatMap {step : Piece → List Char → Prop} (h : Pieces step cs ps) :
    ps.flatMap Piece.chars = cs := by
  induction h with
  | nil => rfl
  | cons _ _ ih => rw [List.flatMap_cons, ih]

/-! ## The scanner -/

theorem ofChars_reference (h : splitName? cs = some (name, rest)) :
    ofChars ('%' :: cs) = .reference (String.ofList name) :: ofChars rest := by
  rw [ofChars]
  split <;> simp_all

theorem ofChars_percent (h : splitName? cs = none) :
    ofChars ('%' :: cs) = .literal "%" :: ofChars cs := by
  rw [ofChars]
  split <;> simp_all

theorem ofChars_escaped (h : splitName? cs = some (name, rest)) :
    ofChars ('\\' :: '%' :: cs) = .literal (String.ofList ('%' :: name)) :: ofChars rest := by
  rw [ofChars]
  split <;> simp_all

theorem ofChars_backslash (h : ∀ more, cs = '%' :: more → splitName? more = none) :
    ofChars ('\\' :: cs) = .literal "\\" :: ofChars cs := by
  by_cases percent : ∃ more, cs = '%' :: more
  · obtain ⟨more, rfl⟩ := percent
    have none := h more rfl
    conv =>
      lhs
      rw [ofChars]
    split <;> simp_all
  · rw [ofChars]
    exact fun more e => percent ⟨more, e⟩

theorem ofChars_plain (hc : isPlain c = true) (cs : List Char) :
    ofChars (c :: cs)
      = .literal (String.ofList (c :: cs.takeWhile isPlain)) :: ofChars (cs.dropWhile isPlain) := by
  rw [isPlain, Bool.and_eq_true, bne_iff_ne, bne_iff_ne] at hc
  obtain ⟨percent, backslash⟩ := hc
  rw [ofChars]
  · exact percent
  · exact fun _ e => absurd e backslash
  · exact backslash

/-- **The scanner cuts off the piece that is to be cut off.** -/
theorem ofChars_cut {p : Piece} (h : Cut p rest) :
    ofChars (p.chars ++ rest) = p.segment :: ofChars rest := by
  cases h with
  | reference h stop => exact ofChars_reference (splitName?_of_endsWord h stop)
  | escaped h stop => exact ofChars_escaped (splitName?_of_endsWord h stop)
  | @plain run _ ne h stop =>
    obtain ⟨c, run, rfl⟩ := List.exists_cons_of_ne_nil ne
    obtain ⟨hc, hr⟩ := List.forall_mem_cons.1 h
    have taken : (run ++ rest).takeWhile isPlain = run := by
      rw [List.takeWhile_append_of_pos hr, takeWhile_of_head? stop, List.append_nil]
    have left : (run ++ rest).dropWhile isPlain = rest := by
      rw [List.dropWhile_append_of_pos hr, dropWhile_of_head? stop]
    refine (ofChars_plain hc (run ++ rest)).trans ?_
    rw [taken, left]
    rfl
  | percent bare => exact ofChars_percent (splitName?_eq_none_iff.2 bare)
  | backslash bare =>
    exact ofChars_backslash fun more e => splitName?_eq_none_iff.2 (bare more e)

theorem ofChars_pieces (h : Pieces Cut cs ps) : ofChars cs = ps.map Piece.segment := by
  induction h with
  | nil => exact ofChars_nil
  | cons cut _ ih => rw [ofChars_cut cut, ih, List.map_cons]

/-- **A text is scanned into its longest pieces.**  There is one way to cut it up from left to right
by what it starts with at each place: a `%` and the longest name behind it, a backslash and such a
marker, the characters before the next `%` or backslash, any other `%` or backslash alone.  It is
also the only way for a scanner that always takes the longest piece of any of the four patterns, so
that one comes to no error.  The pieces are not empty and are the text when put together, and their
segments are what the scanner has. -/
theorem scan_pieces (text : String) : ∃ ps : List Piece,
    (∀ qs, Pieces Cut text.toList qs ↔ qs = ps) ∧
    (∀ qs, Pieces Longest text.toList qs ↔ qs = ps) ∧
    scan text = ps.map Piece.segment ∧
    (∀ p ∈ ps, p.chars ≠ [] ∧ p.pattern ≠ none) ∧
    ps.flatMap Piece.chars = text.toList := by
  obtain ⟨ps, h⟩ := exists_pieces text.toList
  have same : Cut = Longest := funext₂ fun p rest => propext cut_iff_longest
  have only (qs : List Piece) : Pieces Longest text.toList qs ↔ qs = ps :=
    ⟨h.unique, fun e => e ▸ same ▸ h⟩
  refine ⟨ps, same ▸ only, only, ofChars_pieces h, fun p hp => ?_, h.flatMap⟩
  obtain ⟨rest, cut⟩ := h.exists_step hp
  refine ⟨cut.longest.ne_nil, ?_⟩
  cases cut <;> exact Option.some_ne_none _

end OpenScript.Segment
