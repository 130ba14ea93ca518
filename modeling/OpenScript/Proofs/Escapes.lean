import OpenScript.Proofs.Interpolation
import OpenScript.State.Lemmas

/-!
# Proofs/Escapes — texts that are written as literals

    text       %x       \%x       \\%x       100%       %%x
    escaped    \%x      \\%x      \\\%x      100%       %\%x
    scanned    "%x"     \ "%x"    \ \ "%x"   100 %      % "%x"

Every text is what some literal stands for: the one with a backslash before each `%` that would
start a reference (`Segment.escape`).  A backslash that stood there already is then a character of
its own, and no escape makes a new name, since no name goes on over a `%` or a backslash
(`Segment.not_beginsName_escapeChars`).  So an escaped text is scanned into literals that are the
text (`Segment.spell_escape`), and its evaluation asks for nothing.
-/

namespace OpenScript

namespace Segment

variable {cs name more run rest : List Char}

/-! ## Escaping -/

/-- Whether a text starts with a sigil or none, and a word character. -/
def beginsName (cs : List Char) : Bool :=
  sigils.any fun sigil => sigil.isPrefixOf cs && (cs.drop sigil.length).head?.any isWord

theorem beginsName_iff : beginsName cs = true ↔ BeginsName cs := by
  simp only [beginsName, List.any_eq_true, Bool.and_eq_true, List.isPrefixOf_iff_prefix,
    Option.any_eq_true]
  constructor
  · rintro ⟨sigil, hs, ⟨rest, rfl⟩, c, hc, word⟩
    rw [List.drop_left] at hc
    obtain ⟨more, rfl⟩ := List.head?_eq_some_iff.1 hc
    refine ⟨sigil ++ [c], more, ⟨sigil, hs, [c], List.cons_ne_nil _ _, ?_, rfl⟩, ?_⟩
    · exact List.forall_mem_singleton.2 word
    · rw [List.append_assoc, List.singleton_append]
  · rintro ⟨_, rest, ⟨sigil, hs, word, ne, hw, rfl⟩, rfl⟩
    obtain ⟨c, cs, rfl⟩ := List.exists_cons_of_ne_nil ne
    refine ⟨sigil, hs, ⟨(c :: cs) ++ rest, (List.append_assoc _ _ _).symm⟩, c, ?_,
      hw c List.mem_cons_self⟩
    rw [List.append_assoc, List.drop_left]
    rfl

/-- Characters with a backslash before each `%` that a name follows. -/
def escapeChars : List Char → List Char
  | [] => []
  | c :: cs =>
    if c = '%' ∧ beginsName cs = true then '\\' :: c :: escapeChars cs else c :: escapeChars cs

/-- A text with a backslash before each `%` that would start a reference. -/
def escape (text : String) : String := String.ofList (escapeChars text.toList)

/-! ## What an escaped text starts with -/

theorem escapeChars_cons_of_ne {c : Char} (hc : c ≠ '%') (cs : List Char) :
    escapeChars (c :: cs) = c :: escapeChars cs := if_neg fun h => hc h.1

theorem escapeChars_percent (h : ¬BeginsName cs) :
    escapeChars ('%' :: cs) = '%' :: escapeChars cs := if_neg fun hc => h (beginsName_iff.1 hc.2)

/-- What cannot start a marker stays as it is. -/
theorem escapeChars_append (h : ∀ c ∈ run, isPlain c = true) (rest : List Char) :
    escapeChars (run ++ rest) = run ++ escapeChars rest := by
  induction run with
  | nil => rfl
  | cons c run ih =>
    obtain ⟨hc, hr⟩ := List.forall_mem_cons.1 h
    have other : c ≠ '%' := by rintro rfl; exact absurd hc (by decide)
    rw [List.cons_append, escapeChars_cons_of_ne other, ih hr, List.cons_append]

/-- A reference is escaped, as it stands. -/
theorem escapeChars_reference (h : IsName name) (rest : List Char) :
    escapeChars ('%' :: (name ++ rest)) = '\\' :: '%' :: (name ++ escapeChars rest) := by
  have begins : beginsName (name ++ rest) = true := beginsName_iff.2 ⟨name, rest, h, rfl⟩
  rw [← escapeChars_append h.isPlain]
  exact if_pos ⟨rfl, begins⟩

/-- An escaped text starts as the text does, or else with a backslash. -/
theorem head?_escapeChars {p : Char → Bool} (hp : p '\\' = false)
    (h : ∀ c ∈ cs.head?, p c = false) : ∀ c ∈ (escapeChars cs).head?, p c = false := by
  cases cs with
  | nil => exact h
  | cons d cs =>
    rw [escapeChars]
    split
    · rintro _ ⟨⟩
      exact hp
    · rintro _ ⟨⟩
      exact h d rfl

/-- What an escaped text starts with the text starts with, up to a `%` or a backslash. -/
theorem exists_append_of_escapeChars (hr : ∀ c ∈ run, isPlain c = true)
    (e : escapeChars cs = run ++ more) : ∃ rest, cs = run ++ rest := by
  induction run generalizing cs with
  | nil => exact ⟨cs, rfl⟩
  | cons c run ih =>
    obtain ⟨hc, hr'⟩ := List.forall_mem_cons.1 hr
    cases cs with
    | nil => cases e
    | cons d cs =>
      rw [escapeChars] at e
      split at e
      · obtain ⟨rfl, -⟩ := List.cons.inj e
        exact absurd hc (by decide)
      · obtain ⟨rfl, tails⟩ := List.cons.inj e
        obtain ⟨rest, rfl⟩ := ih hr' tails
        exact ⟨rest, rfl⟩

/-- **Escaping makes no name**, a name being without `%` and backslashes. -/
theorem not_beginsName_escapeChars (h : ¬BeginsName cs) : ¬BeginsName (escapeChars cs) := by
  rintro ⟨name, more, hn, e⟩
  obtain ⟨rest, rfl⟩ := exists_append_of_escapeChars hn.isPlain e
  exact h ⟨name, rest, hn, rfl⟩

/-- **An escaped text starts with no reference.** -/
theorem not_beginsName_of_escapeChars (e : escapeChars cs = '%' :: more) : ¬BeginsName more := by
  cases cs with
  | nil => cases e
  | cons c cs =>
    rw [escapeChars] at e
    split at e
    · cases e
    · next h =>
      obtain ⟨rfl, rfl⟩ := List.cons.inj e
      exact not_beginsName_escapeChars fun begins => h ⟨rfl, beginsName_iff.2 begins⟩

/-! ## Scanning -/

/-- **An escaped text is scanned into literals that are the text.** -/
theorem spell_escapeChars (cs : List Char) :
    Spell (ofChars (escapeChars cs)) (String.ofList cs) := by
  obtain ⟨ps, pieces⟩ := exists_pieces cs
  induction pieces with
  | nil =>
    rw [escapeChars, ofChars_nil]
    exact spell_nil
  | @cons p rest ps cut _ ih =>
    -- a backslash before what is escaped is a piece of its own, whatever is behind it
    have stray {more : List Char} : Cut ⟨some .stray, ['\\']⟩ ('\\' :: more) :=
      .backslash fun _ e => absurd (List.cons.inj e).1 (by decide)
    cases cut with
    | @reference name _ h stop =>
      have stop' : EndsWord (escapeChars rest) := head?_escapeChars (by decide) stop
      have scanned := ofChars_cut (.escaped h stop')
      rw [List.cons_append, escapeChars_reference h]
      exact scanned ▸ ih.cons ('%' :: name)
    | @escaped name _ h stop =>
      have stop' : EndsWord (escapeChars rest) := head?_escapeChars (by decide) stop
      have scanned := (ofChars_cut stray).trans (congrArg _ (ofChars_cut (.escaped h stop')))
      rw [List.cons_append, escapeChars_cons_of_ne (by decide), List.cons_append,
        escapeChars_reference h]
      exact scanned ▸ (ih.cons ('%' :: name)).cons ['\\']
    | @plain run _ ne h stop =>
      have stop' : ∀ c ∈ (escapeChars rest).head?, isPlain c = false :=
        head?_escapeChars (by decide) stop
      rw [escapeChars_append h, ofChars_cut (.plain ne h stop')]
      exact ih.cons run
    | percent bare =>
      rw [List.singleton_append, escapeChars_percent bare]
      exact ofChars_cut (.percent (not_beginsName_escapeChars bare)) ▸ ih.cons ['%']
    | backslash =>
      rw [List.singleton_append, escapeChars_cons_of_ne (by decide)]
      exact ofChars_cut (.backslash fun _ => not_beginsName_of_escapeChars) ▸ ih.cons ['\\']

theorem spell_escape (text : String) : Spell (scan (escape text)) text := by
  have spelled := spell_escapeChars text.toList
  rwa [String.ofList_toList, ← String.toList_ofList (l := escapeChars text.toList)] at spelled

end Segment

namespace Eval

open Segment (Spell scan escape)

/-! ## Evaluating -/

/-- **To replace the markers in an escaped text is to have the text**, in every frame and state. -/
theorem interpolate_escape (f : FrameId) (text : String) :
    interpolate f (escape text) = (return text) := by
  obtain ⟨ts, literals, joined⟩ := Segment.spell_escape text
  rw [interpolate_eq, literals, appendSegments_literals, joined, String.empty_append]

theorem perform_text_escape (s : State) (f : FrameId) (text : String) :
    (Task.node (.text (escape text)) f).perform s
      = .done (.ok (.normal (s.box Core.string (.text text)).1))
          (s.box Core.string (.text text)).2 := by
  change normal (interpolate f (escape text) >>= string) s = _
  rw [interpolate_escape]
  rfl

/-- **Every text can be written as a literal.**  With a backslash before each `%` that would start a
reference it is scanned into literals that are the text, and to put them together is to have the
text without looking at frame or state, so no name is resolved.  The text node evaluates to a fresh
string of the text; that string is all that is new, and nothing else is evaluated. -/
theorem ends_text_escape (text : String) (f : FrameId) (s : State) :
    let n : Node := .text (escape text)
    let v : Value := .object s.objects.size
    let s₁ : State :=
      { s with objects := s.objects.push { cls := Core.string, payload := .text text } }
    Spell (scan (escape text)) text ∧
    interpolate f (escape text) = (return text) ∧
    (∀ r s', (node n f).Ends s r s' ↔ r = .ok (.normal v) ∧ s' = s₁) ∧
    s₁.text? v = some text ∧ s₁.classOf v = Core.string ∧
    ∀ t s', (node n f).Comes s t s' ↔ t = .node n f ∧ s' = s := by
  intro n v s₁
  have performed : (Task.node n f).perform s = .done (.ok (.normal v)) s₁ :=
    perform_text_escape s f text
  exact ⟨Segment.spell_escape text, interpolate_escape f text,
    fun r s' => ends_ask_iff_perform.trans (ends_of_done performed),
    s.text?_box Core.string text, congrArg Object.cls (s.objectAt_addObject_size _),
    fun t s' => comes_ask_iff_of_done performed⟩

end Eval

end OpenScript
