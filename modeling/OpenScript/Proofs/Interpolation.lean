import OpenScript.Proofs.Ends
import OpenScript.Proofs.Markers

/-!
# Proofs/Interpolation — what becomes of the markers in a text

    "a%x%y"   scanned    "a"      %x             %y
              in           s       s ──────▸ s₁ ────▸ s₂
              becomes     a   ++   t    ++    u

A text becomes what its segments become from left to right, each where those before it have led to
(`Eval.Splices`); what a reference becomes is put in as it is.  A text without `%` is not scanned,
but it would be scanned into literals that are the text (`Segment.spell_scan`), so nothing is lost
(`Eval.interpolate_eq`).
-/

namespace OpenScript

namespace Segment

variable {segments : List Segment} {cs run : List Char}

/-! ## Texts without references -/

/-- Segments that are all literals and are a text when put together. -/
def Spell (segments : List Segment) (text : String) : Prop :=
  ∃ ts : List String, segments = ts.map .literal ∧ String.join ts = text

theorem spell_nil : Spell [] "" := ⟨[], rfl, rfl⟩

theorem Spell.cons (h : Spell segments (String.ofList cs)) (run : List Char) :
    Spell (.literal (String.ofList run) :: segments) (String.ofList (run ++ cs)) := by
  obtain ⟨ts, rfl, joined⟩ := h
  refine ⟨String.ofList run :: ts, rfl, ?_⟩
  rw [String.join_cons, joined, String.ofList_append]

/-- A piece without a `%` is a literal of its characters. -/
theorem Cut.segment_eq {p : Piece} {rest : List Char} (h : Cut p rest) (hp : '%' ∉ p.chars) :
    p.segment = .literal (String.ofList p.chars) := by
  cases h with
  | reference | percent => exact absurd List.mem_cons_self hp
  | escaped => exact absurd (List.mem_cons_of_mem _ List.mem_cons_self) hp
  | plain | backslash => rfl

/-- **A text without a `%` is scanned into literals**, whatever backslashes there are. -/
theorem spell_ofChars (h : '%' ∉ cs) : Spell (ofChars cs) (String.ofList cs) := by
  obtain ⟨ps, pieces⟩ := exists_pieces cs
  induction pieces with
  | nil => rw [ofChars_nil]; exact spell_nil
  | @cons p rest ps cut _ ih =>
    obtain ⟨hp, hr⟩ := not_or.1 (mt List.mem_append.2 h)
    rw [ofChars_cut cut, cut.segment_eq hp]
    exact (ih hr).cons p.chars

theorem hasMarker_eq_false_iff {text : String} : hasMarker text = false ↔ '%' ∉ text.toList := by
  rw [hasMarker, ← Bool.not_eq_true, List.contains_iff_mem]

theorem spell_scan {text : String} (h : '%' ∉ text.toList) : Spell (scan text) text := by
  have spelled := spell_ofChars h
  rwa [String.ofList_toList] at spelled

end Segment

namespace Eval

open Segment (Spell scan)

variable {f : FrameId} {s s' s₁ : State} {v : Value} {text : String} {segments : List Segment}

/-! ## Values as text -/

/-- What comes of asking a value for its text in a state. -/
inductive Shows (v : Value) (s : State) : Outcome String → State → Prop where
  | text {shown : Value} {t : String} {s' : State}
    (h : (send v "to_string" [] Core.root).Ends s (.ok shown) s') (ht : s'.text? shown = some t) :
    Shows v s (.ok t) s'
  /-- The answer is no string. -/
  | noText {shown : Value} {s' : State}
    (h : (send v "to_string" [] Core.root).Ends s (.ok shown) s') (ht : s'.text? shown = none) :
    Shows v s (.error (.type "String from to_string" (s'.classNameOf shown))) s'
  | fails {e : RuntimeError} {s' : State}
    (h : (send v "to_string" [] Core.root).Ends s (.error e) s') : Shows v s (.error e) s'

theorem ends_stringify_iff {r : Outcome String} :
    (stringify v).Ends s r s' ↔ Shows v s r s' := by
  -- what is made of an answer depends on its text in the state that asking leaves
  rw [stringify, ends_bind_iff]
  constructor
  · rintro (⟨shown, s₁, h, rest⟩ | ⟨e, h, rfl⟩)
    · cases ht : s₁.text? shown with
      | some t =>
        rw [ends_congr (bind_of_done (read_of_eq ht))] at rest
        obtain ⟨rfl, rfl⟩ := (ends_of_done rfl).1 rest
        exact .text h ht
      | none =>
        rw [ends_congr (bind_of_done (read_of_eq ht))] at rest
        obtain ⟨rfl, rfl⟩ := (ends_of_done rfl).1 rest
        exact .noText h ht
    · exact .fails h
  · rintro (⟨h, ht⟩ | ⟨h, ht⟩ | h)
    · refine .inl ⟨_, s', h, ?_⟩
      rw [ends_congr (bind_of_done (read_of_eq ht))]
      exact (ends_of_done rfl).2 ⟨rfl, rfl⟩
    · refine .inl ⟨_, s', h, ?_⟩
      rw [ends_congr (bind_of_done (read_of_eq ht))]
      exact (ends_of_done rfl).2 ⟨rfl, rfl⟩
    · exact .inr ⟨_, h, rfl⟩

/-! ## Segments as text -/

/-- What comes of putting segments together in a state: a literal is itself, a reference is what its
name stands for by then, as text, and what is left over goes on from there. -/
inductive Splices (f : FrameId) : List Segment → State → Outcome String → State → Prop where
  | nil {s : State} : Splices f [] s (.ok "") s
  | literal {t : String} {rest : List Segment} {s s' : State} {r : Outcome String}
    (h : Splices f rest s r s') : Splices f (.literal t :: rest) s (r.map (t ++ ·)) s'
  | reference {name t : String} {rest : List Segment} {s s₁ s' : State} {r : Outcome String}
    (shown : Shows (s.get f name) s (.ok t) s₁) (h : Splices f rest s₁ r s') :
    Splices f (.reference name :: rest) s (r.map (t ++ ·)) s'
  | fails {name : String} {rest : List Segment} {s s' : State} {e : RuntimeError}
    (shown : Shows (s.get f name) s (.error e) s') :
    Splices f (.reference name :: rest) s (.error e) s'

theorem map_append_append (t u : String) (r : Outcome String) :
    r.map (t ++ u ++ ·) = (r.map (u ++ ·)).map (t ++ ·) := by
  cases r with
  | error e => rfl
  | ok x => exact congrArg Except.ok String.append_assoc

theorem ends_appendSegments_iff {r : Outcome String} :
    (appendSegments f text segments).Ends s r s' ↔
      ∃ r₀, Splices f segments s r₀ s' ∧ r = r₀.map (text ++ ·) := by
  induction segments generalizing text s r with
  | nil =>
    refine (ends_of_done rfl).trans ⟨?_, ?_⟩
    · rintro ⟨rfl, rfl⟩
      exact ⟨_, .nil, congrArg Except.ok String.append_empty.symm⟩
    · rintro ⟨_, ⟨⟩, rfl⟩
      exact ⟨congrArg Except.ok String.append_empty, rfl⟩
  | cons segment rest ih =>
    cases segment with
    | literal t =>
      refine ih.trans ⟨?_, ?_⟩
      · rintro ⟨r₀, h, rfl⟩
        exact ⟨_, .literal h, map_append_append text t r₀⟩
      · rintro ⟨_, h, rfl⟩
        cases h with
        | @literal _ _ _ _ r₀ h => exact ⟨r₀, h, (map_append_append text t r₀).symm⟩
    | reference name =>
      have asked : appendSegments f text (.reference name :: rest) s
          = (stringify (s.get f name) >>= fun t => appendSegments f (text ++ t) rest) s := rfl
      rw [ends_congr asked, ends_bind_iff]
      simp only [ends_stringify_iff, ih]
      constructor
      · rintro (⟨t, s₁, shown, r₀, h, rfl⟩ | ⟨e, shown, rfl⟩)
        · exact ⟨_, .reference shown h, map_append_append text t r₀⟩
        · exact ⟨_, .fails shown, rfl⟩
      · rintro ⟨_, h, rfl⟩
        cases h with
        | @reference _ t _ _ s₁ _ r₀ shown h =>
          exact .inl ⟨t, s₁, shown, r₀, h, (map_append_append text t r₀).symm⟩
        | @fails _ _ _ _ e shown => exact .inr ⟨e, shown, rfl⟩

/-! ## Texts -/

/-- Appends what a segment stands for to a text. -/
def splice (f : FrameId) (text : String) : Segment → Eval String
  | .literal t => return text ++ t
  | .reference name => do return text ++ (← stringify (← read (·.get f name)))

theorem appendSegments_eq_foldlM :
    appendSegments f text segments = segments.foldlM (splice f) text := by
  induction segments generalizing text with
  | nil => rfl
  | cons segment rest ih =>
    rw [List.foldlM_cons]
    cases segment with
    | literal t => exact ih
    | reference name =>
      simp only [appendSegments, splice, bind_assoc, ih]
      rfl

theorem appendSegments_literals (ts : List String) :
    appendSegments f text (ts.map .literal) = (return text ++ String.join ts) := by
  induction ts generalizing text with
  | nil => rw [String.join_nil, String.append_empty]; rfl
  | cons t ts ih => rw [String.join_cons, ← String.append_assoc]; exact ih

/-- **A text is what its segments are**, looked at for markers or not. -/
theorem interpolate_eq (f : FrameId) (text : String) :
    interpolate f text = appendSegments f "" (scan text) := by
  unfold interpolate
  split
  · rfl
  · next bare =>
    rw [Bool.not_eq_true, Segment.hasMarker_eq_false_iff] at bare
    obtain ⟨ts, literals, joined⟩ := Segment.spell_scan bare
    rw [literals, appendSegments_literals, joined, String.empty_append]

/-- **A text becomes what its segments become one after another**: to replace its markers is the
fold over what is scanned, also where a text without markers is not scanned at all, and that puts
together what the segments stand for, each read where those before it lead to and none scanned
again.  A text without `%` is scanned into literals that are the text. -/
theorem interpolate_splices (f : FrameId) (text : String) :
    interpolate f text = (scan text).foldlM (splice f) "" ∧
    (∀ s r s', (interpolate f text).Ends s r s' ↔ Splices f (scan text) s r s') ∧
    ('%' ∉ text.toList → Spell (scan text) text) := by
  refine ⟨(interpolate_eq f text).trans appendSegments_eq_foldlM, fun s r s' => ?_,
    Segment.spell_scan⟩
  have whole (r : Outcome String) : r.map ("" ++ ·) = r := by
    cases r with
    | error e => rfl
    | ok t => exact congrArg Except.ok String.empty_append
  simp only [interpolate_eq, ends_appendSegments_iff, whole]
  exact ⟨fun ⟨_, h, e⟩ => e ▸ h, fun h => ⟨r, h, rfl⟩⟩

/-- Backslashes alone escape nothing. -/
theorem interpolate_splices_backslashes : '%' ∉ "a\\\\b\\".toList ∧
    Spell (scan "a\\\\b\\") "a\\\\b\\" := by
  have bare : '%' ∉ "a\\\\b\\".toList := by decide
  exact ⟨bare, (interpolate_splices Core.root _).2.2 bare⟩

end Eval

end OpenScript
