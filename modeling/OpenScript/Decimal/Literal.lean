/-!
# Decimal/Literal — a number as it is written

A literal is a sign, whole digits, and perhaps a fraction and an exponent: the number syntax of
JSON.  `Literal.chars` writes it and `Literal.read?` reads the longest one a text starts with.
-/

namespace OpenScript.Decimal

/-- The sign in front of the digits of an exponent, if there is one. -/
inductive Sign where
  | none
  | plus
  | minus
  deriving DecidableEq, Repr, Inhabited

/-- The characters of a sign. -/
def Sign.chars : Sign → List Char
  | .none => []
  | .plus => ['+']
  | .minus => ['-']

/-- An exponent as it is written. -/
structure Exponent where
  sign : Sign
  digits : List Char
  deriving DecidableEq, Repr, Inhabited

/-- A number as it is written. -/
structure Literal where
  negative : Bool
  /-- The digits before the point. -/
  whole : List Char
  /-- The digits behind the point, if there is one. -/
  fraction : Option (List Char)
  /-- The exponent, if there is one. -/
  exponent : Option Exponent
  deriving DecidableEq, Repr, Inhabited

namespace Literal

/-- The literal of a natural number. -/
def ofNat (n : Nat) : Literal := ⟨false, Nat.toDigits 10 n, none, none⟩

/-- The literal of an integer. -/
def ofInt (n : Int) : Literal := ⟨n < 0, Nat.toDigits 10 n.natAbs, none, none⟩

/-- The characters of a literal. -/
def chars (l : Literal) : List Char :=
  (if l.negative then ['-'] else []) ++ l.whole
    ++ (match l.fraction with
      | none => []
      | some ds => '.' :: ds)
    ++ (match l.exponent with
      | none => []
      | some e => 'e' :: (e.sign.chars ++ e.digits))

/-- The text of a literal. -/
def text (l : Literal) : String := String.ofList l.chars

/-- A text cut behind the digits it starts with; at least one is needed. -/
def digits? (cs : List Char) : Option (List Char × List Char) :=
  match cs.takeWhile Char.isDigit with
  | [] => none
  | ds => some (ds, cs.dropWhile Char.isDigit)

/-- The whole digits a text starts with: `0`, or digits that do not start with `0`. -/
def whole? : List Char → Option (List Char × List Char)
  | '0' :: cs => some (['0'], cs)
  | cs => digits? cs

/-- The fraction a text starts with, if it starts with a point. -/
def fraction? : List Char → Option (Option (List Char) × List Char)
  | '.' :: cs => (digits? cs).map fun (ds, rest) => (some ds, rest)
  | cs => some (none, cs)

/-- The sign and digits behind the letter of an exponent. -/
def signedDigits? : List Char → Option (Exponent × List Char)
  | '-' :: cs => (digits? cs).map fun (ds, rest) => (⟨.minus, ds⟩, rest)
  | '+' :: cs => (digits? cs).map fun (ds, rest) => (⟨.plus, ds⟩, rest)
  | cs => (digits? cs).map fun (ds, rest) => (⟨.none, ds⟩, rest)

/-- The exponent a text starts with, if it starts with `e` or `E`. -/
def exponent? : List Char → Option (Option Exponent × List Char)
  | 'e' :: cs | 'E' :: cs => (signedDigits? cs).map fun (e, rest) => (some e, rest)
  | cs => some (none, cs)

/-- The literal without a sign that a text starts with. -/
def unsigned? (negative : Bool) (cs : List Char) : Option (Literal × List Char) := do
  let (whole, cs) ← whole? cs
  let (fraction, cs) ← fraction? cs
  let (exponent, cs) ← exponent? cs
  some (⟨negative, whole, fraction, exponent⟩, cs)

/-- The longest literal a text starts with, and what follows it. -/
def read? : List Char → Option (Literal × List Char)
  | '-' :: cs => unsigned? true cs
  | cs => unsigned? false cs

theorem length_digits? {cs ds rest : List Char} (h : digits? cs = some (ds, rest)) :
    rest.length < cs.length := by
  unfold digits? at h
  split at h
  · cases h
  · rename_i hne
    obtain ⟨-, rfl⟩ := Prod.mk.inj (Option.some.inj h)
    have hlen := congrArg List.length
      (List.takeWhile_append_dropWhile (p := Char.isDigit) (l := cs))
    rw [List.length_append] at hlen
    have : (cs.takeWhile Char.isDigit).length ≠ 0 := fun h0 => hne (List.length_eq_zero_iff.1 h0)
    omega

theorem length_whole? {cs ds rest : List Char} (h : whole? cs = some (ds, rest)) :
    rest.length < cs.length := by
  unfold whole? at h
  split at h
  · obtain ⟨-, rfl⟩ := Prod.mk.inj (Option.some.inj h)
    simp
  · exact length_digits? h

theorem length_fraction? {cs rest : List Char} {ds : Option (List Char)}
    (h : fraction? cs = some (ds, rest)) : rest.length ≤ cs.length := by
  unfold fraction? at h
  split at h
  · obtain ⟨⟨ds', rest'⟩, hd, he⟩ := Option.map_eq_some_iff.1 h
    obtain ⟨-, rfl⟩ := Prod.mk.inj he
    have := length_digits? hd
    simp only [List.length_cons]; omega
  · obtain ⟨-, rfl⟩ := Prod.mk.inj (Option.some.inj h)
    exact Nat.le_refl _

theorem length_signedDigits? {cs rest : List Char} {e : Exponent}
    (h : signedDigits? cs = some (e, rest)) : rest.length ≤ cs.length := by
  have key : ∀ {sign cs'}, (digits? cs').map (fun (ds, rest) => (Exponent.mk sign ds, rest))
      = some (e, rest) → rest.length < cs'.length := by
    intro sign cs' h
    obtain ⟨⟨ds', rest'⟩, hd, he⟩ := Option.map_eq_some_iff.1 h
    obtain ⟨-, rfl⟩ := Prod.mk.inj he
    exact length_digits? hd
  unfold signedDigits? at h
  split at h
  · exact Nat.le_succ_of_le (Nat.le_of_lt (key h))
  · exact Nat.le_succ_of_le (Nat.le_of_lt (key h))
  · exact Nat.le_of_lt (key h)

theorem length_exponent? {cs rest : List Char} {e : Option Exponent}
    (h : exponent? cs = some (e, rest)) : rest.length ≤ cs.length := by
  unfold exponent? at h
  split at h
  case h_3 =>
    obtain ⟨-, rfl⟩ := Prod.mk.inj (Option.some.inj h)
    exact Nat.le_refl _
  all_goals
    obtain ⟨⟨e', rest'⟩, hd, he⟩ := Option.map_eq_some_iff.1 h
    obtain ⟨-, rfl⟩ := Prod.mk.inj he
    have := length_signedDigits? hd
    simp only [List.length_cons]; omega

theorem length_unsigned? {negative : Bool} {cs rest : List Char} {l : Literal}
    (h : unsigned? negative cs = some (l, rest)) : rest.length < cs.length := by
  simp only [unsigned?, Option.bind_eq_bind, Option.bind_eq_some_iff, Prod.exists,
    Option.some.injEq, Prod.mk.injEq] at h
  obtain ⟨_, _, hw, _, _, hf, _, _, he, -, rfl⟩ := h
  have := length_whole? hw
  have := length_fraction? hf
  have := length_exponent? he
  omega

/-- A literal takes at least one character. -/
theorem length_read? {cs rest : List Char} {l : Literal} (h : read? cs = some (l, rest)) :
    rest.length < cs.length := by
  unfold read? at h
  split at h
  · have := length_unsigned? h
    simp only [List.length_cons]; omega
  · exact length_unsigned? h

end Literal

end OpenScript.Decimal
