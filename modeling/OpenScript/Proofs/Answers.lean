import OpenScript.Proofs.Ends

/-!
# Proofs/Answers — sends that are answered by built-in methods

    send r name vs  ──dispatch──▸ ⟨name, native n⟩  ──one level deeper──▸  n.run r vs

A send is a call of the method that the receiver answers the name with.  If that method is not
written in the language (`State.nativeOf?`) the send ends as the method does, one level deeper
(`Eval.ends_send_native_iff`), or with a stack overflow if no level is left.
-/

namespace OpenScript

/-- What a method does, unless it is written in the language. -/
def Method.native? (m : Method) : Option Native :=
  match m.body with
  | .native n => some n
  | .user .. => none

/-- What a value does to answer a name, unless the method is written in the language. -/
def State.nativeOf? (s : State) (v : Value) (name : String) : Option Native :=
  (s.methodOf? v name).bind fun (_, m) => m.native?

theorem State.nativeOf?_eq_some_iff {s : State} {v : Value} {name : String} {n : Native} :
    s.nativeOf? v name = some n ↔ ∃ o m, s.methodOf? v name = some (o, ⟨m, .native n⟩) := by
  rw [nativeOf?, Option.bind_eq_some_iff]
  constructor
  · rintro ⟨⟨o, ⟨m, body⟩⟩, found, hn⟩
    cases body with
    | user => cases hn
    | native n' =>
      obtain rfl := Option.some.inj hn
      exact ⟨o, m, found⟩
  · rintro ⟨o, m, found⟩
    exact ⟨_, found, rfl⟩

namespace Eval

variable {α : Type} {s s' : State} {r : Value} {name : String} {vs : List Value} {caller : FrameId}

/-- **A send is a dispatch.** -/
theorem ends_send_iff {out : Outcome Value} :
    (send r name vs caller).Ends s out s' ↔ (dispatch r name vs caller).Ends s out s' := by
  have back (out : Outcome Value) : (out.map Flow.normal).map Flow.value = out := by
    cases out <;> rfl
  have performed (flow : Outcome Flow) : (ask (.send r name vs caller)).Ends s flow s' ↔
      ∃ out, (dispatch r name vs caller).Ends s out s' ∧ flow = out.map Flow.normal := by
    rw [ends_ask_iff_perform]
    exact ends_map_iff
  rw [send, ends_map_iff]
  simp only [performed]
  constructor
  · rintro ⟨_, ⟨out, h, rfl⟩, rfl⟩
    rw [back]
    exact h
  · exact fun h => ⟨_, ⟨out, h, rfl⟩, (back out).symm⟩

/-- A send that a built-in method answers is a call of that method. -/
theorem ends_send_iff_nested {n : Native} (h : s.nativeOf? r name = some n) {out : Outcome Value} :
    (send r name vs caller).Ends s out s' ↔ (nested (n.run r vs caller)).Ends s out s' := by
  obtain ⟨o, m, found⟩ := State.nativeOf?_eq_some_iff.1 h
  have called : dispatch r name vs caller s = nested (n.run r vs caller) s := by
    rw [dispatch, bind_of_done (read_of_eq found)]
    rfl
  rw [ends_send_iff, ends_congr called]

/-- **A send that a built-in method answers ends as that method does**, one level deeper. -/
theorem ends_send_native_iff {n : Native} (h : s.nativeOf? r name = some n)
    (hd : s.depth < s.limit) {out : Outcome Value} :
    (send r name vs caller).Ends s out s' ↔
      ∃ s₁, (n.run r vs caller).Ends { s with depth := s.depth + 1 } out s₁ ∧
        s' = { s₁ with depth := s₁.depth - 1 } := by
  rw [ends_send_iff_nested h, ends_nested_iff hd]

theorem ends_send_full_iff {n : Native} (h : s.nativeOf? r name = some n)
    (hd : s.limit ≤ s.depth) {out : Outcome Value} :
    (send r name vs caller).Ends s out s' ↔
      out = .error (.stackOverflow s.limit) ∧ s' = s := by
  rw [ends_send_iff_nested h, ends_nested_full_iff hd]

/-- A built-in method that asks for nothing answers at once. -/
theorem ends_send_of_done {n : Native} (h : s.nativeOf? r name = some n) (hd : s.depth < s.limit)
    {out r₀ : Outcome Value} {s₁ : State}
    (run : n.run r vs caller { s with depth := s.depth + 1 } = .done r₀ s₁) :
    (send r name vs caller).Ends s out s' ↔
      out = r₀ ∧ s' = { s₁ with depth := s₁.depth - 1 } := by
  have ended := (ends_send_native_iff h hd).2 ⟨s₁, (ends_of_done run).2 ⟨rfl, rfl⟩, rfl⟩
  exact ended.iff_eq

end Eval

end OpenScript
