import OpenScript.Proofs.Discipline

/-!
# Proofs/Natives — what is not written in the language keeps to every discipline

    receiver, arguments, caller may be handled ──native──▸ so may the result

The built-in methods and the probes handle only what they are given, what they read and what they
make, so they keep to every discipline (`Discipline.yields_native`).
-/

namespace OpenScript.Discipline

variable {D : Discipline} {here : Task → Prop} {s : State} {α : Type}

/-! ## Checks -/

theorem runs_expect {method : String} {expected : Nat} {vs : List Value} (h : D.Fits s) :
    D.Runs here s (Eval.expect method expected vs) := by
  unfold Eval.expect
  split
  · exact keeps_pure h trivial
  · exact keeps_fail h

theorem yields_onlyArgument {method : String} {vs : List Value} (h : D.Fits s)
    (hv : ∀ v ∈ vs, D.has s (.value v)) : D.Yields here s (Eval.onlyArgument method vs) := by
  unfold Eval.onlyArgument
  split
  · exact keeps_pure h (hv _ List.mem_cons_self)
  · exact keeps_fail h

theorem keeps_theClass {v : Value} (h : D.Fits s) (hv : D.has s (.value v)) :
    D.Keeps here s (Eval.theClass v) fun c s' => D.has s' (.value (.cls c)) := by
  unfold Eval.theClass
  split
  · exact keeps_pure h hv
  · exact keeps_failType h

theorem runs_theText {v : Value} (h : D.Fits s) : D.Runs here s (Eval.theText v) := by
  refine keeps_read_bind ?_
  cases s.text? v with
  | some text => exact keeps_pure h trivial
  | none => exact keeps_failType h

theorem runs_theNumber {v : Value} (h : D.Fits s) : D.Runs here s (Eval.theNumber v) := by
  refine keeps_read_bind ?_
  cases Number.ofPayload? (s.payload v) with
  | some n => exact keeps_pure h trivial
  | none => exact keeps_failType h

/-! ## Results -/

theorem yields_bool {b : Bool} (h : D.Fits s) : D.Yields here s (pure (Core.bool b)) :=
  keeps_pure h (h.has (.inl (.bool b)))

theorem yields_nil (h : D.Fits s) : D.Yields here s (pure .nil) :=
  keeps_pure h (h.has State.known_nil)

theorem yields_read {f : State → Value} (h : D.Fits s) (hv : s.Known (.value (f s))) :
    D.Yields here s (Eval.read f) := keeps_read h (h.has hv)

theorem yields_number {n : Number} (h : D.Fits s) : D.Yields here s (Eval.number n) := by
  cases n with
  | int n => exact yields_integer h
  | float x => exact yields_box (p := .float x) h (fun _ hi => (hi : False).elim) nofun

/-- A check before an evaluation. -/
theorem Runs.then {x : Eval α} {y : α → Eval Value} (hx : D.Runs here s x)
    (hy : ∀ a s', D.Leads s s' → D.Yields here s' (y a)) : D.Yields here s (x >>= y) :=
  hx.bind fun a s' leads _ => hy a s' leads

/-! ## Text -/

theorem runs_print {text : String} (h : D.Fits s) : D.Runs here s (Eval.print text) :=
  keeps_modify h (.print text) fun _ => trivial

variable {receiver : Value} {vs : List Value} {caller : FrameId}

theorem yields_probe (h : D.Fits s) (hr : D.has s (.value receiver))
    (p : Probe) : D.Yields here s (p.run receiver vs caller) := by
  cases p with
  | peek name => exact yields_read h (State.known_get s caller name)
  | frameKind => exact keeps_read_bind (yields_string h)
  | callerSelf => exact keeps_read_bind (keeps_pure h (h.has (State.known_self s caller)))
  | receiver => exact keeps_pure h hr
  | argumentCount => exact yields_integer h
  | activeMethod =>
    refine keeps_read_bind ?_
    split
    · exact yields_string h
    · exact yields_nil h
  | pair =>
    dsimp only [Probe.run]
    split
    · exact keeps_read_bind (yields_bool h)
    · exact keeps_fail h
  | fail message => exact keeps_fail h

section Sends

variable (hh : ∀ v name vs c, here (.send v name vs c))
include hh

theorem runs_inspect {v : Value} (h : D.Fits s) (hv : D.has s (.value v)) :
    D.Runs here s (Eval.inspect v) := by
  refine keeps_state_bind ?_
  split
  · exact keeps_pure h trivial
  · exact keeps_pure h trivial
  · exact keeps_pure h trivial
  · exact runs_stringify hh h hv

theorem runs_printed {method : String} {receiver : Value} {vs : List Value} (h : D.Fits s)
    (hr : D.has s (.value receiver)) (hv : ∀ v ∈ vs, D.has s (.value v)) :
    D.Runs here s (Eval.printed method receiver vs) := by
  unfold Eval.printed
  split
  · exact runs_stringify hh h hr
  · exact runs_stringify hh h (hv _ List.mem_cons_self)
  · exact keeps_fail h

/-! ## Methods -/

theorem yields_builtin (h : D.Fits s) (hr : D.has s (.value receiver))
    (hv : ∀ v ∈ vs, D.has s (.value v)) (hc : D.has s (.frame caller)) (b : Builtin) :
    D.Yields here s (b.run receiver vs caller) := by
  cases b with
  | classNew =>
    refine (keeps_theClass h hr).bind fun c s₁ l₁ hcls => ?_
    refine (yields_instantiate l₁.fits hcls).bind fun v s₂ l₂ hv₂ => keeps_read_bind ?_
    have done {s₃} (l₃ : D.Leads s₂ s₃) : D.Yields here s₃ (pure v) :=
      keeps_pure l₃.fits (l₃.has hv₂)
    split
    · have sent := keeps_send l₂.fits hv₂ (fun w hw => l₂.has (l₁.has (hv w hw)))
        (l₂.has (l₁.has hc)) (hh v "init" vs caller)
      exact sent.bind fun _ s₃ l₃ _ => done l₃
    · exact (runs_expect l₂.fits).then fun _ s₃ l₃ => done l₃
  | className =>
    refine (runs_expect h).then fun _ s₁ l₁ => ?_
    refine (keeps_theClass l₁.fits (l₁.has hr)).bind fun c s₂ l₂ _ => ?_
    exact keeps_read_bind (yields_string l₂.fits)
  | classSuperclass =>
    refine (runs_expect h).then fun _ s₁ l₁ => ?_
    refine (keeps_theClass l₁.fits (l₁.has hr)).bind fun c s₂ l₂ _ => keeps_read_bind ?_
    refine keeps_pure l₂.fits (l₂.fits.has (State.known_getD_nil fun v hp => ?_))
    exact State.known_of_classAt (.inl hp)
  | objectToString =>
    refine (runs_expect h).then fun _ s₁ l₁ => ?_
    split
    · exact keeps_read_bind (yields_string l₁.fits)
    · exact keeps_read_bind (yields_string l₁.fits)
  | objectInspect =>
    refine (runs_expect h).then fun _ s₁ l₁ => ?_
    exact (runs_inspect hh l₁.fits (l₁.has hr)).then fun _ s₂ l₂ => yields_string l₂.fits
  | objectClass =>
    refine (runs_expect h).then fun _ s₁ l₁ => ?_
    exact keeps_read_bind (keeps_pure l₁.fits (l₁.fits.has (State.known_classOf s₁ receiver)))
  | objectIs =>
    cases vs with
    | nil => exact yields_bool h
    | cons v vs => exact keeps_read_bind (yields_bool h)
  | objectEqual =>
    refine (yields_onlyArgument h hv).bind fun v s₁ l₁ _ => ?_
    exact keeps_read_bind (yields_bool l₁.fits)
  | objectNotEqual =>
    refine (runs_expect h).then fun _ s₁ l₁ => ?_
    have sent := keeps_send l₁.fits (l₁.has hr) (fun v hm => l₁.has (hv v hm))
      (l₁.fits.has (.inl .root)) (hh receiver "==" vs Core.root)
    exact sent.bind fun equal s₂ l₂ _ => keeps_read_bind (yields_bool l₂.fits)
  | objectRespondsTo =>
    refine (yields_onlyArgument h hv).bind fun v s₁ l₁ hv₁ => keeps_state_bind ?_
    split
    · exact yields_bool l₁.fits
    · exact (runs_theText l₁.fits).then fun _ s₂ l₂ => yields_bool l₂.fits
  | objectIsNil => exact (runs_expect h).then fun _ s₁ l₁ => yields_bool l₁.fits
  | objectPrint | objectPrintln =>
    refine (runs_printed hh h hr hv).then fun _ s₁ l₁ => ?_
    exact (runs_print l₁.fits).then fun _ s₂ l₂ => yields_nil l₂.fits
  | numberArithmetic op =>
    refine (yields_onlyArgument h hv).bind fun v s₁ l₁ _ => ?_
    refine (runs_theNumber l₁.fits).then fun a s₂ l₂ => ?_
    refine (runs_theNumber l₂.fits).then fun b s₃ l₃ => ?_
    split
    · exact yields_number l₃.fits
    · exact keeps_fail l₃.fits
  | numberComparison op =>
    refine (yields_onlyArgument h hv).bind fun v s₁ l₁ _ => keeps_read_bind ?_
    split
    · exact yields_bool l₁.fits
    · refine (runs_theNumber l₁.fits).then fun a s₂ l₂ => ?_
      exact (runs_theNumber l₂.fits).then fun b s₃ l₃ => yields_bool l₃.fits
  | numberToString =>
    refine (runs_expect h).then fun _ s₁ l₁ => ?_
    exact (runs_theNumber l₁.fits).then fun n s₂ l₂ => yields_string l₂.fits
  | numberToInt =>
    refine (runs_expect h).then fun _ s₁ l₁ => ?_
    exact (runs_theNumber l₁.fits).then fun n s₂ l₂ => yields_integer l₂.fits
  | numberToFloat =>
    refine (runs_expect h).then fun _ s₁ l₁ => ?_
    exact (runs_theNumber l₁.fits).then fun n s₂ l₂ => yields_number l₂.fits
  | stringConcat =>
    refine (yields_onlyArgument h hv).bind fun v s₁ l₁ hv₁ => ?_
    refine (runs_theText l₁.fits).then fun text s₂ l₂ => ?_
    exact (runs_stringify hh l₂.fits (l₂.has hv₁)).then fun t s₃ l₃ => yields_string l₃.fits
  | stringLength =>
    refine (runs_expect h).then fun _ s₁ l₁ => ?_
    exact (runs_theText l₁.fits).then fun t s₂ l₂ => yields_integer l₂.fits
  | stringUpcase | stringDowncase =>
    refine (runs_expect h).then fun _ s₁ l₁ => ?_
    exact (runs_theText l₁.fits).then fun t s₂ l₂ => yields_string l₂.fits
  | stringToString =>
    exact (runs_expect h).then fun _ s₁ l₁ => keeps_pure l₁.fits (l₁.has hr)
  | stringToSymbol =>
    refine (runs_expect h).then fun _ s₁ l₁ => ?_
    exact (runs_theText l₁.fits).then fun t s₂ l₂ => yields_symbol l₂.fits
  | symbolNew =>
    dsimp only [Builtin.run]
    split
    · exact yields_symbol h
    · refine (runs_stringify hh h (hv _ List.mem_cons_self)).then fun t s₁ l₁ => ?_
      exact yields_symbol l₁.fits
    · exact keeps_fail h
  | symbolIs =>
    refine keeps_state_bind ?_
    split
    · exact yields_bool h
    · exact yields_bool h
  | symbolToString =>
    refine (runs_expect h).then fun _ s₁ l₁ => keeps_state_bind ?_
    split
    · exact yields_string l₁.fits
    · exact keeps_failType l₁.fits
  | booleanToString =>
    exact (runs_expect h).then fun _ s₁ l₁ => keeps_read_bind (yields_string l₁.fits)
  | booleanNot =>
    exact (runs_expect h).then fun _ s₁ l₁ => keeps_read_bind (yields_bool l₁.fits)
  | nilToString => exact (runs_expect h).then fun _ s₁ l₁ => yields_string l₁.fits
  | lambdaCall =>
    refine keeps_read_bind ?_
    split
    · next c hcl =>
      obtain ⟨captured, body⟩ := State.known_closure? hcl
      exact yields_applyClosure h (h.has captured) (fun n hn => h.has (body n hn)) hv
    · exact keeps_failType h

/-- **A method that is not written in the language keeps to every discipline.** -/
theorem yields_native (h : D.Fits s) (hr : D.has s (.value receiver))
    (hv : ∀ v ∈ vs, D.has s (.value v)) (hc : D.has s (.frame caller)) (n : Native) :
    D.Yields here s (n.run receiver vs caller) := by
  cases n with
  | builtin b => exact yields_builtin hh h hr hv hc b
  | reader name =>
    refine (runs_expect h).then fun _ s₁ l₁ => keeps_read_bind ?_
    exact keeps_pure l₁.fits (l₁.fits.has (State.known_getD_nil fun _ => State.known_ivar?))
  | writer name =>
    refine (yields_onlyArgument h hv).bind fun v s₁ l₁ hv₁ => ?_
    have write : D.Runs here s₁ (Eval.modify (·.setIvar receiver name v)) :=
      keeps_modify l₁.fits (.setIvar name (l₁.has hr) hv₁) fun _ => trivial
    exact write.then fun _ s₂ l₂ => keeps_pure l₂.fits (l₂.has hv₁)
  | probe p => exact yields_probe h hr p

end Sends

end OpenScript.Discipline
