import OpenScript.Proofs.Written.Finite
import OpenScript.Proofs.Written.Program

/-!
# Proofs/Written/Accepted — what is accepted has a canonical text that means the same

    any text ──parse──▸ program ──render──▸ canonical text ──parse──▸ the same program

Other spellings buy no nesting: a decoder enters as many arrays and objects as the canonical JSON of
its result nests, whichever spelling it reads, and the doubles it reads are finite
(`Node.sound_of_decode`).  So the canonical text of an accepted program is accepted, and as the same
program, if its doubles read back (`Program.parse_render_of_parse`).
-/

namespace OpenScript

namespace Node

variable {α : Type} {k b : Nat} {n : Node} {payload : Json}

/-- The JSON of a node nests at most so deep, and its doubles are finite. -/
structure Sound (k : Nat) (n : Node) : Prop where
  nesting : n.encode.nesting ≤ k
  finite : n.EveryDouble fun x => x.isFinite

/-! ## What the decoders of payloads give -/

theorem fields?_pos {names : List String} {fields : List (String × Json)}
    (h : fields? b names payload = some fields) : 0 < b := by
  cases b with
  | zero => exact absurd h.symm (Option.some_ne_none _)
  | succ b => exact Nat.succ_pos b

theorem exists_of_mem_mapM {β : Type} {f : α → Option β} {xs : List α} {ys : List β}
    (h : xs.mapM f = some ys) : ∀ y ∈ ys, ∃ x, f x = some y := by
  induction xs generalizing ys with
  | nil =>
    obtain rfl := Option.some.inj h
    exact List.forall_mem_nil _
  | cons x xs ih =>
    simp only [List.mapM_cons, Option.bind_eq_bind, Option.bind_eq_some_iff, Option.pure_def,
      Option.some.injEq] at h
    obtain ⟨y, hy, ys, hys, rfl⟩ := h
    exact List.forall_mem_cons.2 ⟨⟨x, hy⟩, ih hys⟩

/-- What a list is read from is an array, and each item of it is read. -/
theorem items?_some {decode : Json → Option α} {xs : List α}
    (h : items? b decode payload = some xs) : 0 < b ∧ ∀ x ∈ xs, ∃ j, decode j = some x := by
  cases payload with
  | array items =>
    simp only [items?] at h
    split at h
    · cases h
    · next hb => exact ⟨Nat.pos_of_ne_zero hb, exists_of_mem_mapM h⟩
  | _ => cases h

theorem absentOr?_some {decode : Json → Option α} {o : Option Json} {r : Option α}
    (h : absentOr? decode o = some r) : ∀ x ∈ r, ∃ j, decode j = some x := by
  unfold absentOr? at h
  split at h
  · obtain rfl := Option.some.inj h
    exact fun x hx => absurd hx (Option.not_mem_none x)
  · obtain rfl := Option.some.inj h
    exact fun x hx => absurd hx (Option.not_mem_none x)
  · next j _ =>
    obtain ⟨y, hy, rfl⟩ := Option.map_eq_some_iff.1 h
    exact fun x hx => ⟨j, Option.mem_some.1 hx ▸ hy⟩

theorem two?_some {decode : Json → Option α} {x y : α} (h : two? b decode payload = some (x, y)) :
    0 < b ∧ (∃ j, decode j = some x) ∧ ∃ j, decode j = some y := by
  simp only [two?, Option.bind_eq_bind, Option.bind_eq_some_iff] at h
  obtain ⟨xs, hxs, h⟩ := h
  obtain ⟨hb, read⟩ := items?_some hxs
  split at h
  · obtain ⟨rfl, rfl⟩ := Prod.mk.inj (Option.some.inj h)
    exact ⟨hb, read _ List.mem_cons_self, read _ (List.mem_cons_of_mem _ List.mem_cons_self)⟩
  · cases h

/-! ## What a node is made of -/

/-- What the inner decoders give is sound for what is left of the budget. -/
def SoundWithin (k : Nat) : Prop :=
  ∀ (further : Nat) (j : Json) (m : Node), 0 < further → inner k further j = some m →
    further ≤ k ∧ m.Sound (k - further)

namespace SoundWithin

variable {ms : List Node} {o : Option Node}

theorem field (h : SoundWithin k) (hn : inner k 2 payload = some n) :
    (n.encodeWith fun x => .number (Decimal.jsonLayout.literal x)).nesting ≤ k - 2 ∧
      n.EveryDouble fun x => x.isFinite :=
  let ⟨_, sound⟩ := h 2 payload n Nat.two_pos hn
  ⟨sound.nesting, sound.finite⟩

theorem option {j : Option Json} (h : SoundWithin k) (ho : absentOr? (inner k 2) j = some o) :
    (encodeOption (fun x => .number (Decimal.jsonLayout.literal x)) o).nesting ≤ k - 2 ∧
      ∀ m ∈ o, m.EveryDouble fun x => x.isFinite := by
  have sound {m : Node} (hm : m ∈ o) :=
    let ⟨_, hj⟩ := absentOr?_some ho m hm
    h.field hj
  exact ⟨nesting_encodeOption_le.2 fun m hm => (sound hm).1, fun m hm => (sound hm).2⟩

theorem list (h : SoundWithin k) (hs : items? (k - 1 - 1) (inner k 3) payload = some ms) :
    (Json.array (encodeList (fun x => .number (Decimal.jsonLayout.literal x)) ms)).nesting ≤ k - 2 ∧
      ∀ m ∈ ms, m.EveryDouble fun x => x.isFinite := by
  obtain ⟨hk, read⟩ := items?_some hs
  have sound {m : Node} (hm : m ∈ ms) : m.Sound (k - 3) :=
    let ⟨j, hj⟩ := read m hm
    (h 3 j m (by decide) hj).2
  exact ⟨nesting_encodeList_le.2 ⟨hk, fun m hm => (sound hm).nesting⟩,
    fun m hm => (sound hm).finite⟩

end SoundWithin

theorem nesting_of_names {names : List String}
    (h : items? (k - 1 - 1) Json.text? payload = some names) : (namesJson names).nesting ≤ k - 2 :=
  (nesting_namesJson_le names).2 (items?_some h).1

/-- A node is sound whose payload is a record of what nests no deeper. -/
theorem Sound.record {tag : String} {fields : List (String × Json)} (hk : 0 < k) (hk' : 0 < k - 1)
    (e : n.encode = tagged tag (.record fields)) (hf : ∀ f ∈ fields, f.2.nesting ≤ k - 2)
    (hd : n.double? = none) (hp : ∀ m ∈ n.parts, m.EveryDouble fun x => x.isFinite) :
    n.Sound k where
  nesting := e ▸ nesting_tagged_record_le.2 ⟨hk, hk', hf⟩
  finite := ⟨fun x hx => absurd (hd ▸ hx) (Option.not_mem_none x), hp⟩

/-- A node is sound whose payload nests no deeper. -/
theorem Sound.tagged {tag : String} (hk : 0 < k) (e : n.encode = tagged tag payload)
    (hn : payload.nesting ≤ k - 1) (hd : n.double? = none)
    (hp : ∀ m ∈ n.parts, m.EveryDouble fun x => x.isFinite) : n.Sound k where
  nesting := e ▸ nesting_tagged_le.2 ⟨hk, hn⟩
  finite := ⟨fun x hx => absurd (hd ▸ hx) (Option.not_mem_none x), hp⟩

theorem sound_of_bare? {tag : String} (h : bare? tag = some n) : n.Sound k := by
  unfold bare? at h
  split at h
  case h_6 => cases h
  all_goals
    obtain rfl := Option.some.inj h
    exact ⟨Nat.zero_le k, fun x hx => absurd hx (Option.not_mem_none x), List.forall_mem_nil _⟩

theorem sound_of_tagged? {tag : String} (hk : 0 < k) (within : SoundWithin k)
    (h : tagged? (k - 1) (inner k 1) (inner k 2) (inner k 3) tag payload = some n) : n.Sound k := by
  unfold tagged? at h
  split at h
  case h_1 =>
    simp only [Option.bind_eq_bind, Option.bind_eq_some_iff, Option.some.injEq] at h
    obtain ⟨l, -, x, -, rfl⟩ := h
    exact .tagged hk rfl (Nat.zero_le _) rfl (List.forall_mem_nil _)
  case h_2 =>
    simp only [Option.bind_eq_bind, Option.bind_eq_some_iff, Option.some.injEq] at h
    obtain ⟨l, -, x, hx, rfl⟩ := h
    refine ⟨nesting_tagged_le.2 ⟨hk, Nat.zero_le _⟩, ?_, List.forall_mem_nil _⟩
    rintro y ⟨⟩
    exact Decimal.Literal.isFinite_toFloat? hx
  case h_3 | h_4 | h_5 | h_7 | h_9 | h_11 | h_13 =>
    obtain ⟨x, -, rfl⟩ := Option.map_eq_some_iff.1 h
    exact .tagged hk rfl (Nat.zero_le _) rfl (List.forall_mem_nil _)
  case h_6 | h_8 | h_10 | h_12 | h_14 =>
    simp only [Option.bind_eq_bind, Option.bind_eq_some_iff, Option.some.injEq] at h
    obtain ⟨fields, hf, -, -, x, -, j, -, v, hv, rfl⟩ := h
    have value := within.field hv
    exact .record hk (fields?_pos hf) rfl (by simp [value.1]) rfl
      (List.forall_mem_singleton.2 value.2)
  case h_15 =>
    simp only [Option.bind_eq_bind, Option.bind_eq_some_iff, Option.some.injEq] at h
    obtain ⟨fields, hf, receiver, hr, -, -, method, -, _, -, arguments, ha, rfl⟩ := h
    have first := within.option hr
    have others := within.list ha
    exact .record hk (fields?_pos hf) rfl (by simp [first.1, others.1]) rfl
      (List.forall_mem_append.2 ⟨fun m hm => first.2 m (Option.mem_toList.1 hm), others.2⟩)
  case h_16 =>
    simp only [Option.bind_eq_bind, Option.bind_eq_some_iff, Option.some.injEq] at h
    obtain ⟨fields, hf, given, hg, rfl⟩ := h
    cases given with
    | none => exact .record hk (fields?_pos hf) rfl (by simp) rfl (List.forall_mem_nil _)
    | some ms =>
      obtain ⟨_, hs⟩ := absentOr?_some hg ms rfl
      have all := within.list hs
      exact .record hk (fields?_pos hf) rfl (by simp [all.1]) rfl all.2
  case h_17 =>
    simp only [Option.bind_eq_bind, Option.bind_eq_some_iff, Option.some.injEq] at h
    obtain ⟨fields, hf, -, -, name, -, parent, -, _, -, body, hb, rfl⟩ := h
    have all := within.list hb
    exact .record hk (fields?_pos hf) rfl (by simp [nesting_optionalName, all.1]) rfl all.2
  case h_18 =>
    simp only [Option.bind_eq_bind, Option.bind_eq_some_iff, Option.some.injEq] at h
    obtain ⟨fields, hf, _, -, names, hn, rfl⟩ := h
    exact .record hk (fields?_pos hf) rfl (by simp [nesting_of_names hn]) rfl
      (List.forall_mem_nil _)
  case h_19 =>
    simp only [Option.bind_eq_bind, Option.bind_eq_some_iff, Option.some.injEq] at h
    obtain ⟨fields, hf, -, -, name, -, _, -, params, hn, _, -, body, hb, rfl⟩ := h
    have all := within.list hb
    exact .record hk (fields?_pos hf) rfl (by simp [nesting_of_names hn, all.1]) rfl all.2
  case h_20 =>
    simp only [Option.bind_eq_bind, Option.bind_eq_some_iff, Option.some.injEq] at h
    obtain ⟨fields, hf, _, -, params, hn, _, -, body, hb, rfl⟩ := h
    have all := within.list hb
    exact .record hk (fields?_pos hf) rfl (by simp [nesting_of_names hn, all.1]) rfl all.2
  case h_21 =>
    simp only [Option.bind_eq_bind, Option.bind_eq_some_iff, Option.some.injEq] at h
    obtain ⟨fields, hf, _, -, condition, hc, _, -, body, hb, otherwise, ho, rfl⟩ := h
    have first := within.field hc
    have all := within.list hb
    have last := within.option ho
    exact .record hk (fields?_pos hf) rfl (by simp [first.1, all.1, last.1]) rfl
      (List.forall_mem_cons.2 ⟨first.2, List.forall_mem_append.2
        ⟨all.2, fun m hm => last.2 m (Option.mem_toList.1 hm)⟩⟩)
  case h_22 =>
    simp only [Option.bind_eq_bind, Option.bind_eq_some_iff, Option.some.injEq] at h
    obtain ⟨fields, hf, _, -, condition, hc, _, -, body, hb, rfl⟩ := h
    have first := within.field hc
    have all := within.list hb
    exact .record hk (fields?_pos hf) rfl (by simp [first.1, all.1]) rfl
      (List.forall_mem_cons.2 ⟨first.2, all.2⟩)
  case h_23 =>
    obtain ⟨body, hb, rfl⟩ := Option.map_eq_some_iff.1 h
    obtain ⟨hk', read⟩ := items?_some hb
    have sound {m : Node} (hm : m ∈ body) :=
      let ⟨_, hj⟩ := read m hm
      within.field hj
    exact .tagged hk rfl (nesting_encodeList_le.2 ⟨hk', fun m hm => (sound hm).1⟩) rfl
      fun m hm => (sound hm).2
  case h_24 =>
    obtain ⟨value, hv, rfl⟩ := Option.map_eq_some_iff.1 h
    have sound {m : Node} (hm : m ∈ value) : m.Sound (k - 1) :=
      let ⟨j, hj⟩ := absentOr?_some hv m hm
      (within 1 j m Nat.one_pos hj).2
    exact .tagged hk rfl (nesting_encodeOption_le.2 fun m hm => (sound hm).nesting) rfl
      fun m hm => (sound (Option.mem_toList.1 hm)).finite
  case h_25 | h_26 =>
    obtain ⟨⟨left, right⟩, ht, rfl⟩ := Option.map_eq_some_iff.1 h
    obtain ⟨hk', ⟨_, hl⟩, _, hr⟩ := two?_some ht
    have first := within.field hl
    have second := within.field hr
    exact .tagged hk rfl
      (Json.nesting_array_le.2 ⟨hk', by simp [Nat.sub_sub, first.1, second.1]⟩) rfl
      (List.forall_mem_cons.2 ⟨first.2, List.forall_mem_singleton.2 second.2⟩)
  case h_27 =>
    obtain ⟨operand, ho, rfl⟩ := Option.map_eq_some_iff.1 h
    obtain ⟨-, sound⟩ := within 1 payload operand Nat.one_pos ho
    exact .tagged hk rfl sound.nesting rfl (List.forall_mem_singleton.2 sound.finite)
  case h_28 =>
    simp only [Option.bind_eq_bind, Option.bind_eq_some_iff, Option.some.injEq] at h
    obtain ⟨fields, hf, -, -, name, -, _, -, body, hb, rfl⟩ := h
    have all := within.list hb
    exact .record hk (fields?_pos hf) rfl (by simp [all.1]) rfl all.2
  case h_29 =>
    simp only [Option.bind_eq_bind, Option.bind_eq_some_iff, Option.some.injEq] at h
    obtain ⟨fields, hf, -, -, space, -, -, -, name, -, rfl⟩ := h
    exact .record hk (fields?_pos hf) rfl (by simp) rfl (List.forall_mem_nil _)
  case h_30 =>
    split at h
    · exact sound_of_bare? h
    · cases h

/-- **Decoding gives nodes whose canonical JSON fits the budget, and whose doubles are finite.** -/
theorem sound_of_decode {j : Json} (h : decode k j = some n) : n.Sound k := by
  induction k using Nat.strongRecOn generalizing j n with
  | _ k ih =>
  have within : SoundWithin k := fun further j m hf hm => by
    unfold inner at hm
    split at hm
    · next hle => exact ⟨hle, ih (k - further) (by omega) hm⟩
    · cases hm
  rw [decode_eq] at h
  unfold shallow? at h
  split at h
  · exact sound_of_bare? h
  · split at h
    · cases h
    · next hk => exact sound_of_tagged? (Nat.pos_of_ne_zero hk) within h
  · cases h

end Node

namespace Program

variable {p : Program} {t : String}

/-- **What is accepted nests no deeper than is allowed when it is written canonically, and all
doubles in it are finite.** -/
theorem nesting_and_finite_of_parse (h : parse t = some p) :
    p.encode.nesting ≤ nestingLimit ∧ p.EveryDouble fun x => x.isFinite := by
  obtain ⟨j, -, h⟩ := Option.bind_eq_some_iff.1 h
  obtain ⟨hk, read⟩ := Node.items?_some h
  have sound {n : Node} (hn : n ∈ p) : n.Sound (nestingLimit - 1) :=
    let ⟨_, hj⟩ := read n hn
    Node.sound_of_decode hj
  exact ⟨Node.nesting_encodeList_le.2 ⟨hk, fun n hn => (sound hn).nesting⟩,
    fun n hn => (sound hn).finite⟩

/-- **An accepted program has a canonical text that is accepted as the same program**, if the finite
doubles in it read back. -/
theorem parse_render_of_parse (h : parse t = some p) :
    (p.EveryDouble fun x => x.isFinite) ∧ p.encode.nesting ≤ nestingLimit ∧
      ((p.EveryDouble fun x => x.isFinite → ReadsBack x) → parse p.render = some p) := by
  obtain ⟨nests, finite⟩ := nesting_and_finite_of_parse h
  refine ⟨finite, nests, fun exact => parse_render_of_readsBack (fun n hn => ?_) nests⟩
  exact (finite n hn).mp (exact n hn)

/-- A program with blanks, an escape, fields in another order, an ignored field, fields in an array,
a tag that holds `null`, and a field that is left out. -/
def respelled : String :=
  "[ \x7b\"SetLocal\":\n \x7b\"value\": \x7b\"Float\": 1E-1\x7d, \"x\": [[]], "
    ++ "\"name\": \"\\u0078\"\x7d\x7d,\n\t"
    ++ "\x7b\"If\": [\x7b\"True\": null\x7d, [\"Nil\"], null]\x7d, \x7b\"Super\": \x7b\x7d\x7d ]"

/-- The canonical text of that program. -/
def spelled : String :=
  "[\x7b\"SetLocal\":\x7b\"name\":\"x\",\"value\":\x7b\"Float\":0.1\x7d\x7d\x7d,"
    ++ "\x7b\"If\":\x7b\"condition\":\"True\",\"body\":[\"Nil\"],\"else_branch\":null\x7d\x7d,"
    ++ "\x7b\"Super\":\x7b\"arguments\":null\x7d\x7d]"

/-- It is accepted, and its canonical text is accepted as the same program. -/
theorem parse_spelled_of_respelled :
    ∃ p, parse respelled = some p ∧ p.render = spelled ∧ parse spelled = some p := by
  let test (p : Program) : Bool :=
    p.render == spelled && p.all (Node.holdsTo (Node.OfDouble fun x => x.isFinite → ReadsBack x) 9)
  have accepted : (parse respelled).any test = true := by decide +kernel
  obtain ⟨p, hp, ht⟩ := (Option.any_eq_true _ _).1 accepted
  obtain ⟨hr, hq⟩ := Bool.and_eq_true_iff.1 ht
  obtain ⟨-, -, again⟩ := parse_render_of_parse hp
  have rendered : p.render = spelled := eq_of_beq hr
  exact ⟨p, hp, rendered, rendered ▸ again (everyDouble_of_holdsTo 9 hq)⟩

end Program

end OpenScript
