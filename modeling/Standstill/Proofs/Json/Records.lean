import Mathlib
import Standstill.Proofs.Json.Codecs
import Standstill.Json.Record

/-!
# Records that read back what they write

A record is written as an object with its fields in order. While such an
object is read, the draft goes through the states in which the first fields
are filled and the others are not. An object that is cut off ends before its
closing bracket, which is a fault wherever the cut is.

Results:
* `Record.Faithful.codec`: a record reads back what it writes if its fields do.
* `Codec.parse_line`: the line of a value is parsed as the value.
* `Record.Faithful.parse_of_cut`: no cut of the line of a record is parsed.
-/
namespace Standstill.Json

/-! ## Fields -/

namespace Fields

/-- The draft in which the first `k` fields have their values. -/
def filled : {τ δ : Type} → Fields τ δ → (k : Nat) → τ → δ
  | _, _, .nil, _, () => ()
  | _, _, .cons _ _ _ rest, 0, (_, b) => (none, rest.filled 0 b)
  | _, _, .cons _ _ _ rest, k + 1, (a, b) => (some a, rest.filled k b)

/-- Fields whose names are distinct and need no escapes. -/
def Named {τ δ : Type} (fs : Fields τ δ) : Prop :=
  fs.names.Nodup ∧ ∀ name ∈ fs.names, ∀ c ∈ name.toList, IsNameChar c

/-- Fields that read their values back. -/
def Faithful : {τ δ : Type} → Fields τ δ → τ → Prop
  | _, _, .nil, () => True
  | _, _, .cons _ codec _ rest, (a, b) => codec.Faithful a ∧ rest.Faithful b

theorem filled_zero {τ δ : Type} (fs : Fields τ δ) (v : τ) : fs.filled 0 v = fs.emptyDraft := by
  induction fs with
  | nil => rfl
  | cons _ _ _ rest ih => simp only [filled, emptyDraft, ih]

theorem length_write {τ δ : Type} (fs : Fields τ δ) (v : τ) :
    (fs.write v).length = fs.names.length := by
  induction fs with
  | nil => rfl
  | cons _ _ _ rest ih => simp [write, names, ih]

/-- Once all fields are filled the values are complete. -/
theorem complete_filled {τ δ : Type} (fs : Fields τ δ) {k : Nat} (v : τ)
    (h : fs.names.length ≤ k) : fs.complete (fs.filled k v) = .ok v := by
  induction fs generalizing k with
  | nil => rfl
  | cons _ _ _ rest ih =>
    obtain ⟨j, rfl⟩ : ∃ j, k = j + 1 := Nat.exists_eq_succ_of_ne_zero (by
      simp only [names, List.length_cons] at h
      omega)
    simp only [names, List.length_cons] at h
    simp [filled, complete, ih (k := j) v.2 (by omega), Except.map]

theorem colon_cons (s : List Char) : colon (':' :: s) = (.ok (), s) := by
  rw [colon, skipBlanks_cons (by decide)]
  rfl

/-- The text written for a field, from its colon on, fills that field of a
draft; a cut of it fills nothing and leaves something. -/
theorem readField_filled {τ δ : Type} {fs : Fields τ δ} {v : τ} (hn : fs.Named)
    (h : fs.Faithful v) {k : Nat} (hk : k < fs.names.length) :
    ∃ (key : String) (text : List Char) (read : Reader δ),
      (fs.write v)[k]? = some ('"' :: (key.toList ++ '"' :: ':' :: text)) ∧
      key ∈ fs.names ∧ (∀ c ∈ text, IsVisible c) ∧
      fs.readField key (fs.filled k v) = some read ∧
      (∀ rest, EndsNumber rest →
        read (':' :: (text ++ rest)) = (.ok (fs.filled (k + 1) v), rest)) ∧
      ∀ p, IsCut p (':' :: text) → BreaksOff read p := by
  induction fs generalizing k with
  | nil => simp [names] at hk
  | cons name codec absent rest ih =>
    obtain ⟨a, b⟩ := v
    obtain ⟨ha, hb⟩ := h
    obtain ⟨hdistinct, hnames⟩ := hn
    rw [names, List.nodup_cons] at hdistinct
    have hrest : rest.Named := ⟨hdistinct.2, fun n hmem => hnames n (List.mem_cons_of_mem _ hmem)⟩
    cases k with
    | zero =>
      refine ⟨name, codec.write a, (do colon; let a ← codec.read; pure (some a, rest.filled 0 b)),
        by simp [write], by simp [names], ha.visible, by simp [readField, filled], ?_, ?_⟩
      · intro u hu
        simp [Reader.bind_apply, colon_cons, ha.read_back u hu, Reader.pure_apply, filled]
      · intro p hp
        rcases isCut_cons hp with rfl | ⟨q, rfl, hq⟩
        · exact .inl ⟨_, _, rfl⟩
        · have hr : BreaksOff (do let a ← codec.read; pure (some a, rest.filled 0 b)) q :=
            (ha.breaks_off q hq).bind fun a => .inr ⟨(some a, rest.filled 0 b), rfl⟩
          simpa only [BreaksOff, Reader.bind_apply (r := colon), colon_cons] using hr
    | succ k =>
      obtain ⟨key, text, read, hw, hmem, htext, hread, hback, hcut⟩ :=
        ih hrest hb (k := k) (by simpa [names] using hk)
      have hne : key ≠ name := fun he => hdistinct.1 (he ▸ hmem)
      refine ⟨key, text, (do let later ← read; pure (some a, later)), by simpa [write] using hw,
        by simp [names, hmem], htext, ?_, ?_, ?_⟩
      · simp [readField, filled, hne, hread]
      · intro u hu
        simp [Reader.bind_apply, hback u hu, Reader.pure_apply, filled]
      · intro p hp
        exact (hcut p hp).bind fun later => .inr ⟨(some a, later), rfl⟩

end Fields

/-! ## Members -/

namespace Record

variable {α : Type} {r : Record α} {v : r.τ}

/-- The text written for a field is the quote that opens its key and a member
that fills the field. -/
theorem member_filled (hn : r.fields.Named) (h : r.fields.Faithful v) {k : Nat} {m : List Char}
    (hm : (r.fields.write v)[k]? = some m) :
    ∃ s, m = '"' :: s ∧ (∀ c ∈ s, IsVisible c) ∧
      (∀ rest, EndsNumber rest →
        r.member (r.fields.filled k v) (s ++ rest) = (.ok (r.fields.filled (k + 1) v), rest)) ∧
      ∀ p, IsCut p s → BreaksOff (r.member (r.fields.filled k v)) p := by
  have hk : k < r.fields.names.length := by
    have := (List.getElem?_eq_some_iff.1 hm).1
    rwa [r.fields.length_write v] at this
  obtain ⟨key, text, read, hw, hmem, htext, hread, hback, hcut⟩ :=
    r.fields.readField_filled hn h hk
  have hkey := hn.2 key hmem
  have hplain : ∀ c ∈ key.toList, IsPlain c := fun c hc => (hkey c hc).isPlain
  have hstring (u : List Char) : string (key.toList ++ '"' :: u) = (.ok key, u) := by
    rw [string_plain hplain, String.ofList_toList]
  refine ⟨key.toList ++ '"' :: ':' :: text, by simpa using hm.symm.trans hw, ?_, ?_, ?_⟩
  · intro c hc
    rcases List.mem_append.1 hc with hc | hc
    · exact (hkey c hc).1
    · simp only [List.mem_cons] at hc
      rcases hc with rfl | rfl | hc
      · decide
      · decide
      · exact htext c hc
  · intro u hu
    rw [List.append_assoc]
    simp only [List.cons_append, member, Reader.bind_apply, hstring, hread]
    exact hback u hu
  · intro p hp
    rw [show key.toList ++ '"' :: ':' :: text = (key.toList ++ ['"']) ++ ':' :: text by simp] at hp
    rcases hp.append with hp | ⟨q, rfl, hq⟩
    · obtain ⟨f, t, hs⟩ := string_of_cut hplain hp
      exact .inl ⟨f, t, by simp [member, Reader.bind_apply, hs]⟩
    · have hs : r.member (r.fields.filled k v) (key.toList ++ ['"'] ++ q) = read q := by
        rw [List.append_assoc]
        simp only [List.cons_append, List.nil_append, member, Reader.bind_apply, hstring, hread]
      simpa only [BreaksOff, hs] using hcut q hq

/-- Texts with a comma before each, but not before the first one of an object. -/
def separated (isFirst : Bool) : List (List Char) → List Char
  | [] => []
  | m :: ms => (if isFirst then m else ',' :: m) ++ separated false ms

theorem commaSeparated_eq (ms : List (List Char)) :
    Codec.commaSeparated ms = separated true ms := by
  have hcons (m : List Char) (ms : List (List Char)) :
      Codec.commaSeparated (m :: ms) = m ++ separated false ms := by
    induction ms generalizing m with
    | nil => simp [Codec.commaSeparated, separated]
    | cons n ms ih => simp [Codec.commaSeparated, separated, ih]
  cases ms with
  | nil => rfl
  | cons m ms => simp [hcons, separated]

/-- The text between a member and the next one does not go on with a number. -/
theorem endsNumber_separated {closer : Char} (hcloser : closer = '}' ∨ closer = ']')
    (ms : List (List Char)) (rest : List Char) :
    EndsNumber (separated false ms ++ closer :: rest) := by
  cases ms with
  | nil => exact endsNumber_cons _ (.inr hcloser)
  | cons m ms => exact endsNumber_cons _ (by simp)

theorem endsNumber_of_cut {closer : Char} (hcloser : closer = '}' ∨ closer = ']')
    {ms : List (List Char)} {p : List Char}
    (h : IsCut p (separated false ms ++ [closer])) : EndsNumber p := by
  cases p with
  | nil => exact endsNumber_nil
  | cons c p =>
    have hp := h.starts
    cases ms with
    | nil =>
      have hc : c = closer ∧ p = [] := by simpa [separated] using hp
      exact endsNumber_cons p (.inr (hc.1 ▸ hcloser))
    | cons m ms =>
      have hc : c = ',' := by
        simp only [separated, Bool.false_eq_true, ↓reduceIte, List.cons_append,
          List.cons_prefix_cons] at hp
        exact hp.1
      exact endsNumber_cons p (by simp [hc])

/-- What opens the key of a member. -/
def opener (isFirst : Bool) : List Char := if isFirst then ['"'] else [',', '"']

theorem separated_cons (isFirst : Bool) (s : List Char) (ms : List (List Char)) :
    separated isFirst (('"' :: s) :: ms) = opener isFirst ++ (s ++ separated false ms) := by
  cases isFirst <;> simp [separated, opener]

theorem moreMembers_opener (isFirst : Bool) (s : List Char) :
    moreMembers isFirst (opener isFirst ++ s) = (.ok true, s) := by
  have hq : isJsonBlank '"' = false := by decide
  cases isFirst
  · change moreMembers false (',' :: '"' :: s) = _
    rw [moreMembers, skipBlanks_cons (by decide)]
    simp [skipBlanks_cons hq]
  · change moreMembers true ('"' :: s) = _
    rw [moreMembers, skipBlanks_cons hq]
    simp

/-- After a member come the members that are left. -/
theorem members_of_member {isFirst : Bool} {d d' : r.δ} {s u : List Char}
    (h : r.member d s = (.ok d', u)) (hl : u.length ≤ s.length) :
    r.members isFirst d (opener isFirst ++ s) = r.members false d' u := by
  have hlen : u.length < (opener isFirst ++ s).length := by
    cases isFirst <;> simp only [opener, Bool.false_eq_true, ↓reduceIte, List.length_append,
      List.length_cons, List.length_nil] <;> omega
  rw [members, moreMembers_opener]
  simp only [h, hlen, ↓reduceIte]

/-- Members do not end with the text. -/
theorem members_nil (isFirst : Bool) (d : r.δ) : ∃ f t, r.members isFirst d [] = (.error f, t) := by
  refine ⟨.ahead .endInObject [], [], ?_⟩
  rw [members]
  rfl

theorem members_of_cut_opener {isFirst : Bool} {p : List Char} (h : IsCut p (opener isFirst))
    (d : r.δ) : ∃ f t, r.members isFirst d p = (.error f, t) := by
  cases isFirst
  · rcases isCut_cons h with rfl | ⟨q, rfl, hq⟩
    · exact members_nil false d
    · obtain rfl := eq_nil_of_isCut_singleton hq
      refine ⟨.ahead .endInValue [], [], ?_⟩
      rw [members]
      rfl
  · obtain rfl := eq_nil_of_isCut_singleton h
    exact members_nil true d

/-- The members from the field `k` on complete the draft. -/
theorem members_separated (hn : r.fields.Named) (h : r.fields.Faithful v) (rest : List Char)
    {ms : List (List Char)} :
    ∀ {isFirst : Bool} {k : Nat}, (r.fields.write v).drop k = ms →
      ∃ d, r.members isFirst (r.fields.filled k v) (separated isFirst ms ++ '}' :: rest) =
        (.ok d, '}' :: rest) ∧ r.fields.complete d = .ok v := by
  induction ms with
  | nil =>
    intro isFirst k hd
    have hk : r.fields.names.length ≤ k := by
      rw [← r.fields.length_write v]
      exact List.drop_eq_nil_iff.1 hd
    refine ⟨_, ?_, r.fields.complete_filled v hk⟩
    change r.members isFirst _ ('}' :: rest) = _
    rw [members, moreMembers, skipBlanks_cons (by decide)]
    rfl
  | cons m ms ih =>
    intro isFirst k hd
    have hm : (r.fields.write v)[k]? = some m := by simpa using congrArg List.head? hd
    have hd' : (r.fields.write v).drop (k + 1) = ms := by simpa using congrArg List.tail hd
    obtain ⟨s, rfl, -, hback, -⟩ := member_filled hn h hm
    have hs := hback _ (endsNumber_separated (.inl rfl) ms rest)
    rw [separated_cons, List.append_assoc, List.append_assoc,
      members_of_member hs (by simp)]
    exact ih hd'

/-- Members that are cut off before the closing bracket are a fault. -/
theorem members_of_cut (hn : r.fields.Named) (h : r.fields.Faithful v) {ms : List (List Char)} :
    ∀ {isFirst : Bool} {k : Nat} {p : List Char}, (r.fields.write v).drop k = ms →
      IsCut p (separated isFirst ms ++ ['}']) →
      ∃ f t, r.members isFirst (r.fields.filled k v) p = (.error f, t) := by
  induction ms with
  | nil =>
    intro isFirst k p hd hp
    obtain rfl := eq_nil_of_isCut_singleton (c := '}') hp
    exact members_nil isFirst _
  | cons m ms ih =>
    intro isFirst k p hd hp
    have hm : (r.fields.write v)[k]? = some m := by simpa using congrArg List.head? hd
    have hd' : (r.fields.write v).drop (k + 1) = ms := by simpa using congrArg List.tail hd
    obtain ⟨s, rfl, -, hback, hcut⟩ := member_filled hn h hm
    rw [separated_cons, List.append_assoc, List.append_assoc] at hp
    rcases hp.append with hp | ⟨q, rfl, hq⟩
    · exact members_of_cut_opener hp _
    rcases hq.append with hq | ⟨u, rfl, hu⟩
    · -- the cut is inside this member: the member itself is a fault, or the text ends with it
      rcases hcut q hq with ⟨f, t, hf⟩ | ⟨d, hd⟩
      · exact ⟨f, t, by rw [members, moreMembers_opener]; simp only [hf]⟩
      · rw [members_of_member hd (by simp)]
        exact members_nil false d
    · rw [members_of_member (hback u (endsNumber_of_cut (.inl rfl) hu)) (by simp)]
      exact ih hd' hu

/-! ## Whole records -/

variable {a : α}

/-- A value of which the fields read their parts back and the parts give the value. -/
structure Faithful (r : Record α) (a : α) : Prop where
  named : r.fields.Named
  fields : r.fields.Faithful (r.parts a)
  build : r.build (r.parts a) = .ok a

theorem Faithful.read_write (h : r.Faithful a) (rest : List Char) :
    r.read (r.codec.write a ++ rest) = (.ok a, rest) := by
  obtain ⟨d, hd, hc⟩ := @members_separated _ r _ h.named h.fields rest _ true 0 List.drop_zero
  rw [Fields.filled_zero] at hd
  have hw : r.codec.write a ++ rest =
      '{' :: (separated true (r.fields.write (r.parts a)) ++ '}' :: rest) := by
    simp [codec, commaSeparated_eq]
  rw [hw, read, skipBlanks_cons (by decide)]
  simp only [Codec.enclosed, placing, Reader.bind_apply, hd, hc, h.build, settle, Reader.pure_apply]
  rw [Codec.endObject, skipBlanks_cons (by decide)]
  rfl

theorem Faithful.read_of_cut (h : r.Faithful a) {p : List Char}
    (hp : IsCut p (r.codec.write a)) : ∃ f t, r.read p = (.error f, t) := by
  have hw : r.codec.write a = '{' :: (separated true (r.fields.write (r.parts a)) ++ ['}']) := by
    simp [codec, commaSeparated_eq]
  rw [hw] at hp
  rcases isCut_cons hp with rfl | ⟨q, rfl, hq⟩
  · exact ⟨_, _, rfl⟩
  · obtain ⟨f, t, hf⟩ := members_of_cut h.named h.fields (List.drop_zero ..) hq
    rw [Fields.filled_zero] at hf
    rw [read, skipBlanks_cons (by decide)]
    simp only [Codec.enclosed, placing, Reader.bind_apply, hf]
    exact ⟨_, _, rfl⟩

theorem mem_separated {isFirst : Bool} {ms : List (List Char)} {c : Char}
    (h : c ∈ separated isFirst ms) : c = ',' ∨ ∃ m ∈ ms, c ∈ m := by
  induction ms generalizing isFirst with
  | nil => cases h
  | cons m ms ih =>
    rcases List.mem_append.1 h with h | h
    · cases isFirst
      · rcases List.mem_cons.1 h with rfl | h
        · exact .inl rfl
        · exact .inr ⟨m, by simp, h⟩
      · exact .inr ⟨m, by simp, h⟩
    · rcases ih h with rfl | ⟨n, hn, hc⟩
      · exact .inl rfl
      · exact .inr ⟨n, by simp [hn], hc⟩

theorem Faithful.visible_write (h : r.Faithful a) :
    ∀ c ∈ r.codec.write a, IsVisible c := by
  intro c hc
  rcases List.mem_cons.1 hc with rfl | hc
  · decide
  rcases List.mem_append.1 hc with hc | hc
  · rw [commaSeparated_eq] at hc
    rcases mem_separated hc with rfl | ⟨m, hm, hcm⟩
    · decide
    obtain ⟨k, hk⟩ := List.mem_iff_getElem?.1 hm
    obtain ⟨s, rfl, hs, -, -⟩ := member_filled h.named h.fields hk
    rcases List.mem_cons.1 hcm with rfl | hcm
    · decide
    · exact hs c hcm
  · rw [List.mem_singleton.1 hc]
    decide

/-- A record reads back what it writes if its fields do. -/
theorem Faithful.codec (h : r.Faithful a) :
    r.codec.Faithful a where
  read_back rest _ := h.read_write rest
  breaks_off _ hp := .inl (h.read_of_cut hp)
  visible := h.visible_write

/-- No cut of the text of a record is the text of one. -/
theorem Faithful.parse_of_cut (h : r.Faithful a) {p : List Char}
    (hp : IsCut p (r.codec.write a)) : ∃ e, r.codec.parse (String.ofList p) = .error e := by
  obtain ⟨f, t, hf⟩ := h.read_of_cut hp
  have hr : r.codec.read p = (.error f, t) := hf
  exact ⟨_, by rw [Codec.parse, String.toList_ofList, hr]⟩

end Record

namespace Codec

variable {α : Type} {c : Codec α} {a : α}

/-- The line of a value is parsed as the value. -/
theorem parse_line (h : c.Faithful a) : c.parse (c.line a) = .ok a := by
  have hr := h.read_back [] endsNumber_nil
  rw [List.append_nil] at hr
  rw [parse, line, String.toList_ofList, hr]
  rfl

end Codec

end Standstill.Json
