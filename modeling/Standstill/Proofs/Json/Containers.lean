import Mathlib
import Standstill.Proofs.Json.Records

/-!
# Optional values, lists and payloads read back

A codec put together from others reads back what it writes if they do. An
optional value is told from `null`, and an element of a list from the list's
end, by its first character. A list that is cut off ends before its closing
bracket, which is a fault wherever the cut is; so does the object around a
payload.

Results:
* `Codec.faithful_optional`, `Codec.faithful_list`: values that may be absent,
  and lists.
* `Choices.faithful_value`: a name with a value under it.
-/
namespace Standstill.Json

/-- The text of a value that is neither `null` nor the end of a list. -/
def Opens (s : List Char) : Prop :=
  ∃ c t, s = c :: t ∧ isJsonBlank c = false ∧ c ≠ 'n' ∧ c ≠ ']'

theorem opens_quote (s : List Char) : Opens ('"' :: s) :=
  ⟨'"', s, rfl, by decide, by decide, by decide⟩

theorem opens_brace (s : List Char) : Opens ('{' :: s) :=
  ⟨'{', s, rfl, by decide, by decide, by decide⟩

theorem opens_writeInteger (i : Int) : Opens (Codec.writeInteger i) := by
  unfold Codec.writeInteger
  split
  · obtain ⟨c, s, hs, hc, -⟩ := toDigits_eq_cons i.toNat
    refine ⟨c, s, hs, ?_, ?_, ?_⟩
    · exact isJsonBlank_of_isDigit hc
    · rintro rfl
      simp at hc
    · rintro rfl
      simp at hc
  · exact ⟨'-', _, rfl, by decide, by decide, by decide⟩

theorem Opens.ne_nil {s : List Char} (h : Opens s) : s ≠ [] := by
  obtain ⟨c, t, rfl, -⟩ := h
  simp

theorem Opens.append {s : List Char} (h : Opens s) (rest : List Char) : Opens (s ++ rest) := by
  obtain ⟨c, t, rfl, hc⟩ := h
  exact ⟨c, t ++ rest, rfl, hc⟩

/-- A cut is empty or begins as the whole text does. -/
theorem Opens.of_cut {p s : List Char} (h : Opens s) (hp : IsCut p s) : p = [] ∨ Opens p := by
  obtain ⟨c, t, rfl, hc⟩ := h
  rcases isCut_cons hp with rfl | ⟨q, rfl, -⟩
  · exact .inl rfl
  · exact .inr ⟨c, q, rfl, hc⟩

theorem Opens.skipBlanks {s : List Char} (h : Opens s) : skipBlanks s = s := by
  obtain ⟨c, t, rfl, hc, -⟩ := h
  exact skipBlanks_cons hc

/-! ## Words -/

theorem word_append (es rest : List Char) : word es (es ++ rest) = (.ok (), rest) := by
  induction es with
  | nil => rfl
  | cons e es ih => simpa [word] using ih

theorem word_of_cut {es p : List Char} (h : IsCut p es) : ∃ f t, word es p = (.error f, t) := by
  induction es generalizing p with
  | nil => exact absurd h not_isCut_nil
  | cons e es ih =>
    rcases isCut_cons h with rfl | ⟨q, rfl, hq⟩
    · exact ⟨_, _, rfl⟩
    · obtain ⟨f, t, hw⟩ := ih hq
      exact ⟨f, t, by simpa [word] using hw⟩

namespace Codec

variable {α : Type} {c : Codec α}

/-! ## Optional values -/

theorem optional_read_of_opens {s : List Char} (h : Opens s) :
    c.optional.read s = (some <$> c.read) s := by
  obtain ⟨ch, t, rfl, hb, hn, -⟩ := h
  simp only [optional, skipBlanks_cons hb]
  split
  · next heq =>
    obtain rfl := (List.cons.inj heq).1
    exact absurd rfl hn
  · rfl

/-- An optional value is read back if a value is that is there. -/
theorem faithful_optional {o : Option α} (hnil : BreaksOff c.read [])
    (h : ∀ a ∈ o, c.Faithful a ∧ Opens (c.write a)) : c.optional.Faithful o := by
  cases o with
  | none =>
    refine ⟨fun rest _ => ?_, fun p hp => ?_, fun ch hc => ?_⟩
    · have hw := word_append ['u', 'l', 'l'] rest
      simp only [optional, List.cons_append, List.nil_append] at hw ⊢
      rw [skipBlanks_cons (by decide)]
      simp [Reader.bind_apply, hw, Reader.pure_apply]
    · rcases isCut_cons hp with rfl | ⟨q, rfl, hq⟩
      · exact hnil.map some
      · obtain ⟨f, t, hw⟩ := word_of_cut hq
        refine .inl ⟨f, t, ?_⟩
        simp only [optional]
        rw [skipBlanks_cons (by decide)]
        simp [Reader.bind_apply, hw]
    · simp only [optional, List.mem_cons, List.not_mem_nil, or_false] at hc
      rcases hc with rfl | rfl | rfl | rfl <;> decide
  | some a =>
    obtain ⟨ha, hopens⟩ := h a rfl
    refine ⟨fun rest he => ?_, fun p hp => ?_, ha.visible⟩
    · rw [show c.optional.write (some a) = c.write a from rfl,
        optional_read_of_opens (hopens.append rest)]
      change (c.read >>= fun a => pure (some a)) _ = _
      simp [Reader.bind_apply, ha.read_back rest he, Reader.pure_apply]
    · rcases hopens.of_cut hp with rfl | hp'
      · exact hnil.map some
      · have hb := (ha.breaks_off p hp).map some
        unfold BreaksOff at hb ⊢
        rwa [optional_read_of_opens hp']

/-! ## Lists -/

/-- What stands before an element. -/
def comma (isFirst : Bool) : List Char := if isFirst then [] else [',']

theorem separated_eq (isFirst : Bool) (m : List Char) (ms : List (List Char)) :
    Record.separated isFirst (m :: ms) = comma isFirst ++ (m ++ Record.separated false ms) := by
  cases isFirst <;> simp [Record.separated, comma]

theorem moreElements_opens (isFirst : Bool) {s : List Char} (h : Opens s) :
    moreElements isFirst (comma isFirst ++ s) = (.ok true, s) := by
  have hs := h.skipBlanks
  obtain ⟨c, t, rfl, hb, -, hc⟩ := h
  cases isFirst
  · have hcomma : skipBlanks (',' :: c :: t) = ',' :: c :: t := skipBlanks_cons (by decide)
    simp [comma, moreElements, hcomma, hs, hc]
  · simp [comma, moreElements, hs]

/-- After an element come the elements that are left. -/
theorem elements_of_element {r : Reader α} {isFirst : Bool} {acc : List α} {a : α}
    {s u : List Char} (hs : Opens s) (hr : r s = (.ok a, u)) (hl : u.length < s.length) :
    elements r isFirst acc (comma isFirst ++ s) = elements r false (a :: acc) u := by
  have hlen : u.length < (comma isFirst ++ s).length := by
    rw [List.length_append]
    omega
  rw [elements, moreElements_opens isFirst hs]
  simp only [hr, hlen, ↓reduceIte]

theorem elements_of_fault {r : Reader α} {isFirst : Bool} {acc : List α} {f : Fault}
    {s u : List Char} (hs : Opens s) (hr : r s = (.error f, u)) :
    elements r isFirst acc (comma isFirst ++ s) = (.error f, u) := by
  rw [elements, moreElements_opens isFirst hs]
  simp only [hr]

/-- Elements do not end with the text. -/
theorem elements_comma (r : Reader α) (isFirst : Bool) (acc : List α) :
    (∃ f t, elements r isFirst acc [] = (.error f, t)) ∧
      ∃ f t, elements r isFirst acc (comma isFirst) = (.error f, t) := by
  have hnil (isFirst : Bool) : elements r isFirst acc [] = (.error (.ahead .endInList []), []) := by
    rw [elements]
    rfl
  refine ⟨⟨_, _, hnil isFirst⟩, ?_⟩
  cases isFirst
  · refine ⟨.ahead .endInValue [], [], ?_⟩
    rw [elements]
    rfl
  · exact ⟨_, _, hnil true⟩

theorem elements_separated {as : List α} (h : ∀ a ∈ as, c.Faithful a ∧ Opens (c.write a))
    (rest : List Char) (isFirst : Bool) (acc : List α) :
    elements c.read isFirst acc (Record.separated isFirst (as.map c.write) ++ ']' :: rest) =
      (.ok (acc.reverse ++ as), ']' :: rest) := by
  induction as generalizing isFirst acc with
  | nil =>
    have hend : moreElements isFirst (']' :: rest) = (.ok false, ']' :: rest) := by
      rw [moreElements, skipBlanks_cons (by decide)]
      rfl
    rw [List.map_nil, Record.separated, List.nil_append, elements, hend, List.append_nil]
  | cons a as ih =>
    obtain ⟨ha, hopens⟩ := h a (by simp)
    have hread := ha.read_back _
      (Record.endsNumber_separated (.inr rfl) (as.map c.write) rest)
    have hpos := List.length_pos_iff.2 hopens.ne_nil
    rw [List.map_cons, separated_eq, List.append_assoc, List.append_assoc,
      elements_of_element (hopens.append _) hread (by simp only [List.length_append]; omega),
      ih (fun b hb => h b (by simp [hb]))]
    simp

theorem elements_of_cut {as : List α} (h : ∀ a ∈ as, c.Faithful a ∧ Opens (c.write a))
    (isFirst : Bool) (acc : List α) {p : List Char}
    (hp : IsCut p (Record.separated isFirst (as.map c.write) ++ [']'])) :
    ∃ f t, elements c.read isFirst acc p = (.error f, t) := by
  induction as generalizing isFirst acc p with
  | nil =>
    obtain rfl := eq_nil_of_isCut_singleton (c := ']') hp
    exact (elements_comma c.read isFirst acc).1
  | cons a as ih =>
    obtain ⟨ha, hopens⟩ := h a (by simp)
    rw [List.map_cons, separated_eq, List.append_assoc, List.append_assoc] at hp
    rcases hp.append with hp | ⟨q, rfl, hq⟩
    · -- The cut is before the comma, if there is one.
      have hnil : p = [] := by
        cases isFirst
        · exact eq_nil_of_isCut_singleton (c := ',') hp
        · exact absurd hp not_isCut_nil
      rw [hnil]
      exact (elements_comma c.read isFirst acc).1
    rcases hq.append with hq | ⟨u, rfl, hu⟩
    · -- The cut is inside the element: that is a fault, or the text ends with it.
      rcases hopens.of_cut hq with rfl | hopens'
      · rw [List.append_nil]
        exact (elements_comma c.read isFirst acc).2
      rcases ha.breaks_off q hq with ⟨f, t, hf⟩ | ⟨b, hb⟩
      · exact ⟨f, t, elements_of_fault hopens' hf⟩
      · rw [elements_of_element hopens' hb (List.length_pos_iff.2 hopens'.ne_nil)]
        exact (elements_comma c.read false (b :: acc)).1
    · have hread := ha.read_back u (Record.endsNumber_of_cut (.inr rfl) hu)
      have hpos := List.length_pos_iff.2 hopens.ne_nil
      rw [elements_of_element (hopens.append u) hread (by rw [List.length_append]; omega)]
      exact ih (fun b hb => h b (by simp [hb])) false (a :: acc) hu

/-- A list is read back if its elements are. -/
theorem faithful_list {as : List α} (h : ∀ a ∈ as, c.Faithful a ∧ Opens (c.write a)) :
    c.list.Faithful as where
  read_back rest _ := by
    have hw : c.list.write as ++ rest =
        '[' :: (Record.separated true (as.map c.write) ++ ']' :: rest) := by
      simp [list, Record.commaSeparated_eq]
    have hend : endArray (']' :: rest) = (.ok (), rest) := by
      rw [endArray, skipBlanks_cons (by decide)]
      rfl
    rw [hw]
    simp only [list, skipBlanks_cons (show isJsonBlank '[' = false by decide), enclosed, placing,
      elements_separated h rest true [], hend, List.reverse_nil, List.nil_append]
  breaks_off p hp := by
    have hw : c.list.write as = '[' :: (Record.separated true (as.map c.write) ++ [']']) := by
      simp [list, Record.commaSeparated_eq]
    rw [hw] at hp
    rcases isCut_cons hp with rfl | ⟨q, rfl, hq⟩
    · exact .inl ⟨_, _, rfl⟩
    · obtain ⟨f, t, hf⟩ := elements_of_cut h true [] hq
      refine .inl ?_
      simp only [list, skipBlanks_cons (show isJsonBlank '[' = false by decide), enclosed, placing,
        hf]
      exact ⟨_, _, rfl⟩
  visible ch hc := by
    simp only [list, Record.commaSeparated_eq, List.mem_cons, List.mem_append, List.not_mem_nil,
      or_false] at hc
    rcases hc with rfl | hc | rfl
    · decide
    · rcases Record.mem_separated hc with rfl | ⟨m, hm, hcm⟩
      · decide
      · obtain ⟨a, ha, rfl⟩ := List.mem_map.1 hm
        exact (h a ha).1.visible ch hcm
    · decide

end Codec

/-! ## A name with a value under it -/

namespace Choices

variable {α : Type} {c : Choices α} {name : String} {p : Codec α} {a : α}

/-- The reader of a choice, from after the object's opening brace. -/
theorem read_brace (c : Choices α) (s : List Char) :
    c.read ('{' :: '"' :: s) = (do
      let p ← c.name
      Fields.colon
      let a ← payload p
      endChoice
      pure a) s := by
  rw [Choices.read, skipBlanks_cons (by decide)]
  have hkey : openKey ('"' :: s) = (.ok (), s) := by
    rw [openKey, skipBlanks_cons (by decide)]
    rfl
  simp only [Reader.bind_apply (r := openKey), hkey]

theorem faithful_value (hlookup : c.options.lookup name = some (.value p.read))
    (hwrite : c.write a = '{' :: '"' :: (name.toList ++ '"' :: ':' :: (p.write a ++ ['}'])))
    (hname : ∀ ch ∈ name.toList, IsNameChar ch) (h : p.Faithful a) : c.codec.Faithful a where
  read_back rest _ := by
    have hback := h.read_back ('}' :: rest) (endsNumber_cons rest (by simp))
    have hend : endChoice ('}' :: rest) = (.ok (), rest) := by
      rw [endChoice, skipBlanks_cons (by decide)]
      rfl
    have hw : c.write a ++ rest =
        '{' :: '"' :: (name.toList ++ '"' :: ':' :: (p.write a ++ '}' :: rest)) := by
      simp [hwrite]
    change c.read (c.write a ++ rest) = _
    rw [hw, read_brace]
    simp only [Reader.bind_apply, name_of_lookup hlookup hname, Fields.colon_cons, payload, hback,
      hend, Reader.pure_apply]
  breaks_off t ht := by
    rw [show c.codec.write a = _ from hwrite] at ht
    change BreaksOff c.read t
    rcases isCut_cons ht with rfl | ⟨u, rfl, hu⟩
    · exact .inl ⟨_, _, rfl⟩
    rcases isCut_cons hu with rfl | ⟨v, rfl, hv⟩
    · exact .inl ⟨_, _, rfl⟩
    unfold BreaksOff
    rw [show name.toList ++ '"' :: ':' :: (p.write a ++ ['}']) =
      (name.toList ++ ['"']) ++ ':' :: (p.write a ++ ['}']) by simp] at hv
    rw [read_brace]
    rcases hv.append with hv | ⟨w, rfl, hw⟩
    · obtain ⟨f, r, hn⟩ := name_of_cut hname hv c
      exact .inl ⟨f, r, by simp [Reader.bind_apply, hn]⟩
    rw [List.append_assoc, List.singleton_append, Reader.bind_apply,
      name_of_lookup hlookup hname]
    rcases isCut_cons hw with rfl | ⟨x, rfl, hx⟩
    · exact .inl ⟨_, _, rfl⟩
    have hend (b : α) : BreaksOff (do endChoice; pure b) [] := .inl ⟨_, _, rfl⟩
    have hvalue : BreaksOff (do let b ← p.read; endChoice; pure b) x := by
      rcases hx.append with hx | ⟨y, rfl, hy⟩
      · exact (h.breaks_off x hx).bind hend
      · obtain rfl := eq_nil_of_isCut_singleton hy
        exact BreaksOff.bind (.inr ⟨a, h.read_back [] endsNumber_nil⟩) hend
    simpa only [BreaksOff, Reader.bind_apply (r := Fields.colon), Fields.colon_cons, payload]
      using hvalue
  visible ch hc := by
    rw [show c.codec.write a = _ from hwrite] at hc
    simp only [List.mem_cons, List.mem_append, List.not_mem_nil, or_false] at hc
    rcases hc with rfl | rfl | hc | rfl | rfl | hc | rfl
    · decide
    · decide
    · exact (hname ch hc).1
    · decide
    · decide
    · exact h.visible ch hc
    · decide

end Choices

end Standstill.Json
