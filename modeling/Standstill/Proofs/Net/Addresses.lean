import Mathlib
import Standstill.Net.Endpoint
import Standstill.Proofs.Json.Codecs
import Standstill.Proofs.Text.Digits

/-!
# Addresses read back

The texts of addresses and endpoints are read back as what they were written
for. An IPv4 address is four numerals. The text of an IPv6 address has one of
three forms: eight groups, groups around a gap that stands for a run of zero
groups, and the form of an address that wraps an IPv4 address. Before each
group a reader looks for an IPv4 address, which no group followed by a colon
begins.

Results:
* `Ipv4.readFrom_chars`, `Ipv4.parse?_text`: IPv4 addresses.
* `exists_longestZeroRun`: the run that is left out is a run of zero groups.
* `Ipv6.readFrom_chars`: IPv6 addresses, in each form.
* `Endpoint.parse?_text`: endpoints, with or without a scope.
-/
namespace Standstill

theorem expectChar_cons (c : Char) (s : List Char) : expectChar c (c :: s) = some s := by
  simp [expectChar]

theorem expectChar_ne {c d : Char} (h : c ≠ d) (s : List Char) : expectChar c (d :: s) = none := by
  simp [expectChar, h]

/-! ## IPv4 -/

namespace Ipv4

theorem readOctet_octetText (o : UInt8) {rest : List Char} (h : EndsDigits 10 rest) :
    readOctet (octetText o ++ rest) = some (o, rest) := by
  have ho := o.toNat_lt
  have hread := @NumeralForm.read_toDigits octetForm (by decide) (by decide) o.toNat ho
    (fun k hk => by
      obtain rfl : 3 = k := by simpa [octetForm] using hk
      exact ⟨by decide, by simp only [octetForm]; omega⟩) rest h
  unfold readOctet octetText
  rw [show Nat.toDigits 10 o.toNat = Nat.toDigits octetForm.radix o.toNat from rfl, hread]
  simp

theorem endsDigits_point (s : List Char) : EndsDigits 10 ('.' :: s) :=
  endsDigits_cons s (by decide)

/-- An address is read up to what comes after it, unless that goes on with a digit. -/
theorem readFrom_chars (ip : Ipv4) {rest : List Char} (h : EndsDigits 10 rest) :
    readFrom (ip.chars ++ rest) = some (ip, rest) := by
  unfold readFrom chars
  simp only [List.append_assoc, List.cons_append, readOctet_octetText _ (endsDigits_point _),
    readOctet_octetText _ h, expectChar_cons, Option.bind_eq_bind, Option.bind_some]

theorem parse?_text (ip : Ipv4) : parse? ip.text = some ip := by
  have h := readFrom_chars ip (@endsDigits_nil 10)
  rw [List.append_nil] at h
  simp [parse?, text, h]

/-- A row of characters without a point begins no address if none follows it. -/
theorem readFrom_eq_none {ds rest : List Char} (hds : '.' ∉ ds) (hrest : rest.head? ≠ some '.')
    (hends : EndsDigits 10 rest) : readFrom (ds ++ rest) = none := by
  have hpoint : expectChar '.' (spanDigits 10 (ds ++ rest)).2 = none := by
    induction ds with
    | nil =>
      rw [List.nil_append, spanDigits_of_ends hends]
      cases rest with
      | nil => rfl
      | cons c s => exact expectChar_ne (by simpa [eq_comm] using hrest) s
    | cons c ds ih =>
      simp only [List.mem_cons, not_or] at hds
      unfold spanDigits at ih ⊢
      by_cases hc : (digit? 10 c).isSome = true
      · simpa [List.dropWhile_cons, hc] using ih hds.2
      · simpa [List.dropWhile_cons, hc] using expectChar_ne hds.1 (ds ++ rest)
  unfold readFrom
  cases ho : readOctet (ds ++ rest) with
  | none => rfl
  | some r =>
    obtain ⟨v, hv, rfl⟩ := Option.map_eq_some_iff.1 ho
    have hrest' : v.2 = (spanDigits 10 (ds ++ rest)).2 := by
      unfold NumeralForm.read at hv
      simp only [Option.ite_none_left_eq_some, Option.some.injEq] at hv
      exact (congrArg Prod.snd hv.2).symm
    simp [hrest', hpoint]

end Ipv4

/-! ## IPv6 -/

namespace Ipv6

theorem point_notMem_groupText (g : UInt16) : '.' ∉ groupText g := by
  intro h
  obtain ⟨d, hd, he⟩ := exists_digitChar (by decide) h
  have hall : ∀ d < 16, Nat.digitChar d ≠ '.' := by decide
  exact hall d hd he.symm

/-- What may come after a group. -/
def Separates (rest : List Char) : Prop := ∃ c s, rest = c :: s ∧ (c = ':' ∨ c = ']' ∨ c = '%')

theorem Separates.endsDigits {rest : List Char} (h : Separates rest) :
    EndsDigits 16 rest ∧ EndsDigits 10 rest ∧ rest.head? ≠ some '.' := by
  obtain ⟨c, s, rfl, hc⟩ := h
  rcases hc with rfl | rfl | rfl <;>
    exact ⟨endsDigits_cons s (by decide), endsDigits_cons s (by decide), by simp⟩

/-- A group is read, and no IPv4 address in its place. -/
theorem read_groupText (g : UInt16) {rest : List Char} (h : Separates rest) :
    groupForm.read (groupText g ++ rest) = some (g.toNat, rest) ∧
      Ipv4.readFrom (groupText g ++ rest) = none := by
  obtain ⟨h16, h10, hpoint⟩ := h.endsDigits
  have hg := g.toNat_lt
  refine ⟨?_, Ipv4.readFrom_eq_none (point_notMem_groupText g) hpoint h10⟩
  refine @NumeralForm.read_toDigits groupForm (by decide) (by decide) g.toNat hg
    (fun k hk => ?_) rest h16
  obtain rfl : 4 = k := by simpa [groupForm] using hk
  exact ⟨by decide, by simp only [groupForm]; omega⟩

theorem readGroups_group {room : Nat} {isFirst : Bool} {s rest : List Char} {g : UInt16}
    (hs : afterColon isFirst s = some (groupText g ++ rest)) (h : Separates rest) :
    readGroups (room + 1) isFirst s =
      (g :: (readGroups room false rest).1, (readGroups room false rest).2) := by
  obtain ⟨hread, hnone⟩ := read_groupText g h
  have hv4 : (if 0 < room then (afterColon isFirst s).bind Ipv4.readFrom else none) = none := by
    rw [hs, Option.bind_some, hnone]
    split <;> rfl
  have hgroup : (afterColon isFirst s).bind groupForm.read = some (g.toNat, rest) := by
    rw [hs, Option.bind_some, hread]
  rw [readGroups, hv4]
  simp [hgroup]

/-- Where no group follows, no group is read. -/
theorem readGroups_none {room : Nat} {isFirst : Bool} {s : List Char}
    (hv4 : (afterColon isFirst s).bind Ipv4.readFrom = none)
    (h : (afterColon isFirst s).bind groupForm.read = none) :
    readGroups room isFirst s = ([], false, s) := by
  cases room with
  | zero => rfl
  | succ room =>
    rw [readGroups, hv4, h]
    simp

/-- What may come after the last group of a row. -/
inductive EndsGroups : List Char → Prop
  | bracket (s : List Char) : EndsGroups (']' :: s)
  | scope (s : List Char) : EndsGroups ('%' :: s)
  | gap (s : List Char) : EndsGroups (':' :: ':' :: s)

theorem EndsGroups.separates {rest : List Char} (h : EndsGroups rest) : Separates rest := by
  cases h with
  | bracket s => exact ⟨']', s, rfl, by simp⟩
  | scope s => exact ⟨'%', s, rfl, by simp⟩
  | gap s => exact ⟨':', ':' :: s, rfl, by simp⟩

theorem readNothing_of_separates {rest : List Char} (h : Separates rest) :
    Ipv4.readFrom rest = none ∧ groupForm.read rest = none := by
  obtain ⟨h16, h10, hpoint⟩ := h.endsDigits
  refine ⟨@Ipv4.readFrom_eq_none [] rest (by simp) hpoint h10, ?_⟩
  unfold NumeralForm.read
  rw [show groupForm.radix = 16 from rfl, spanDigits_of_ends h16]
  simp

theorem EndsGroups.readGroups {rest : List Char} (h : EndsGroups rest) (room : Nat)
    (isFirst : Bool) : readGroups room isFirst rest = ([], false, rest) := by
  obtain ⟨hv4, hgroup⟩ := readNothing_of_separates h.separates
  cases isFirst with
  | true => exact readGroups_none hv4 hgroup
  | false =>
    cases h with
    | bracket s => exact readGroups_none rfl rfl
    | scope s => exact readGroups_none rfl rfl
    | gap s =>
      have hcolon : afterColon false (':' :: ':' :: s) = some (':' :: s) := expectChar_cons ':' _
      obtain ⟨hv4, hgroup⟩ := readNothing_of_separates ⟨':', s, rfl, by simp⟩
      exact readGroups_none (by rw [hcolon]; exact hv4) (by rw [hcolon]; exact hgroup)

/-- Groups with a colon before each. -/
def laterText (gs : List UInt16) : List Char := gs.flatMap fun g => ':' :: groupText g

theorem groupsText_cons (g : UInt16) (gs : List UInt16) :
    groupsText (g :: gs) = groupText g ++ laterText gs := by
  induction gs generalizing g with
  | nil => simp [groupsText, laterText]
  | cons h gs ih => simp [groupsText, laterText, ih]

theorem separates_laterText (gs : List UInt16) {rest : List Char} (h : EndsGroups rest) :
    Separates (laterText gs ++ rest) := by
  cases gs with
  | nil => exact h.separates
  | cons g gs => exact ⟨':', groupText g ++ laterText gs ++ rest, by simp [laterText], by simp⟩

theorem readGroups_laterText {gs : List UInt16} {room : Nat} (hroom : gs.length ≤ room)
    {rest : List Char} (h : EndsGroups rest) :
    readGroups room false (laterText gs ++ rest) = (gs, false, rest) := by
  induction gs generalizing room with
  | nil => exact h.readGroups room false
  | cons g gs ih =>
    rw [List.length_cons] at hroom
    obtain ⟨n, rfl⟩ : ∃ n, room = n + 1 := ⟨room - 1, by omega⟩
    have hs : afterColon false (laterText (g :: gs) ++ rest) =
        some (groupText g ++ (laterText gs ++ rest)) := by
      simp [afterColon, laterText, expectChar_cons]
    rw [readGroups_group hs (separates_laterText gs h), ih (by omega)]

/-- A row of groups is read to its end if there is room for it. -/
theorem readGroups_groupsText {gs : List UInt16} {room : Nat} (hroom : gs.length ≤ room)
    {rest : List Char} (h : EndsGroups rest) :
    readGroups room true (groupsText gs ++ rest) = (gs, false, rest) := by
  cases gs with
  | nil => exact h.readGroups room true
  | cons g gs =>
    rw [List.length_cons] at hroom
    obtain ⟨n, rfl⟩ : ∃ n, room = n + 1 := ⟨room - 1, by omega⟩
    have hs : afterColon true (groupsText (g :: gs) ++ rest) =
        some (groupText g ++ (laterText gs ++ rest)) := by
      rw [groupsText_cons, List.append_assoc]
      rfl
    rw [readGroups_group hs (separates_laterText gs h), readGroups_laterText (by omega) h]

/-! ### The gap -/

theorem leadingZeros_eq (gs : List UInt16) :
    gs = List.replicate (leadingZeros gs) 0 ++ gs.drop (leadingZeros gs) := by
  have hzeros : gs.takeWhile (· == 0) = List.replicate (leadingZeros gs) 0 := by
    refine List.eq_replicate_iff.2 ⟨rfl, ?_⟩
    intro g hg
    simpa using List.mem_takeWhile_imp hg
  have hsplit := List.takeWhile_append_dropWhile (p := (· == 0)) (l := gs)
  have hrest : gs.drop (leadingZeros gs) = gs.dropWhile (· == 0) := by
    have hdrop : (gs.takeWhile (· == 0) ++ gs.dropWhile (· == 0)).drop (leadingZeros gs) =
        gs.dropWhile (· == 0) := List.drop_left' rfl
    rwa [hsplit] at hdrop
  rw [hrest, ← hzeros, hsplit]

/-- What is found as the longest run is a run of zeros. -/
theorem exists_longestZeroRun {gs : List UInt16} {i start length : Nat}
    (h : longestZeroRun i gs = (start, length)) (hpos : 0 < length) :
    ∃ front back, gs = front ++ (List.replicate length 0 ++ back) ∧ front.length + i = start := by
  induction gs generalizing i start length with
  | nil =>
    obtain ⟨-, rfl⟩ := Prod.mk.inj h
    omega
  | cons g gs ih =>
    unfold longestZeroRun at h
    cases hlater : longestZeroRun (i + 1) gs with
    | mk s l =>
      simp only [hlater] at h
      split at h
      · obtain ⟨rfl, rfl⟩ := Prod.mk.inj h
        exact ⟨[], _, leadingZeros_eq (g :: gs), by simp⟩
      · obtain ⟨rfl, rfl⟩ := Prod.mk.inj h
        obtain ⟨front, back, hgs, hstart⟩ := ih hlater hpos
        exact ⟨g :: front, back, by rw [hgs]; rfl, by rw [List.length_cons]; omega⟩

/-! ### Whole addresses -/

section Whole

variable {rest : List Char}

/-- Eight groups. -/
theorem readFrom_groups {ip : Ipv6} (h : EndsGroups rest) :
    readFrom (groupsText ip.groups ++ rest) = some (ip, rest) := by
  have hread := readGroups_groupsText ip.length_eq.le h
  unfold readFrom
  simp [hread, ip.length_eq]

/-- Groups around a gap, which stands for at least one group. -/
theorem readFrom_gap {ip : Ipv6} {front back : List UInt16} {zeros : Nat} (hzeros : 0 < zeros)
    (hip : ip.groups = front ++ (List.replicate zeros 0 ++ back)) (h : EndsGroups rest) :
    readFrom (groupsText front ++ ':' :: ':' :: (groupsText back ++ rest)) = some (ip, rest) := by
  have hlen := ip.length_eq
  rw [hip] at hlen
  simp only [List.length_append, List.length_replicate] at hlen
  have hfront := @readGroups_groupsText front 8 (by omega) _
    (.gap (groupsText back ++ rest))
  have hback := @readGroups_groupsText back (7 - front.length) (by omega) rest h
  have hjoined : joined? front back = some ip := by
    have hgap : 8 - front.length - back.length = zeros := by omega
    unfold joined?
    simp only [hgap, ← hip, ip.length_eq, ↓reduceDIte]
  unfold readFrom
  simp only [hfront, expectChar_cons, Option.bind_eq_bind, Option.bind_some, hback, hjoined,
    Bool.false_eq_true, ↓reduceIte]
  rw [dif_neg (by omega)]

theorem toUInt8_shiftRight (g : UInt16) :
    (g >>> 8).toUInt8.toUInt16 * 256 + g.toUInt8.toUInt16 = g := by
  have hg := g.toNat_lt
  apply UInt16.toNat_inj.1
  simp only [UInt16.toNat_add, UInt16.toNat_mul, UInt8.toNat_toUInt16, UInt16.toNat_toUInt8,
    UInt16.toNat_shiftRight, Nat.shiftRight_eq_div_pow]
  simp
  omega

/-- An IPv4 address takes the place of two groups. -/
theorem readGroups_embedded {room : Nat} (hroom : 1 < room) (v4 : Ipv4)
    (h : EndsDigits 10 rest) :
    readGroups room false (':' :: (v4.chars ++ rest)) = (groupsOf v4, true, rest) := by
  obtain ⟨n, rfl⟩ : ∃ n, room = n + 1 := ⟨room - 1, by omega⟩
  have hv4 : (afterColon false (':' :: (v4.chars ++ rest))).bind Ipv4.readFrom =
      some (v4, rest) := by
    simp [afterColon, expectChar_cons, Ipv4.readFrom_chars v4 h]
  rw [readGroups, if_pos (by omega), hv4]

/-- An address that wraps an IPv4 address: a gap, one group and that address. -/
theorem readFrom_wrapped {ip : Ipv6} {v4 : Ipv4} (hip : ip.wrapped? = some v4)
    (h : EndsGroups rest) :
    readFrom ("::ffff:".toList ++ v4.chars ++ rest) = some (ip, rest) := by
  have hfront := (EndsGroups.gap (groupText 0xffff ++ ':' :: (v4.chars ++ rest))).readGroups 8 true
  have hv4 := readGroups_embedded (show 1 < 6 by decide) v4 h.separates.endsDigits.2.1
  have hback := @readGroups_group 6 true (groupText 0xffff ++ ':' :: (v4.chars ++ rest)) _ _ rfl
    ⟨':', _, rfl, by simp⟩
  rw [hv4] at hback
  have hjoined : joined? [] (0xffff :: groupsOf v4) = some ip := by
    obtain ⟨groups, hlen⟩ := ip
    unfold wrapped? at hip
    split at hip
    · next g k hgroups =>
      simp only at hgroups
      subst hgroups
      obtain rfl := Option.some.inj hip
      simp only [groupsOf, toUInt8_shiftRight]
      rfl
    · cases hip
  have htext : "::ffff:".toList ++ v4.chars ++ rest =
      ':' :: ':' :: (groupText 0xffff ++ ':' :: (v4.chars ++ rest)) := by
    rw [List.append_assoc]
    rfl
  rw [htext]
  unfold readFrom
  simp only [hfront, expectChar_cons, Option.bind_eq_bind, Option.bind_some, List.length_nil,
    Nat.sub_zero, hback, hjoined, Bool.false_eq_true, ↓reduceIte]
  rfl

/-- An address is read in the form it is written in. -/
theorem readFrom_chars (ip : Ipv6) (h : EndsGroups rest) :
    readFrom (ip.chars ++ rest) = some (ip, rest) := by
  unfold chars
  cases hip : ip.wrapped? with
  | some v4 => exact readFrom_wrapped hip h
  | none =>
    cases hrun : longestZeroRun 0 ip.groups with
    | mk start length =>
      simp only
      split
      · next hlong =>
        obtain ⟨front, back, hgroups, rfl⟩ := exists_longestZeroRun hrun (by omega)
        have hfront : ip.groups.take (front.length + 0) = front := by simp [hgroups]
        have hback : ip.groups.drop (front.length + 0 + length) = back := by
          simp [hgroups, ← List.drop_drop]
        rw [hfront, hback, List.append_assoc]
        exact readFrom_gap (by omega) hgroups h
      · exact readFrom_groups h

end Whole

end Ipv6

/-! ## Endpoints -/

namespace Endpoint

theorem readPort_portText (p : UInt16) {rest : List Char} (h : EndsDigits 10 rest) :
    readPort (portText p ++ rest) = some (p, rest) := by
  have hread := @NumeralForm.read_toDigits portForm (by decide) (by decide) p.toNat p.toNat_lt
    nofun rest h
  unfold readPort portText
  rw [List.cons_append, expectChar_cons, show (10 : Nat) = portForm.radix from rfl]
  simp [hread]

/-- The scope is read up to the bracket, also if it is left out. -/
theorem readScope_scopeText (scope : UInt32) (s : List Char) :
    readScope (scopeText scope ++ ']' :: s) = (scope, ']' :: s) := by
  by_cases h0 : scope = 0
  · subst h0
    simp [scopeText, readScope, expectChar]
  · have hread := @NumeralForm.read_toDigits scopeForm (by decide) (by decide) scope.toNat
      scope.toNat_lt nofun (']' :: s) (endsDigits_cons s (by decide))
    unfold readScope scopeText
    rw [if_neg h0, List.cons_append, expectChar_cons, Option.bind_some,
      show (10 : Nat) = scopeForm.radix from rfl, hread]
    simp

theorem endsGroups_scopeText (scope : UInt32) (s : List Char) :
    Ipv6.EndsGroups (scopeText scope ++ ']' :: s) := by
  unfold scopeText
  split
  · exact .bracket s
  · exact .scope _

theorem parse?_text (e : Endpoint) : parse? e.text = some e := by
  have hend : EndsDigits 10 [] := endsDigits_nil
  cases e with
  | v4 ip p =>
    have hport := readPort_portText p hend
    have hcolon : EndsDigits 10 (portText p) := endsDigits_cons _ (by decide)
    rw [List.append_nil] at hport
    simp [parse?, text, chars, readV4, Ipv4.readFrom_chars ip hcolon, hport]
  | v6 ip scope p =>
    have hport := readPort_portText p hend
    rw [List.append_nil] at hport
    have hv4 : readV4 (v6 ip scope p).chars = none := rfl
    have hv6 : readV6 (v6 ip scope p).chars = some (v6 ip scope p, []) := by
      unfold readV6 chars
      simp [expectChar_cons, Ipv6.readFrom_chars ip (endsGroups_scopeText scope _),
        readScope_scopeText, hport]
    simp [parse?, text, hv4, hv6]

-- The first of the longest runs of zeros is the one left out.
example : text (.v6 ⟨[0x2001, 0, 0, 1, 0, 0, 0xff, 1], rfl⟩ 7 443) =
    "[2001::1:0:0:ff:1%7]:443" := by cbv

end Endpoint

/-! ## Characters -/

open Json (IsNameChar)

/-- Digits are visible, and none of them is a quote or a backslash. -/
theorem isNameChar_of_mem_toDigits {radix : Nat} (h1 : 1 < radix) (h16 : radix ≤ 16) {n : Nat}
    {c : Char} (h : c ∈ Nat.toDigits radix n) : IsNameChar c := by
  have hall : ∀ d < 16, IsNameChar (Nat.digitChar d) := by decide
  obtain ⟨d, hd, rfl⟩ := exists_digitChar h1 h
  exact hall d (by omega)

theorem Ipv4.isNameChar_of_mem_chars {ip : Ipv4} {c : Char} (h : c ∈ ip.chars) :
    IsNameChar c := by
  have hoctet (o : UInt8) (hc : c ∈ octetText o) := isNameChar_of_mem_toDigits (by decide)
    (by decide) hc
  simp only [chars, List.mem_append, List.mem_cons] at h
  rcases h with h | rfl | h | rfl | h | rfl | h
  · exact hoctet _ h
  · decide
  · exact hoctet _ h
  · decide
  · exact hoctet _ h
  · decide
  · exact hoctet _ h

theorem Ipv6.isNameChar_of_mem_groupsText {gs : List UInt16} {c : Char} (h : c ∈ groupsText gs) :
    IsNameChar c := by
  have hgroup (g : UInt16) (hc : c ∈ groupText g) := isNameChar_of_mem_toDigits (by decide)
    (by decide) hc
  cases gs with
  | nil => simp [groupsText] at h
  | cons g gs =>
    rw [groupsText_cons] at h
    rcases List.mem_append.1 h with h | h
    · exact hgroup g h
    · obtain ⟨k, -, hk⟩ := List.mem_flatMap.1 h
      rcases List.mem_cons.1 hk with rfl | hk
      · decide
      · exact hgroup k hk

theorem Ipv6.isNameChar_of_mem_chars {ip : Ipv6} {c : Char} (h : c ∈ ip.chars) :
    IsNameChar c := by
  unfold chars at h
  split at h
  · rcases List.mem_append.1 h with h | h
    · obtain rfl | rfl : c = ':' ∨ c = 'f' := by
        simp at h
        tauto
      · decide
      · decide
    · exact Ipv4.isNameChar_of_mem_chars h
  · simp only at h
    split at h
    · simp only [List.mem_append, List.mem_cons] at h
      rcases h with h | rfl | rfl | h
      · exact isNameChar_of_mem_groupsText h
      · decide
      · decide
      · exact isNameChar_of_mem_groupsText h
    · exact isNameChar_of_mem_groupsText h

theorem Endpoint.isNameChar_of_mem_chars {e : Endpoint} {c : Char} (h : c ∈ e.chars) :
    IsNameChar c := by
  have hport (p : UInt16) (hc : c ∈ portText p) : IsNameChar c := by
    rcases List.mem_cons.1 hc with rfl | hc
    · decide
    · exact isNameChar_of_mem_toDigits (by decide) (by decide) hc
  cases e with
  | v4 ip p =>
    rcases List.mem_append.1 h with h | h
    · exact Ipv4.isNameChar_of_mem_chars h
    · exact hport p h
  | v6 ip scope p =>
    simp only [chars, List.mem_cons, List.mem_append] at h
    rcases h with rfl | (h | h) | rfl | h
    · decide
    · exact Ipv6.isNameChar_of_mem_chars h
    · unfold scopeText at h
      split at h
      · cases h
      · rcases List.mem_cons.1 h with rfl | h
        · decide
        · exact isNameChar_of_mem_toDigits (by decide) (by decide) h
    · decide
    · exact hport p h

end Standstill
