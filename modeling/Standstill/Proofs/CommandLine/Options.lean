import Mathlib
import Standstill.CommandLine.Parse
import Standstill.Proofs.Text.Digits

/-!
# Options as they are given

A command line is a row of options, each of them a flag or one with a value, and
a value stands behind an equals sign or is the next argument. In the second case
it is examined late, at the next option or at the end, but all goes on as if it
had been examined at once. A row of options of a program, none of them twice,
therefore changes the settings option by option, in either spelling, and is
refused only if one of them lacks another. Integers are read back from their
decimals.

Results:
* `port_decimal`, `count_decimal`, `size_decimal`: the values read back.
* `readFrom_of_take`: a value that is examined late.
* `readFrom_given`, `parse_givens`: one option, and a whole command line.
* `finish_eq`: the end of a command line, by what its options lack.
-/
namespace Standstill.CommandLine

/-! ## Values -/

/-- A number in decimal, with some zeros before its digits. -/
def decimal (zeros n : Nat) : String :=
  String.ofList (List.replicate zeros '0' ++ Nat.toDigits 10 n)

theorem decimal_zero (n : Nat) : decimal 0 n = toString n :=
  Nat.toString_eq_ofList_toDigits.symm

theorem toList_decimal (zeros n : Nat) :
    (decimal zeros n).toList = List.replicate zeros '0' ++ Nat.toDigits 10 n :=
  String.toList_ofList

theorem exists_toDigits_eq (n : Nat) : ∃ c s, Nat.toDigits 10 n = c :: s ∧ c.isDigit = true := by
  obtain ⟨c, s, hs⟩ := List.exists_cons_of_ne_nil (Nat.toDigits_ne_nil (b := 10) (n := n))
  have hc : c ∈ Nat.toDigits 10 n := by simp [hs]
  exact ⟨c, s, hs, Nat.isDigit_of_mem_toDigits (by decide) (by decide) hc⟩

/-- A decimal is a digit and what is left of it. -/
theorem exists_toList_decimal_eq (zeros n : Nat) :
    ∃ c s, (decimal zeros n).toList = c :: s ∧ c.isDigit = true := by
  rw [toList_decimal]
  cases zeros with
  | zero => exact exists_toDigits_eq n
  | succ zeros => exact ⟨'0', _, rfl, rfl⟩

section Decimals
variable {limit n : Nat} (beyond : IntegerFault) (zeros : Nat)

theorem readDigits_zeros (s : List Char) :
    readDigits limit beyond 0 (List.replicate zeros '0' ++ s) = readDigits limit beyond 0 s := by
  induction zeros with
  | zero => rfl
  | succ zeros ih =>
    have hzero : '0'.isDigit = true ∧ '0'.toNat - '0'.toNat = 0 := by decide
    rw [List.replicate_succ, List.cons_append, readDigits]
    simpa [hzero] using ih

theorem readNatural_decimal (h : n ≤ limit) :
    readNatural limit beyond (decimal zeros n).toList = .ok n := by
  have hread : readDigits limit beyond 0 (decimal zeros n).toList = .ok n := by
    rw [toList_decimal, readDigits_zeros, readDigits_toDigits beyond h]
  obtain ⟨c, s, hs, -⟩ := exists_toList_decimal_eq zeros n
  rw [hs] at hread ⊢
  exact hread

theorem readUnsigned_decimal (h : n ≤ limit) : readUnsigned limit (decimal zeros n) = .ok n := by
  have hread := readNatural_decimal .tooLarge zeros h
  obtain ⟨c, s, hs, hc⟩ := exists_toList_decimal_eq zeros n
  have hplus : c ≠ '+' := by
    rintro rfl
    cases hc
  rw [readUnsigned, hs]
  rw [hs] at hread
  split
  · next heq => cases heq
  · next heq => exact absurd (List.cons.inj heq).1 hplus
  · exact hread

theorem readSigned_decimal (h : n ≤ largestSigned) :
    readSigned (decimal zeros n) = .ok (n : Int) := by
  have hread := readNatural_decimal .tooLarge zeros h
  obtain ⟨c, s, hs, hc⟩ := exists_toList_decimal_eq zeros n
  have hsign : c ≠ '+' ∧ c ≠ '-' := by
    constructor <;> rintro rfl <;> cases hc
  rw [readSigned, hs]
  rw [hs] at hread
  split
  · next heq => cases heq
  · next heq => exact absurd (List.cons.inj heq).1 hsign.1
  · next heq => exact absurd (List.cons.inj heq).1 hsign.2
  · rw [hread]
    rfl

theorem ranged_decimal {last : Nat} (h : n ≤ last) (hlast : last ≤ largestSigned) :
    ranged last (decimal zeros n) = .ok n := by
  have hrange : 0 ≤ (n : Int) ∧ (n : Int) ≤ last := by omega
  simp only [ranged, readSigned_decimal zeros (h.trans hlast), hrange, and_self, ↓reduceIte,
    Int.toNat_natCast]

theorem port_decimal (p : UInt16) : port (decimal zeros p.toNat) = .ok p := by
  have hp : p.toNat ≤ UInt16.size - 1 := Nat.le_pred_of_lt p.toNat_lt
  rw [port, ranged_decimal zeros hp (by decide), Except.map, UInt16.ofNat_toNat]

theorem count_decimal (n : UInt32) : count (decimal zeros n.toNat) = .ok n := by
  have hn : n.toNat ≤ UInt32.size - 1 := Nat.le_pred_of_lt n.toNat_lt
  rw [count, ranged_decimal zeros hn (by decide), Except.map, UInt32.ofNat_toNat]

theorem size_decimal (n : UInt64) : size (decimal zeros n.toNat) = .ok n := by
  have hn : n.toNat ≤ UInt64.size - 1 := Nat.le_pred_of_lt n.toNat_lt
  simp only [size, readUnsigned_decimal zeros hn, UInt64.ofNat_toNat]

end Decimals

/-! ## Arguments -/

/-- A text that does not look like an option. -/
def IsPlain (s : String) : Prop := s.toList.head? ≠ some '-'

instance (s : String) : Decidable (IsPlain s) := inferInstanceAs (Decidable (_ ≠ _))

/-- What may name an option: not nothing, without an equals sign and none of the flags that
every program has. -/
structure IsName (name : String) : Prop where
  ne_empty : name.toList ≠ []
  noEquals : '=' ∉ name.toList
  noStop : stop? name = none

instance (name : String) : Decidable (IsName name) :=
  decidable_of_iff (name.toList ≠ [] ∧ '=' ∉ name.toList ∧ stop? name = none)
    ⟨fun h => ⟨h.1, h.2.1, h.2.2⟩, fun h => ⟨h.ne_empty, h.noEquals, h.noStop⟩⟩

theorem IsPlain.of_digit {s : String} {c : Char} (hs : s.toList.head? = some c)
    (hc : c.isDigit = true) : IsPlain s := by
  rw [IsPlain, hs]
  rintro ⟨⟩
  cases hc

theorem isPlain_decimal (zeros n : Nat) : IsPlain (decimal zeros n) := by
  obtain ⟨c, s, hs, hc⟩ := exists_toList_decimal_eq zeros n
  exact .of_digit (by rw [hs, List.head?_cons]) hc

theorem Word.of_plain {s : String} (h : IsPlain s) : Word.of s = .plain s := by
  unfold Word.of
  unfold IsPlain at h
  split <;> simp_all

theorem splitValue_name {name : String} (h : '=' ∉ name.toList) :
    splitValue name.toList = (name, none) := by
  have hall : ∀ c ∈ name.toList, (c != '=') = true :=
    fun c hc => bne_iff_ne.2 (ne_of_mem_of_not_mem hc h)
  unfold splitValue
  rw [List.takeWhile_eq_self_iff.2 hall, List.dropWhile_eq_nil_iff.2 hall, String.ofList_toList]

theorem splitValue_joined {name : String} (h : '=' ∉ name.toList) (value : String) :
    splitValue (name.toList ++ '=' :: value.toList) = (name, some value) := by
  have hall : ∀ c ∈ name.toList, (c != '=') = true :=
    fun c hc => bne_iff_ne.2 (ne_of_mem_of_not_mem hc h)
  unfold splitValue
  rw [List.takeWhile_append_of_pos hall, List.dropWhile_append_of_pos hall]
  simp

/-- Two hyphens and what comes behind them, unless that is nothing. -/
theorem Word.of_hyphens {s : List Char} (h : s ≠ []) {name : String} {value : Option String}
    (hs : splitValue s = (name, value)) :
    Word.of (String.ofList ('-' :: '-' :: s)) = .long name value := by
  unfold Word.of
  rw [String.toList_ofList]
  cases s with
  | nil => exact absurd rfl h
  | cons c s => simp only [hs]

theorem Word.of_name {name : String} (h : IsName name) :
    Word.of ("--" ++ name) = .long name none := by
  have htext : "--" ++ name = String.ofList ('-' :: '-' :: name.toList) := by
    rw [← String.toList_inj]
    simp
  rw [htext, Word.of_hyphens h.ne_empty (splitValue_name h.noEquals)]

theorem Word.of_joined {name : String} (h : IsName name) (value : String) :
    Word.of ("--" ++ name ++ "=" ++ value) = .long name (some value) := by
  have htext : "--" ++ name ++ "=" ++ value =
      String.ofList ('-' :: '-' :: (name.toList ++ '=' :: value.toList)) := by
    rw [← String.toList_inj]
    simp
  rw [htext, Word.of_hyphens (by simp) (splitValue_joined h.noEquals value)]

/-- An option as it stands on a command line. -/
inductive Given
  | flag (name : String)
  /-- With the value as the next argument. -/
  | spaced (name value : String)
  /-- With the value behind an equals sign. -/
  | joined (name value : String)
deriving Repr, DecidableEq

namespace Given

def name : Given → String
  | .flag n | .spaced n _ | .joined n _ => n

def arguments : Given → List String
  | .flag n => ["--" ++ n]
  | .spaced n v => ["--" ++ n, v]
  | .joined n v => ["--" ++ n ++ "=" ++ v]

end Given

variable {α : Type} {program : Program α}

theorem name_of_find? {name : String} {o : Opt α} (h : program.find? name = some o) :
    o.name = name := by simpa using List.find?_some h

/-- What a given option does to the settings of a program that has it. -/
inductive Program.Sets (program : Program α) : Given → (α → α) → Prop
  | flag {name : String} {o : Opt α} {set : α → α} (hname : IsName name)
      (hfind : program.find? name = some o) (heffect : o.effect = .flag set) :
      Sets program (.flag name) set
  | spaced {name value : String} {o : Opt α} {read : String → Except Refusal (α → α)} {set : α → α}
      (hname : IsName name) (hfind : program.find? name = some o)
      (heffect : o.effect = .value read) (hread : read value = .ok set) (hplain : IsPlain value) :
      Sets program (.spaced name value) set
  | joined {name value : String} {o : Opt α} {read : String → Except Refusal (α → α)} {set : α → α}
      (hname : IsName name) (hfind : program.find? name = some o)
      (heffect : o.effect = .value read) (hread : read value = .ok set) :
      Sets program (.joined name value) set

/-! ## Reading them -/

section Take
variable {s : α} {given : List String} {o : Opt α} {set : α → α}

theorem take_flag (heffect : o.effect = .flag set) (hnew : o.name ∉ given) :
    (⟨s, given, none⟩ : Progress α).take o none = .ok ⟨set s, o.name :: given, none⟩ := by
  simp [Progress.take, heffect, hnew]

theorem take_value {read : String → Except Refusal (α → α)} {value : String}
    (heffect : o.effect = .value read) (hread : read value = .ok set) (hnew : o.name ∉ given) :
    (⟨s, given, none⟩ : Progress α).take o (some value) = .ok ⟨set s, o.name :: given, none⟩ := by
  simp [Progress.take, heffect, hread, hnew]

/-- A value that waits to be examined is no other than one that has been: an option that comes
next examines it first, and anything else is refused in either case. -/
theorem step_of_take {value : String} {q : Progress α} (hq : q.pending = none)
    (htake : (⟨s, given, none⟩ : Progress α).take o (some value) = .ok q) {argument : String}
    (hword : Word.of argument ≠ .separator) :
    step program ⟨s, given, some (o, some value)⟩ argument = step program q argument := by
  have hlate : (⟨s, given, some (o, some value)⟩ : Progress α).resolve = .ok q := htake
  have hnone : q.resolve = .ok q := by simp [Progress.resolve, hq]
  unfold step
  split
  · next h => exact absurd h hword
  · simp only [Progress.next, Progress.await, hlate, hnone]
  · simp only [hlate, hnone]
  · simp only [hq]

theorem finish_of_take {value : String} {q : Progress α} (hq : q.pending = none)
    (htake : (⟨s, given, none⟩ : Progress α).take o (some value) = .ok q) :
    finish program ⟨s, given, some (o, some value)⟩ = finish program q := by
  have hlate : (⟨s, given, some (o, some value)⟩ : Progress α).resolve = .ok q := htake
  have hnone : q.resolve = .ok q := by simp [Progress.resolve, hq]
  simp only [finish, hlate, hnone]

theorem readFrom_of_take {value : String} {q : Progress α} (hq : q.pending = none)
    (htake : (⟨s, given, none⟩ : Progress α).take o (some value) = .ok q)
    (arguments : List String) :
    readFrom program ⟨s, given, some (o, some value)⟩ arguments =
      readFrom program q arguments := by
  cases arguments with
  | nil => exact finish_of_take hq htake
  | cons a rest =>
    unfold readFrom
    split
    · cases rest with
      | nil => exact finish_of_take hq htake
      | cons b rest => rfl
    · next hword => rw [step_of_take hq htake hword]

end Take

/-- Reading goes on behind an argument that is taken. -/
theorem readFrom_cons {p q : Progress α} {argument : String}
    (hword : Word.of argument ≠ .separator) (hstep : step program p argument = .ok q)
    (rest : List String) : readFrom program p (argument :: rest) = readFrom program q rest := by
  simp only [readFrom, hword, ↓reduceIte, hstep]

theorem readFrom_given {g : Given} {set : α → α} (h : program.Sets g set) {s : α}
    {given : List String} (hnew : g.name ∉ given) (rest : List String) :
    readFrom program ⟨s, given, none⟩ (g.arguments ++ rest) =
      readFrom program ⟨set s, g.name :: given, none⟩ rest := by
  cases h with
  | @flag name o _ hname hfind heffect =>
    obtain rfl := name_of_find? hfind
    have hword := Word.of_name hname
    have htakes : o.takesValue = false := by simp [Opt.takesValue, heffect]
    refine readFrom_cons (by simp [hword]) ?_ rest
    simp only [step, hword, hname.noStop, hfind, htakes, Progress.next, Progress.resolve]
    exact congrArg orStop (take_flag heffect hnew)
  | @spaced name value o read _ hname hfind heffect hread hplain =>
    obtain rfl := name_of_find? hfind
    have hword := Word.of_name hname
    have htakes : o.takesValue = true := by simp [Opt.takesValue, heffect]
    have hawait : step program ⟨s, given, none⟩ ("--" ++ o.name) =
        .ok ⟨s, given, some (o, none)⟩ := by
      simp only [step, hword, hname.noStop, hfind, htakes, Progress.await, Progress.resolve]
      rfl
    have hvalue : step program ⟨s, given, some (o, none)⟩ value =
        .ok ⟨s, given, some (o, some value)⟩ := by
      simp only [step, Word.of_plain hplain]
    change readFrom program _ (("--" ++ o.name) :: value :: rest) = _
    rw [readFrom_cons (by simp [hword]) hawait,
      readFrom_cons (by simp [Word.of_plain hplain]) hvalue]
    exact readFrom_of_take rfl (take_value heffect hread hnew) rest
  | @joined name value o read _ hname hfind heffect hread =>
    obtain rfl := name_of_find? hfind
    have hword := Word.of_joined hname value
    have htakes : o.takesValue = true := by simp [Opt.takesValue, heffect]
    refine readFrom_cons (by simp [hword]) ?_ rest
    simp only [step, hword, hname.noStop, hfind, htakes, Progress.next, Progress.resolve]
    exact congrArg orStop (take_value heffect hread hnew)

/-- A row of options, none of them given before and none twice. -/
theorem readFrom_givens {gs : List Given} {sets : List (α → α)}
    (h : List.Forall₂ program.Sets gs sets) {s : α} {given : List String}
    (hnodup : (gs.map Given.name).Nodup) (hnew : ∀ g ∈ gs, g.name ∉ given) :
    readFrom program ⟨s, given, none⟩ (gs.flatMap Given.arguments) =
      finish program ⟨sets.foldl (fun s set => set s) s, (gs.map Given.name).reverse ++ given,
        none⟩ := by
  induction h generalizing s given with
  | nil => rfl
  | @cons g set gs sets hg _ ih =>
    rw [List.map_cons, List.nodup_cons] at hnodup
    have hlater : ∀ g' ∈ gs, g'.name ∉ g.name :: given := by
      intro g' hg'
      rw [List.mem_cons, not_or]
      exact ⟨fun he => hnodup.1 (he ▸ List.mem_map_of_mem hg'),
        hnew g' (List.mem_cons_of_mem g hg')⟩
    rw [List.flatMap_cons, readFrom_given hg (hnew g List.mem_cons_self), ih hnodup.2 hlater]
    simp

/-- What is missing for the options that are given. -/
def Program.lacking (program : Program α) (given : List String) : List String :=
  program.options.filterMap fun o =>
    match o.needs with
    | some n => if o.name ∈ given ∧ n ∉ given then some n else none
    | none => none

theorem Program.lacking_congr {given given' : List String} (h : ∀ n, n ∈ given ↔ n ∈ given') :
    program.lacking given = program.lacking given' := by
  simp only [Program.lacking, h]

theorem finish_eq (s : α) (given : List String) :
    finish program ⟨s, given, none⟩ =
      if program.lacking given = [] then .ok s
      else .error (.usage (.requiredMissing (program.lacking given))) := by
  have hlacking : program.lacking given = program.options.filterMap fun o =>
      match o.needs with
      | some n => if given.contains o.name ∧ ¬given.contains n then some n else none
      | none => none := by
    simp only [Program.lacking, List.contains_iff_mem]
  rw [hlacking]
  simp only [finish, ← List.isEmpty_iff]
  rfl

/-- A command line of options, none of them twice. -/
theorem parse_givens {gs : List Given} {sets : List (α → α)}
    (h : List.Forall₂ program.Sets gs sets) (hnodup : (gs.map Given.name).Nodup) :
    program.parse (gs.flatMap Given.arguments) =
      if program.lacking (gs.map Given.name) = [] then
        .ok (sets.foldl (fun s set => set s) program.start)
      else .error (.usage (.requiredMissing (program.lacking (gs.map Given.name)))) := by
  have hsame : program.lacking ((gs.map Given.name).reverse ++ []) =
      program.lacking (gs.map Given.name) := Program.lacking_congr (by simp)
  rw [Program.parse, readFrom_givens h hnodup (fun _ _ => List.not_mem_nil), finish_eq, hsame]

end Standstill.CommandLine
