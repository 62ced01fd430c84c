import Mathlib
import Standstill.Proofs.CommandLine.Options

/-!
# Vocabularies

The vocabulary of a program has a key for each of its options, with the type
of its values. A value is a number, a word, or nothing for a flag; it has as
many spellings as there are decimals of a number, and may stand behind an
equals sign or as the next argument. The settings are a function of what is
given, and giving one more option changes them as the option's own effect
does. What a command line comes to is then told by the values that it gives,
whatever their order and their spelling are.

Results:
* `sets_flag`, `sets_number`, `sets_word`: an option in each of its spellings.
* `Vocabulary.foldl_set`: the effects of all options together.
* `Vocabulary.parse_eq`: a whole command line.
* `Vocabulary.parse_eq_of_perm`: order and spelling make no difference.
-/
namespace Standstill.CommandLine

/-! ## Spellings -/

/-- How a value is written. -/
inductive Writing
  /-- It is not: the option is a flag. -/
  | flag
  /-- In decimal. -/
  | number (n : Nat)
  | word (s : String)

/-- The texts that stand for a value. -/
inductive Writing.Text : Writing → String → Prop
  | number (zeros n : Nat) : Text (.number n) (decimal zeros n)
  | word (s : String) : Text (.word s) s

theorem Writing.Text.toString (n : Nat) : Writing.Text (.number n) (toString n) :=
  decimal_zero n ▸ .number 0 n

/-- An option with a value as it may stand on a command line. -/
inductive Writing.Spells (name : String) : Writing → Given → Prop
  | flag : Spells name .flag (.flag name)
  | spaced {w : Writing} {value : String} (text : w.Text value) : Spells name w (.spaced name value)
  | joined {w : Writing} {value : String} (text : w.Text value) : Spells name w (.joined name value)

theorem Writing.Spells.name_eq {name : String} {w : Writing} {g : Given} (h : w.Spells name g) :
    g.name = name := by
  cases h <;> rfl

section Sets
variable {α β : Type} {program : Program α} {name : String} {o : Opt α} {g : Given}

theorem sets_flag {set : α → α} (hname : IsName name) (hfind : program.find? name = some o)
    (heffect : o.effect = .flag set) (h : Writing.flag.Spells name g) : program.Sets g set := by
  cases h with
  | flag => exact .flag hname hfind heffect
  | spaced text => cases text
  | joined text => cases text

variable {read : String → Except Refusal β} {b : β}

theorem sets_number (set : β → α → α) {n : Nat} (hname : IsName name)
    (hfind : program.find? name = some o) (heffect : o.effect = .value fun s => (read s).map set)
    (hread : ∀ zeros, read (decimal zeros n) = .ok b) (h : (Writing.number n).Spells name g) :
    program.Sets g (set b) := by
  cases h with
  | spaced text =>
    cases text with
    | number zeros =>
      exact .spaced hname hfind heffect (by rw [hread]; rfl) (isPlain_decimal zeros n)
  | joined text =>
    cases text with
    | number zeros => exact .joined hname hfind heffect (by rw [hread]; rfl)

theorem sets_word (set : β → α → α) {s : String} (hname : IsName name)
    (hfind : program.find? name = some o) (heffect : o.effect = .value fun s => (read s).map set)
    (hread : read s = .ok b) (hplain : IsPlain s) (h : (Writing.word s).Spells name g) :
    program.Sets g (set b) := by
  cases h with
  | spaced text =>
    cases text
    exact .spaced hname hfind heffect (by rw [hread]; rfl) hplain
  | joined text =>
    cases text
    exact .joined hname hfind heffect (by rw [hread]; rfl)

end Sets

/-! ## Programs -/

/-- The options of a program by keys, with the values they may have and the settings that come of
what is given. -/
structure Vocabulary (α Key : Type) [DecidableEq Key] (Value : Key → Type) where
  program : Program α
  name : Key → String
  writing : (k : Key) → Value k → Writing
  /-- What an option with a value does to the settings. -/
  set : (k : Key) → Value k → α → α
  /-- The settings, by what is given for each option. -/
  settings : ((k : Key) → Option (Value k)) → α
  /-- The keys of the program's options, in their order. -/
  keys : List Key
  mem_keys : ∀ k, k ∈ keys
  map_name_keys : keys.map name = program.options.map Opt.name
  nodup_options : (program.options.map Opt.name).Nodup
  sets : ∀ {k : Key} {x : Value k} {g : Given}, (writing k x).Spells (name k) g →
    program.Sets g (set k x)
  settings_none : settings (fun _ => none) = program.start
  settings_update : ∀ (given : (k : Key) → Option (Value k)) (k : Key) (x : Value k),
    settings (Function.update given k (some x)) = set k x (settings given)

namespace Vocabulary

variable {α Key : Type} [DecidableEq Key] {Value : Key → Type} {v : Vocabulary α Key Value}
  {chosen chosen' : List (Sigma Value)} {row row' : List Given}

/-- A command line of options with these values, in this order. -/
def Writes (v : Vocabulary α Key Value) (chosen : List (Sigma Value)) (row : List Given) : Prop :=
  List.Forall₂ (fun c g => (v.writing c.1 c.2).Spells (v.name c.1) g) chosen row

/-- The names of the options given. -/
def names (v : Vocabulary α Key Value) (chosen : List (Sigma Value)) : List String :=
  chosen.keys.map v.name

theorem Writes.names_eq (h : v.Writes chosen row) : row.map Given.name = v.names chosen := by
  induction h with
  | nil => rfl
  | cons hspells _ ih => simp only [List.map_cons, hspells.name_eq, ih, names, List.keys]

theorem Writes.sets (h : v.Writes chosen row) :
    List.Forall₂ v.program.Sets row (chosen.map fun c => v.set c.1 c.2) := by
  induction h with
  | nil => exact .nil
  | cons hspells _ ih => exact .cons (v.sets hspells) ih

/-- No two options share a name. -/
theorem name_injective (v : Vocabulary α Key Value) : Function.Injective v.name := fun k l =>
  List.inj_on_of_nodup_map (v.map_name_keys ▸ v.nodup_options) (v.mem_keys k) (v.mem_keys l)

theorem nodup_names (h : chosen.NodupKeys) : (v.names chosen).Nodup :=
  List.Nodup.map v.name_injective h

theorem name_mem_names (v : Vocabulary α Key Value) (k : Key) :
    v.name k ∈ v.names chosen ↔ (chosen.dlookup k).isSome := by
  rw [names, List.mem_map_of_injective v.name_injective, List.dlookup_isSome]

/-- One option more, behind others and not among them. -/
theorem dlookup_append_singleton {c : Sigma Value} (h : c.1 ∉ chosen.keys) :
    (fun k => (chosen ++ [c]).dlookup k) =
      Function.update (fun k => chosen.dlookup k) c.1 (some c.2) := by
  funext k
  rw [List.dlookup_append]
  by_cases hk : k = c.1
  · subst hk
    rw [List.dlookup_eq_none.2 h, Function.update_self, Option.none_or, List.dlookup_cons_eq]
  · rw [Function.update_of_ne hk, List.dlookup_cons_ne _ _ hk, List.dlookup_nil, Option.or_none]

/-- The effects of options one after the other, by induction from the last one. -/
theorem foldl_set (h : chosen.NodupKeys) :
    chosen.foldl (fun s c => v.set c.1 c.2 s) v.program.start =
      v.settings fun k => chosen.dlookup k := by
  induction chosen using List.reverseRecOn with
  | nil => exact v.settings_none.symm
  | append_singleton chosen c ih =>
    have hkeys : (chosen.keys ++ [c.1]).Nodup := by simpa [List.NodupKeys, List.keys] using h
    obtain ⟨hearlier, -, hnew⟩ := List.nodup_append.1 hkeys
    have hnotMem : c.1 ∉ chosen.keys := fun hmem => hnew _ hmem _ (by simp) rfl
    rw [List.foldl_append, ih hearlier, dlookup_append_singleton hnotMem, v.settings_update]
    rfl

/-- A command line of options of the vocabulary, none of them twice. -/
theorem parse_eq (h : v.Writes chosen row) (hkeys : chosen.NodupKeys) :
    v.program.parse (row.flatMap Given.arguments) =
      if v.program.lacking (v.names chosen) = [] then
        .ok (v.settings fun k => chosen.dlookup k)
      else .error (.usage (.requiredMissing (v.program.lacking (v.names chosen)))) := by
  have hnodup : (row.map Given.name).Nodup := h.names_eq ▸ nodup_names hkeys
  rw [parse_givens h.sets hnodup, h.names_eq, List.foldl_map, foldl_set hkeys]

/-- Two command lines with the same values, in any order and in any spelling. -/
theorem parse_eq_of_perm (h : v.Writes chosen row) (h' : v.Writes chosen' row')
    (hkeys : chosen.NodupKeys) (hperm : chosen'.Perm chosen) :
    v.program.parse (row'.flatMap Given.arguments) =
      v.program.parse (row.flatMap Given.arguments) := by
  have hkeys' : chosen'.NodupKeys := (List.perm_nodupKeys hperm).2 hkeys
  have hlacking : v.program.lacking (v.names chosen') = v.program.lacking (v.names chosen) :=
    Program.lacking_congr fun n => ((hperm.map Sigma.fst).map v.name).mem_iff
  have hgiven : (fun k => chosen'.dlookup k) = fun k => chosen.dlookup k :=
    funext fun k => List.perm_dlookup k hkeys' hperm
  rw [parse_eq h hkeys, parse_eq h' hkeys', hlacking, hgiven]

end Vocabulary

end Standstill.CommandLine
