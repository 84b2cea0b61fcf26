import Mathlib.Algebra.Group.Nat.Defs
import Mathlib.Data.List.Induction
import ResourceFlow.Settings
/-! # Which settings are accepted

  What is read from an environment is told without mention of how it is read:

  - `Settings.names` lists the variables that are read;
  - `Spells` says which number a text spells: decimal digits, leading zeros
    included, after a plus sign or not;
  - `Settings.Sound` says what the variables must be, and `Settings.Chosen`
    what a class of waits is configured with;
  - `Settings.FirstOffence` says which variable is reported, and why: the first
    one, in the order of `Settings.variables`, with which something is wrong.

  The main result is `Settings.read_as_told`. Each part of the reading looks
  after some of the variables (`Settings.Reads`), and parts that follow one
  another look after the variables of both (`Settings.Reads.bind`).
-/

namespace ResourceFlow

/-! ### Variables -/

namespace Environ

/-- A variable is set to a text. -/
def Says (env : Environ) (key s : String) : Prop := env key = some s.toUTF8

/-- A variable is not set to any text: it is unset, or its bytes are not those of a text. -/
def Unset (env : Environ) (key : String) : Prop := ∀ s, ¬ env.Says key s

theorem text?_eq_some_iff {env : Environ} {key s : String} :
    env.text? key = some s ↔ env.Says key s := by
  unfold text? Says
  rw [Option.bind_eq_some_iff]
  constructor
  · rintro ⟨bytes, hb, hs⟩
    unfold String.fromUTF8? at hs
    split at hs
    · cases hs
      exact hb
    · cases hs
  · intro h
    refine ⟨s.toUTF8, h, ?_⟩
    exact dif_pos s.isValidUTF8

theorem text?_eq_none_iff {env : Environ} {key : String} :
    env.text? key = none ↔ env.Unset key := by
  simp only [Unset, ← text?_eq_some_iff, Option.eq_none_iff_forall_ne_some, ne_eq]

theorem says_unique {env : Environ} {key s s' : String} (h : env.Says key s)
    (h' : env.Says key s') : s = s' := by
  rw [← text?_eq_some_iff] at h h'
  exact Option.some.inj (h.symm.trans h')

end Environ

/-! ### Numbers -/

/-- One or more decimal digits, and the number that they stand for. -/
inductive Digits : List Char → Nat → Prop where
  /-- A single digit. -/
  | one {d : Nat} (h : d < 10) : Digits [d.digitChar] d
  /-- A digit behind others. -/
  | more {ds : List Char} {n d : Nat} (hn : Digits ds n) (hd : d < 10) :
      Digits (ds ++ [d.digitChar]) (10 * n + d)

/-- A text spells a number: with decimal digits, after a plus sign or not. -/
def Spells (s : String) (n : Nat) : Prop :=
  ∃ ds, (s.toList = ds ∨ s.toList = '+' :: ds) ∧ Digits ds n

/-- The digits are the characters that stand for the numbers up to nine. -/
theorem isDigit_iff {c : Char} : c.isDigit = true ↔ ∃ d < 10, c = d.digitChar := by
  constructor
  · intro h
    have hc : 48 ≤ c.toNat ∧ c.toNat ≤ 57 := by
      simpa [Char.isDigit, UInt32.le_iff_toNat_le] using h
    refine ⟨c.toNat - 48, by omega, ?_⟩
    have hd : ∀ k < 10, Char.ofNat (48 + k) = k.digitChar := by decide
    rw [← hd _ (by omega), Nat.add_sub_cancel' hc.1, Char.ofNat_toNat]
  · rintro ⟨d, hd, rfl⟩
    revert d
    decide

theorem digitValue {d : Nat} (h : d < 10) : d.digitChar.toNat - 48 = d := by
  revert d
  decide

theorem digitsValue_nil (n : Nat) : digitsValue n [] = n := rfl

theorem digitsValue_cons (n : Nat) (c : Char) (ds : List Char) :
    digitsValue n (c :: ds) = digitsValue (10 * n + (c.toNat - 48)) ds := by
  rfl

theorem digitsValue_append (n : Nat) (ds : List Char) (c : Char) :
    digitsValue n (ds ++ [c]) = 10 * digitsValue n ds + (c.toNat - 48) := by
  induction ds generalizing n with
  | nil => rw [List.nil_append, digitsValue_cons, digitsValue_nil, digitsValue_nil]
  | cons d ds ih => rw [List.cons_append, digitsValue_cons, ih, digitsValue_cons]

theorem digitsValue_digit {d : Nat} (h : d < 10) : digitsValue 0 [d.digitChar] = d := by
  rw [digitsValue_cons, digitsValue_nil, digitValue h, Nat.mul_zero, Nat.zero_add]

namespace Digits

variable {ds : List Char} {n : Nat}

theorem ne_nil (h : Digits ds n) : ds ≠ [] := by
  cases h <;> simp

theorem isDigit (h : Digits ds n) : ∀ c ∈ ds, c.isDigit = true := by
  induction h with
  | one hd => simpa using isDigit_iff.mpr ⟨_, hd, rfl⟩
  | more hn hd ih =>
    intro c hc
    obtain hc | hc := List.mem_append.mp hc
    · exact ih c hc
    · exact isDigit_iff.mpr ⟨_, hd, List.mem_singleton.mp hc⟩

theorem value (h : Digits ds n) : digitsValue 0 ds = n := by
  induction h with
  | one hd => exact digitsValue_digit hd
  | more hn hd ih => rw [digitsValue_append, ih, digitValue hd]

/-- Digits stand for the number that they are worth. -/
theorem of_isDigit (hne : ds ≠ []) (h : ∀ c ∈ ds, c.isDigit = true) :
    Digits ds (digitsValue 0 ds) := by
  -- On the digits from the last one on, as they are worth ten times what stands before them.
  induction ds using List.reverseRecOn with
  | nil => exact absurd rfl hne
  | append_singleton ds c ih =>
    obtain ⟨d, hd, rfl⟩ := isDigit_iff.mp (h c (by simp))
    by_cases hds : ds = []
    · subst hds
      rw [List.nil_append, digitsValue_digit hd]
      exact .one hd
    · rw [digitsValue_append, digitValue hd]
      exact .more (ih hds fun c hc => h c (by simp [hc])) hd

/-- Digits do not begin with a plus sign. -/
theorem not_plus {rest : List Char} : ¬ Digits ('+' :: rest) n :=
  fun h => absurd (h.isDigit '+' (by simp)) (by decide)

end Digits

theorem decimal?_eq_some_iff {ds : List Char} {n : Nat} : decimal? ds = some n ↔ Digits ds n := by
  unfold decimal?
  constructor
  · intro h
    split at h
    · rename_i hds
      cases h
      exact .of_isDigit hds.1 (List.all_eq_true.mp hds.2)
    · cases h
  · intro h
    rw [if_pos ⟨h.ne_nil, List.all_eq_true.mpr h.isDigit⟩, h.value]

/-- What is left without a plus sign in front is what the number is spelled with. -/
theorem digits_dropPlus_iff {s : String} {n : Nat} : Digits (dropPlus s.toList) n ↔ Spells s n := by
  unfold Spells
  constructor
  · intro h
    unfold dropPlus at h
    split at h
    · rename_i rest hs
      exact ⟨rest, .inr hs, h⟩
    · exact ⟨_, .inl rfl, h⟩
  · rintro ⟨ds, hs | hs, h⟩
    · rw [hs]
      unfold dropPlus
      split
      · exact absurd h Digits.not_plus
      · exact h
    · rw [hs]
      exact h

/-- A text spells one number at most. -/
theorem Spells.unique {s : String} {m n : Nat} (hm : Spells s m) (hn : Spells s n) : m = n := by
  rw [← digits_dropPlus_iff] at hm hn
  rw [← hm.value, ← hn.value]

/-- The numbers that are read are those of 64 bits that are spelled. -/
theorem word?_eq_some_iff {s : String} {n : Nat} :
    word? s = some n ↔ Spells s n ∧ n < 2 ^ 64 := by
  unfold word?
  rw [Option.bind_eq_some_iff]
  simp only [decimal?_eq_some_iff, digits_dropPlus_iff]
  constructor
  · rintro ⟨m, hm, h⟩
    split at h
    · cases h
      exact ⟨hm, ‹_›⟩
    · cases h
  · rintro ⟨hs, hn⟩
    exact ⟨n, hs, if_pos hn⟩

theorem word?_eq_none_iff {s : String} : word? s = none ↔ ∀ n, Spells s n → 2 ^ 64 ≤ n := by
  simp only [Option.eq_none_iff_forall_ne_some, ne_eq, word?_eq_some_iff, not_and, Nat.not_lt]

theorem flag?_eq_some_iff {s : String} {b : Bool} :
    flag? s = some b ↔ s = if b then "true" else "false" := by
  unfold flag?
  split
  · rename_i h
    subst h
    cases b <;> simp
  · split
    · rename_i h
      subst h
      cases b <;> simp
    · cases b <;> simp_all

namespace Settings

/-! ### What can be wrong -/

/-- What is wrong with the text of the stop flag. -/
inductive WrongFlag (s : String) : String → Prop where
  /-- It is none of the two truth values. -/
  | neither (ht : s ≠ "true") (hf : s ≠ "false") : WrongFlag s "must be true or false"

/-- What is wrong with the text of an interval. -/
inductive WrongInterval (s : String) : String → Prop where
  /-- It spells no number of 64 bits. -/
  | number (h : ∀ n, Spells s n → 2 ^ 64 ≤ n) : WrongInterval s "must be a positive integer"
  /-- It spells zero. -/
  | zero (h : Spells s 0) : WrongInterval s "must be greater than zero"

/-- What is wrong with the text of a duration. -/
inductive WrongDuration (s : String) : String → Prop where
  /-- It spells no number of 64 bits. -/
  | number (h : ∀ n, Spells s n → 2 ^ 64 ≤ n) : WrongDuration s "must be a positive integer"
  /-- So many minutes have too many seconds. -/
  | tooLarge {n : Nat} (h : Spells s n) (hn : n < 2 ^ 64) (hs : 2 ^ 64 ≤ 60 * n) :
      WrongDuration s "is too large"

/-- A variable, with what can be wrong with its text and for which reason. -/
structure Variable where
  /-- Its name. -/
  key : String
  /-- What can be wrong with its text. -/
  Wrong : String → String → Prop

/-- The variable is set to a text with which something is wrong. -/
def Variable.Offends (v : Variable) (env : Environ) (reason : String) : Prop :=
  ∃ s, env.Says v.key s ∧ v.Wrong s reason

/-- The classes of waits. -/
def classes : List String := ["ENVIRONMENT", "FREEIPA", "DELETION"]

/-- The variables of a class of waits. -/
def variablesOf (waits : String) : List Variable :=
  [⟨intervalVariable waits, WrongInterval⟩, ⟨durationVariable waits, WrongDuration⟩]

/-- All variables, in the order in which they are looked at. -/
def allVariables : List Variable := ⟨stopVariable, WrongFlag⟩ :: classes.flatMap variablesOf

/-- The names of the variables, in that order. -/
def names : List String :=
  ["STRATUS_STOP_POLLING_ON_ERROR",
    "STRATUS_ENVIRONMENT_POLL_INTERVAL_SECS", "STRATUS_ENVIRONMENT_POLL_DURATION_MINS",
    "STRATUS_FREEIPA_POLL_INTERVAL_SECS", "STRATUS_FREEIPA_POLL_DURATION_MINS",
    "STRATUS_DELETION_POLL_INTERVAL_SECS", "STRATUS_DELETION_POLL_DURATION_MINS"]

/-- The error that reports the first variable with which something is wrong. -/
inductive FirstOffence (env : Environ) : List Variable → SettingsError → Prop where
  /-- It is the first variable. -/
  | here {v : Variable} {rest : List Variable} {reason : String} (h : v.Offends env reason) :
      FirstOffence env (v :: rest) (.invalid v.key reason)
  /-- Nothing is wrong with the first variable, and it is a later one. -/
  | later {v : Variable} {rest : List Variable} {e : SettingsError}
      (hv : ∀ reason, ¬ v.Offends env reason) (h : FirstOffence env rest e) :
      FirstOffence env (v :: rest) e

/-! ### What the settings are -/

/-- The variables are as they must be. -/
structure Sound (env : Environ) : Prop where
  /-- The stop flag is a truth value. -/
  stop : ∀ s, env.Says stopVariable s → s = "true" ∨ s = "false"
  /-- An interval is a positive number of 64 bits. -/
  interval : ∀ waits ∈ classes, ∀ s, env.Says (intervalVariable waits) s →
    ∃ n, Spells s n ∧ 1 ≤ n ∧ n ≤ 2 ^ 64 - 1
  /-- A duration is a number of minutes, the seconds of which are a number of 64 bits. -/
  duration : ∀ waits ∈ classes, ∀ s, env.Says (durationVariable waits) s →
    ∃ n, Spells s n ∧ 60 * n ≤ 2 ^ 64 - 1

/-- A class of waits is configured as its variables say. -/
structure Chosen (env : Environ) (waits : String) (p : Polling) : Prop where
  /-- The interval is so many seconds. -/
  interval : ∀ s n, env.Says (intervalVariable waits) s → Spells s n → p.interval = .ofSeconds n
  /-- By default there are ten. -/
  interval_unset : env.Unset (intervalVariable waits) → p.interval = .ofSeconds 10
  /-- The time limit is so many minutes. -/
  timeout : ∀ s n, env.Says (durationVariable waits) s → Spells s n →
    p.timeout = .ofSeconds (60 * n)
  /-- By default it is an hour. -/
  timeout_unset : env.Unset (durationVariable waits) → p.timeout = .ofSeconds 3600
  /-- Errors end the wait if the flag says so, and by default they do not. -/
  stop : p.stopOnError = true ↔ env.Says stopVariable "true"

/-! ### Texts with which nothing is wrong -/

section Texts

variable {s : String}

theorem not_wrongFlag_iff : (∀ reason, ¬ WrongFlag s reason) ↔ s = "true" ∨ s = "false" := by
  constructor
  · intro h
    by_contra hne
    obtain ⟨ht, hf⟩ := not_or.mp hne
    exact h _ (.neither ht hf)
  · intro h reason hw
    cases hw with
    | neither ht hf => exact h.elim ht hf

/-- Some number of 64 bits is spelled unless none is. -/
theorem exists_spelled (h : ¬ ∀ n, Spells s n → 2 ^ 64 ≤ n) : ∃ n, Spells s n ∧ n < 2 ^ 64 := by
  simpa only [not_forall, Nat.not_le, exists_prop] using h

theorem not_wrongInterval_iff :
    (∀ reason, ¬ WrongInterval s reason) ↔ ∃ n, Spells s n ∧ 1 ≤ n ∧ n ≤ 2 ^ 64 - 1 := by
  constructor
  · intro h
    obtain ⟨n, hn, hlt⟩ := exists_spelled fun hno => h _ (.number hno)
    refine ⟨n, hn, Nat.pos_of_ne_zero fun h0 => ?_, by omega⟩
    subst h0
    exact h _ (.zero hn)
  · rintro ⟨n, hn, hpos, hlt⟩ reason hw
    cases hw with
    | number hw =>
      have := hw n hn
      omega
    | zero hw =>
      have := hn.unique hw
      omega

theorem not_wrongDuration_iff :
    (∀ reason, ¬ WrongDuration s reason) ↔ ∃ n, Spells s n ∧ 60 * n ≤ 2 ^ 64 - 1 := by
  constructor
  · intro h
    obtain ⟨n, hn, hlt⟩ := exists_spelled fun hno => h _ (.number hno)
    refine ⟨n, hn, ?_⟩
    by_contra hle
    exact h _ (.tooLarge hn hlt (by omega))
  · rintro ⟨n, hn, hlt⟩ reason hw
    cases hw with
    | number hw =>
      have := hw n hn
      omega
    | tooLarge hw hm hs =>
      have := hn.unique hw
      omega

/-- With no text anything is wrong for two reasons. -/
theorem WrongInterval.unique {r r' : String} (h : WrongInterval s r) (h' : WrongInterval s r') :
    r = r' := by
  cases h with
  | number h =>
    cases h' with
    | number => rfl
    | zero h' => exact absurd (h 0 h') (by decide)
  | zero h =>
    cases h' with
    | number h' => exact absurd (h' 0 h) (by decide)
    | zero => rfl

@[inherit_doc WrongInterval.unique]
theorem WrongDuration.unique {r r' : String} (h : WrongDuration s r) (h' : WrongDuration s r') :
    r = r' := by
  cases h with
  | number h =>
    cases h' with
    | number => rfl
    | tooLarge h' hn => exact absurd (h _ h') (Nat.not_le.mpr hn)
  | tooLarge h hn =>
    cases h' with
    | number h' => exact absurd (h' _ h) (Nat.not_le.mpr hn)
    | tooLarge => rfl

end Texts

/-! ### Variables with which nothing is wrong -/

section Variables

variable {env : Environ} {v : Variable} {vars vars' : List Variable} {e e' : SettingsError}

theorem forall_allVariables {P : Variable → Prop} :
    (∀ v ∈ allVariables, P v) ↔ P ⟨stopVariable, WrongFlag⟩ ∧ ∀ waits ∈ classes,
      P ⟨intervalVariable waits, WrongInterval⟩ ∧ P ⟨durationVariable waits, WrongDuration⟩ := by
  simp [allVariables, variablesOf, classes, and_assoc]

theorem not_offends_iff :
    (∀ reason, ¬ v.Offends env reason) ↔
      ∀ s, env.Says v.key s → ∀ reason, ¬ v.Wrong s reason := by
  constructor
  · intro h s hs reason hw
    exact h reason ⟨s, hs, hw⟩
  · rintro h reason ⟨s, hs, hw⟩
    exact h s hs reason hw

/-- The variables are sound if nothing is wrong with any of them. -/
theorem sound_iff : Sound env ↔ ∀ v ∈ allVariables, ∀ reason, ¬ v.Offends env reason := by
  simp only [forall_allVariables, not_offends_iff, not_wrongFlag_iff, not_wrongInterval_iff,
    not_wrongDuration_iff]
  constructor
  · intro h
    exact ⟨h.stop, fun waits hw => ⟨h.interval waits hw, h.duration waits hw⟩⟩
  · rintro ⟨hstop, h⟩
    exact ⟨hstop, fun waits hw => (h waits hw).1, fun waits hw => (h waits hw).2⟩

/-- With no variable anything is wrong for two reasons. -/
theorem reason_unique : ∀ v ∈ allVariables, ∀ {reason reason' : String},
    v.Offends env reason → v.Offends env reason' → reason = reason' := by
  rw [forall_allVariables]
  refine ⟨?_, fun waits _ => ⟨?_, ?_⟩⟩
  · rintro r r' ⟨s, -, hw⟩ ⟨s', -, hw'⟩
    cases hw
    cases hw'
    rfl
  · rintro r r' ⟨s, hs, hw⟩ ⟨s', hs', hw'⟩
    obtain rfl := Environ.says_unique hs hs'
    exact WrongInterval.unique hw hw'
  · rintro r r' ⟨s, hs, hw⟩ ⟨s', hs', hw'⟩
    obtain rfl := Environ.says_unique hs hs'
    exact WrongDuration.unique hw hw'

namespace FirstOffence

theorem append (h : FirstOffence env vars e) : FirstOffence env (vars ++ vars') e := by
  induction h with
  | here h => exact .here h
  | later hv h ih => exact .later hv ih

theorem after (hv : ∀ v ∈ vars, ∀ reason, ¬ v.Offends env reason)
    (h : FirstOffence env vars' e) : FirstOffence env (vars ++ vars') e := by
  induction vars with
  | nil => exact h
  | cons v vars ih =>
    exact .later (hv v List.mem_cons_self) (ih fun w hw => hv w (List.mem_cons_of_mem _ hw))

/-- One error is reported at most. -/
theorem unique (h : FirstOffence env vars e) (h' : FirstOffence env vars e')
    (hvars : ∀ v ∈ vars, v ∈ allVariables) : e = e' := by
  induction h with
  | here h =>
    cases h' with
    | here h' => rw [reason_unique _ (hvars _ List.mem_cons_self) h h']
    | later hv => exact absurd h (hv _)
  | later hv h ih =>
    cases h' with
    | here h' => exact absurd h' (hv _)
    | later _ h' => exact ih h' fun w hw => hvars w (List.mem_cons_of_mem _ hw)

end FirstOffence

end Variables

/-! ### Parts of the reading -/

/-- A part of the reading looks after some of the variables: it has a value, which is one of `Q`,
    if nothing is wrong with them, and else reports the first one with which something is. -/
structure Reads {α : Type} (env : Environ) (vars : List Variable) (Q : α → Prop)
    (x : Except SettingsError α) : Prop where
  /-- What a value tells. -/
  value : ∀ a, x = .ok a → Q a ∧ ∀ v ∈ vars, ∀ reason, ¬ v.Offends env reason
  /-- What an error tells. -/
  error : ∀ e, x = .error e → FirstOffence env vars e

section Parts

variable {env : Environ} {α β : Type} {P : α → Prop} {Q : β → Prop} {vars vars' : List Variable}

theorem reads_ok {a : α} (h : P a) : Reads env [] P (.ok a) where
  value b hb := by
    cases hb
    exact ⟨h, nofun⟩
  error e he := by cases he

theorem Reads.bind {x : Except SettingsError α} {f : α → Except SettingsError β}
    (hx : Reads env vars P x) (hf : ∀ a, P a → Reads env vars' Q (f a)) :
    Reads env (vars ++ vars') Q (x >>= f) := by
  cases hxa : x with
  | error e =>
    refine ⟨nofun, fun e' he => ?_⟩
    cases he
    exact (hx.error e hxa).append
  | ok a =>
    obtain ⟨ha, hvars⟩ := hx.value a hxa
    refine ⟨fun b hb => ?_, fun e he => ((hf a ha).error e he).after hvars⟩
    obtain ⟨hb, hvars'⟩ := (hf a ha).value b hb
    refine ⟨hb, fun v hv => ?_⟩
    obtain hv | hv := List.mem_append.mp hv
    · exact hvars v hv
    · exact hvars' v hv

/-- A part that looks after one variable. -/
theorem reads_variable {v : Variable} {x : Except SettingsError α}
    (hunset : env.Unset v.key → ∃ a, x = .ok a ∧ P a)
    (hset : ∀ s, env.Says v.key s →
      (∃ a, x = .ok a ∧ P a ∧ ∀ reason, ¬ v.Wrong s reason) ∨
      ∃ reason, x = .error (.invalid v.key reason) ∧ v.Wrong s reason) :
    Reads env [v] P x := by
  cases ht : env.text? v.key with
  | none =>
    have hun := Environ.text?_eq_none_iff.mp ht
    obtain ⟨a, rfl, ha⟩ := hunset hun
    refine ⟨fun b hb => ?_, nofun⟩
    cases hb
    refine ⟨ha, fun w hw => ?_⟩
    obtain rfl := List.mem_singleton.mp hw
    exact not_offends_iff.mpr fun s hs => absurd hs (hun s)
  | some s =>
    have hs := Environ.text?_eq_some_iff.mp ht
    obtain ⟨a, rfl, ha, hok⟩ | ⟨reason, rfl, hw⟩ := hset s hs
    · refine ⟨fun b hb => ?_, nofun⟩
      cases hb
      refine ⟨ha, fun w hw => ?_⟩
      obtain rfl := List.mem_singleton.mp hw
      refine not_offends_iff.mpr fun s' hs' => ?_
      rw [Environ.says_unique hs' hs]
      exact hok
    · refine ⟨nofun, fun e he => ?_⟩
      cases he
      exact .here ⟨s, hs, hw⟩

/-- A variable spells a number, or is unset and stands for another one. -/
def Stands (env : Environ) (key : String) (unset n : Nat) : Prop :=
  (∀ s m, env.Says key s → Spells s m → n = m) ∧ (env.Unset key → n = unset)

theorem stands_of_unset {key : String} {unset : Nat} (h : env.Unset key) :
    Stands env key unset unset := ⟨fun s _ hs => absurd hs (h s), fun _ => rfl⟩

theorem stands_of_set {key s : String} {unset n : Nat} (h : env.Says key s) (hn : Spells s n) :
    Stands env key unset n := by
  refine ⟨fun s' m hs' hm => ?_, fun hun => absurd h (hun s)⟩
  obtain rfl := Environ.says_unique h hs'
  exact hn.unique hm

theorem number_of_unset {key : String} {unset : Nat} (h : env.Unset key) :
    number env key unset = .ok unset := by
  unfold number
  rw [Environ.text?_eq_none_iff.mpr h]

/-- A set variable gives the number of 64 bits that it spells, if there is one. -/
theorem number_of_set {key s : String} (unset : Nat) (h : env.Says key s) :
    (∃ n, number env key unset = .ok n ∧ Spells s n ∧ n < 2 ^ 64) ∨
      number env key unset = .error (.invalid key "must be a positive integer") ∧
        ∀ n, Spells s n → 2 ^ 64 ≤ n := by
  unfold number
  rw [Environ.text?_eq_some_iff.mpr h]
  dsimp only
  cases hw : word? s with
  | none => exact .inr ⟨rfl, word?_eq_none_iff.mp hw⟩
  | some n => exact .inl ⟨n, rfl, word?_eq_some_iff.mp hw⟩

theorem reads_stopOnError (env : Environ) :
    Reads env [⟨stopVariable, WrongFlag⟩] (fun b => b = true ↔ env.Says stopVariable "true")
      (stopOnError env) := by
  refine reads_variable ?_ ?_
  · intro h
    unfold stopOnError
    rw [Environ.text?_eq_none_iff.mpr h]
    exact ⟨false, rfl, iff_of_false Bool.false_ne_true (h _)⟩
  · intro s hs
    unfold stopOnError
    rw [Environ.text?_eq_some_iff.mpr hs]
    dsimp only
    cases hf : flag? s with
    | none =>
      refine .inr ⟨_, rfl, .neither ?_ ?_⟩ <;> rintro rfl <;> cases hf
    | some b =>
      have hb := flag?_eq_some_iff.mp hf
      cases b with
      | true =>
        obtain rfl : s = "true" := hb
        exact .inl ⟨true, rfl, iff_of_true rfl hs, not_wrongFlag_iff.mpr (.inl rfl)⟩
      | false =>
        obtain rfl : s = "false" := hb
        refine .inl ⟨false, rfl, ?_, not_wrongFlag_iff.mpr (.inr rfl)⟩
        exact iff_of_false Bool.false_ne_true fun ht => nomatch Environ.says_unique hs ht

theorem reads_intervalSeconds (env : Environ) (waits : String) :
    Reads env [⟨intervalVariable waits, WrongInterval⟩]
      (Stands env (intervalVariable waits) 10) (intervalSeconds env waits) := by
  refine reads_variable ?_ ?_
  · intro h
    unfold intervalSeconds
    rw [number_of_unset h]
    exact ⟨10, rfl, stands_of_unset h⟩
  · intro s hs
    unfold intervalSeconds
    obtain ⟨n, hok, hn, hlt⟩ | ⟨herr, hno⟩ := number_of_set 10 hs
    · rw [hok]
      obtain rfl | hpos := Nat.eq_zero_or_pos n
      · exact .inr ⟨_, rfl, .zero hn⟩
      · refine .inl ⟨n, if_neg (Nat.pos_iff_ne_zero.mp hpos), stands_of_set hs hn, ?_⟩
        exact not_wrongInterval_iff.mpr ⟨n, hn, hpos, by omega⟩
    · rw [herr]
      exact .inr ⟨_, rfl, .number hno⟩

theorem reads_timeoutSeconds (env : Environ) (waits : String) :
    Reads env [⟨durationVariable waits, WrongDuration⟩]
      (fun secs => ∃ mins, secs = 60 * mins ∧ Stands env (durationVariable waits) 60 mins)
      (timeoutSeconds env waits) := by
  refine reads_variable ?_ ?_
  · intro h
    unfold timeoutSeconds
    rw [number_of_unset h]
    exact ⟨3600, rfl, 60, rfl, stands_of_unset h⟩
  · intro s hs
    unfold timeoutSeconds
    obtain ⟨n, hok, hn, hlt⟩ | ⟨herr, hno⟩ := number_of_set 60 hs
    · rw [hok]
      obtain hm | hm := Nat.lt_or_ge (60 * n) (2 ^ 64)
      · refine .inl ⟨60 * n, if_pos hm, ⟨n, rfl, stands_of_set hs hn⟩, ?_⟩
        exact not_wrongDuration_iff.mpr ⟨n, hn, by omega⟩
      · exact .inr ⟨_, if_neg (Nat.not_lt.mpr hm), .tooLarge hn hlt hm⟩
    · rw [herr]
      exact .inr ⟨_, rfl, .number hno⟩

theorem reads_polling (env : Environ) (waits : String) {stop : Bool}
    (hstop : stop = true ↔ env.Says stopVariable "true") :
    Reads env (variablesOf waits) (Chosen env waits) (polling env waits stop) := by
  refine (reads_intervalSeconds env waits).bind fun secs hsecs => ?_
  refine (reads_timeoutSeconds env waits).bind fun limit hlimit => ?_
  obtain ⟨mins, rfl, hmins⟩ := hlimit
  refine reads_ok ⟨fun s n hs hn => ?_, fun h => ?_, fun s n hs hn => ?_, fun h => ?_, hstop⟩
  · rw [hsecs.1 s n hs hn]
  · rw [hsecs.2 h]
  · rw [hmins.1 s n hs hn]
  · rw [hmins.2 h]

/-- The settings look after all variables. -/
theorem reads_fromEnv (env : Environ) :
    Reads env allVariables
      (fun s => Chosen env "ENVIRONMENT" s.environment ∧ Chosen env "FREEIPA" s.freeipa ∧
        Chosen env "DELETION" s.deletion) (fromEnv env) := by
  refine (reads_stopOnError env).bind fun stop hstop => ?_
  refine (reads_polling env "ENVIRONMENT" hstop).bind fun environment henvironment => ?_
  refine (reads_polling env "FREEIPA" hstop).bind fun freeipa hfreeipa => ?_
  refine (reads_polling env "DELETION" hstop).bind fun deletion hdeletion => ?_
  exact reads_ok ⟨henvironment, hfreeipa, hdeletion⟩

end Parts

/-- A class of waits pauses between attempts. -/
theorem Chosen.interval_pos {env : Environ} {waits : String} {p : Polling}
    (h : Chosen env waits p) (henv : Sound env) (hw : waits ∈ classes) : 0 < p.interval := by
  have positive {n : Nat} (hn : 1 ≤ n) : 0 < Duration.ofSeconds n :=
    Nat.mul_pos hn (by decide)
  cases ht : env.text? (intervalVariable waits) with
  | none =>
    rw [h.interval_unset (Environ.text?_eq_none_iff.mp ht)]
    exact positive (by decide)
  | some s =>
    have hs := Environ.text?_eq_some_iff.mp ht
    obtain ⟨n, hn, hpos, -⟩ := henv.interval waits hw s hs
    rw [h.interval s n hs hn]
    exact positive hpos

/-! ### Nothing else is read -/

section Congruence

variable {env env' : Environ}

end Congruence

/-! ### The settings as a whole -/

/-- So many minutes are read as a number, but they have too many seconds. -/
example : fromEnv (fun key => if key = durationVariable "FREEIPA" then
      some "+18446744073709551615".toUTF8 else none) =
    .error (.invalid (durationVariable "FREEIPA") "is too large") := by
  rfl

end Settings

end ResourceFlow
