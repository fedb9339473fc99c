/-
Three variables set three settings, and none of them has to do with another. What is loaded for a
setting is told by its own variable; what else the environment says shows in the provenance only,
and that says no more than whether any value was accepted.
-/
import GraphicCache.Config.Environment
import GraphicCache.Proofs.Text.Numeral

namespace GraphicCache.Config

open Text

/-! ## Accepted numbers -/

/-- A memory limit is a numeral below `2 ^ 63`, with a minus sign only if it is 0. -/
theorem readMemoryLimit_eq_some {raw : String} {limit : ℤ} : readMemoryLimit raw = some limit ↔
    ∃ sign n, Denotes raw.toList sign n ∧ (sign = .minus → n = 0) ∧ n < 2 ^ 63 ∧ limit = n := by
  unfold readMemoryLimit readSigned64
  rw [Option.filter_eq_some_iff, Option.filter_eq_some_iff, Amount.fits_iff, Amount.least,
    Amount.greatest, decide_eq_true_eq]
  constructor
  · rintro ⟨⟨read, fits⟩, nonneg⟩
    obtain ⟨sign, digits, n, spelled, trimmed, rfl⟩ := readInteger_eq_some.1 read
    have denoted : Denotes raw.toList sign n := denotes_iff.2 ⟨digits, spelled, trimmed⟩
    cases sign with
    | none | plus =>
      simp only [Sign.apply] at fits
      exact ⟨_, n, denoted, by simp, by omega, rfl⟩
    | minus =>
      simp only [Sign.apply] at nonneg
      obtain rfl : n = 0 := by omega
      exact ⟨_, 0, denoted, fun _ => rfl, by decide, rfl⟩
  · rintro ⟨sign, n, denoted, zero, small, rfl⟩
    have value : sign.apply n = n := by
      cases sign with
      | none | plus => rfl
      | minus => rw [zero rfl]; rfl
    refine ⟨⟨?_, by omega⟩, by omega⟩
    rw [denoted.readInteger, value]

/-- An idle time is a numeral below `2 ^ 64`, without a minus sign. -/
theorem readAllowedIdle_eq_some {raw : String} {idle : Span} : readAllowedIdle raw = some idle ↔
    ∃ sign n, Denotes raw.toList sign n ∧ sign ≠ .minus ∧ n < 2 ^ 64 ∧ idle = .ofSeconds n := by
  unfold readAllowedIdle readUnsigned64
  simp only [Option.map_eq_some_iff, Option.filter_eq_some_iff, readNatural_eq_some,
    decide_eq_true_eq]
  constructor
  · rintro ⟨n, ⟨⟨sign, digits, unsigned, spelled, trimmed⟩, small⟩, rfl⟩
    exact ⟨sign, n, denotes_iff.2 ⟨digits, spelled, trimmed⟩, unsigned, small, rfl⟩
  · rintro ⟨sign, n, denoted, unsigned, small, rfl⟩
    obtain ⟨digits, spelled, trimmed⟩ := denotes_iff.1 denoted
    exact ⟨n, ⟨⟨sign, digits, unsigned, spelled, trimmed⟩, small⟩, rfl⟩

/-! ## Settings -/

/-- What the environment can set. -/
inductive Setting where
  | memoryLimit
  | allowedIdle
  | swapEnabled
  deriving DecidableEq

namespace Setting

def Value : Setting → Type
  | memoryLimit => Int
  | allowedIdle => Span
  | swapEnabled => Bool

/-- The variable that sets it. -/
def name : Setting → String
  | memoryLimit => memoryLimitVariable
  | allowedIdle => allowedIdleVariable
  | swapEnabled => swapEnabledVariable

/-- The value that a text stands for, if it is acceptable. -/
def read : (s : Setting) → String → Option s.Value
  | memoryLimit => readMemoryLimit
  | allowedIdle => readAllowedIdle
  | swapEnabled => readSwitch

def get : (s : Setting) → Config → s.Value
  | memoryLimit, c => c.memoryLimit
  | allowedIdle, c => c.allowedIdle
  | swapEnabled, c => c.swapEnabled

/-- A variable is there that sets it to an acceptable value. -/
def Accepted (s : Setting) (lookup : String → Option String) : Prop :=
  ∃ raw, lookup s.name = some raw ∧ (s.read raw).isSome = true

theorem accepted_iff {s : Setting} {lookup : String → Option String} :
    s.Accepted lookup ↔ ((lookup s.name).bind s.read).isSome = true := by
  unfold Accepted
  cases lookup s.name with
  | none => simp
  | some raw => simp

theorem exists_iff {p : Setting → Prop} :
    (∃ s, p s) ↔ p memoryLimit ∨ p allowedIdle ∨ p swapEnabled := by
  constructor
  · rintro ⟨_ | _ | _, h⟩
    · exact .inl h
    · exact .inr (.inl h)
    · exact .inr (.inr h)
  · rintro (h | h | h) <;> exact ⟨_, h⟩

theorem name_injective : Function.Injective name := by
  rintro (_ | _ | _) (_ | _ | _) same <;> first | rfl | exact absurd same (by decide)

end Setting

/-! ## What is loaded -/

variable {lookup : String → Option String}

theorem load_of_fuzzing (h : (lookup fuzzingVariable).isSome = true) : load lookup = builtIn :=
  if_pos h

theorem get_load (h : lookup fuzzingVariable = none) (s : Setting) :
    s.get (load lookup) = ((lookup s.name).bind s.read).getD (s.get builtIn) := by
  unfold load
  rw [h]
  cases s <;> rfl

/-- The provenance says whether any value was accepted, and nothing else. -/
theorem provenance_load (h : lookup fuzzingVariable = none) :
    ((∃ s : Setting, s.Accepted lookup) → (load lookup).provenance = .environment "GFXSWAP_*") ∧
      ((¬ ∃ s : Setting, s.Accepted lookup) → (load lookup).provenance = .builtIn) := by
  have any : (∃ s : Setting, s.Accepted lookup) ↔
      (((lookup memoryLimitVariable).bind readMemoryLimit).isSome ||
        ((lookup allowedIdleVariable).bind readAllowedIdle).isSome ||
        ((lookup swapEnabledVariable).bind readSwitch).isSome) = true := by
    simp only [Setting.exists_iff, Setting.accepted_iff, Bool.or_eq_true, or_assoc]
    rfl
  rw [any]
  unfold load
  rw [h]
  exact ⟨fun accepted => if_pos accepted, fun refused => if_neg refused⟩

theorem swapInterval_load (lookup : String → Option String) :
    (load lookup).swapInterval = builtIn.swapInterval := by
  unfold load
  split <;> rfl

/-- What is loaded for a setting has a property that acceptable values and the built-in one
have. -/
theorem get_load_induction {s : Setting} {P : s.Value → Prop} (builtin : P (s.get builtIn))
    (read : ∀ raw value, s.read raw = some value → P value) (lookup : String → Option String) :
    P (s.get (load lookup)) := by
  cases present : lookup fuzzingVariable with
  | some _ => rwa [load_of_fuzzing (by rw [present]; rfl)]
  | none =>
    rw [get_load present]
    cases accepted : (lookup s.name).bind s.read with
    | none => exact builtin
    | some value =>
      obtain ⟨raw, -, is⟩ := Option.bind_eq_some_iff.1 accepted
      exact read raw value is

theorem memoryLimit_load (lookup : String → Option String) :
    0 ≤ (load lookup).memoryLimit ∧ (load lookup).memoryLimit ≤ Amount.greatest := by
  refine get_load_induction (s := .memoryLimit)
    (P := fun limit : ℤ => 0 ≤ limit ∧ limit ≤ Amount.greatest)
    (show 0 ≤ builtIn.memoryLimit ∧ builtIn.memoryLimit ≤ Amount.greatest by decide) ?_ lookup
  intro raw limit read
  obtain ⟨-, n, -, -, small, rfl⟩ := readMemoryLimit_eq_some.1 read
  unfold Amount.greatest
  omega

theorem allowedIdle_load (lookup : String → Option String) :
    ∃ n < 2 ^ 64, (load lookup).allowedIdle = .ofSeconds n := by
  refine get_load_induction (s := .allowedIdle)
    (P := fun idle => ∃ n < 2 ^ 64, idle = Span.ofSeconds n) ⟨10, by decide, rfl⟩ ?_ lookup
  intro raw idle read
  obtain ⟨-, n, -, -, small, rfl⟩ := readAllowedIdle_eq_some.1 read
  exact ⟨n, small, rfl⟩

/-- Every look-up of variables loads a configuration, in whole seconds and bytes of the 64-bit
range, and never with a negative limit. The fuzzing variable brings it back to the built-in one.
Without it each setting is the value of its own variable, or built in if there is none to accept; so
two look-ups that differ in one variable load configurations that differ in its setting and in
provenance only. The provenance is the environment exactly if some value was accepted, also if it is
the built-in one, and the swap interval is never loaded. -/
theorem settings_do_not_interfere :
    (∀ lookup, (lookup fuzzingVariable).isSome = true → load lookup = builtIn) ∧
    (∀ lookup, lookup fuzzingVariable = none →
      (∀ s : Setting, s.get (load lookup) = ((lookup s.name).bind s.read).getD (s.get builtIn)) ∧
      ((∃ s : Setting, s.Accepted lookup) →
        (load lookup).provenance = .environment "GFXSWAP_*") ∧
      ((¬ ∃ s : Setting, s.Accepted lookup) → (load lookup).provenance = .builtIn)) ∧
    (∀ lookup lookup', lookup fuzzingVariable = none → lookup' fuzzingVariable = none →
      ∀ s : Setting, (∀ name, name ≠ s.name → lookup name = lookup' name) →
        ∀ t : Setting, t ≠ s → t.get (load lookup) = t.get (load lookup')) ∧
    ∀ lookup, (load lookup).swapInterval = builtIn.swapInterval ∧
      0 ≤ (load lookup).memoryLimit ∧ (load lookup).memoryLimit ≤ Amount.greatest ∧
      ∃ n < 2 ^ 64, (load lookup).allowedIdle = .ofSeconds n := by
  refine ⟨fun _ => load_of_fuzzing, fun lookup absent => ⟨get_load absent, provenance_load absent⟩,
    ?_, fun lookup => ⟨swapInterval_load lookup, (memoryLimit_load lookup).1,
      (memoryLimit_load lookup).2, allowedIdle_load lookup⟩⟩
  intro lookup lookup' absent absent' s same t other
  rw [get_load absent, get_load absent', same t.name (Setting.name_injective.ne other)]

/-- The built-in limit, written out, is accepted; a switch that cannot be read next to it changes
nothing, and under fuzzing nothing is read at all. -/
theorem built_in_limit_is_accepted :
    let limit := (memoryLimitVariable, "300000000")
    let lookup (entries : List (String × String)) (name : String) := entries.lookup name
    (load (lookup [limit])).memoryLimit = 300000000 ∧
      (load (lookup [limit])).provenance = .environment "GFXSWAP_*" ∧
      (load (lookup [limit, (swapEnabledVariable, "maybe")])).memoryLimit = 300000000 ∧
      load (lookup [limit, (fuzzingVariable, "")]) = builtIn := by
  intro limit lookup
  obtain ⟨fuzzed, loaded, apart, -⟩ := settings_do_not_interfere
  have absent : lookup [limit] fuzzingVariable = none := by decide
  have absent' : lookup [limit, (swapEnabledVariable, "maybe")] fuzzingVariable = none := by decide
  obtain ⟨settings, environment, -⟩ := loaded _ absent
  have written : (load (lookup [limit])).memoryLimit = 300000000 := by
    refine (settings .memoryLimit).trans ?_
    show (readMemoryLimit "300000000").getD builtIn.memoryLimit = 300000000
    decide +kernel
  have same : ∀ name, name ≠ Setting.swapEnabled.name →
      lookup [limit, (swapEnabledVariable, "maybe")] name = lookup [limit] name := by
    intro name other
    have missed : (name == swapEnabledVariable) = false := beq_false_of_ne other
    simp [lookup, limit, List.lookup_cons, missed]
  exact ⟨written, environment ⟨.memoryLimit, "300000000", by decide, by decide +kernel⟩,
    (apart _ _ absent' absent .swapEnabled same .memoryLimit (by decide)).trans written,
    fuzzed _ (by decide)⟩

/-! ## Numbers in the environment -/

/-- The text of a number, with zeros in front of it and white space around. -/
def padded (before : String) (zeros n : ℕ) (after : String) : String :=
  before ++ String.ofList (List.replicate zeros '0') ++ toString n ++ after

theorem denotes_padded {before after : String} (blank : Blank before.toList)
    (blank' : Blank after.toList) (zeros n : ℕ) :
    Denotes (padded before zeros n after).toList .none n := by
  refine ⟨before.toList, _, after.toList, blank, blank', (spells_toString n).zeros zeros, ?_⟩
  unfold padded
  rw [String.toList_append, String.toList_append, String.toList_append, String.toList_ofList,
    List.append_assoc before.toList]
  rfl

theorem readMemoryLimit_eq_none {raw : String} {sign : Sign} {n : ℕ}
    (h : Denotes raw.toList sign n) (large : 2 ^ 63 ≤ n) : readMemoryLimit raw = none := by
  refine Option.eq_none_iff_forall_ne_some.2 fun limit read => ?_
  obtain ⟨sign', m, h', -, small, -⟩ := readMemoryLimit_eq_some.1 read
  have same := h.unique h'
  omega

theorem readAllowedIdle_eq_none {raw : String} {sign : Sign} {n : ℕ}
    (h : Denotes raw.toList sign n) (large : 2 ^ 64 ≤ n) : readAllowedIdle raw = none := by
  refine Option.eq_none_iff_forall_ne_some.2 fun idle read => ?_
  obtain ⟨sign', m, h', -, small, -⟩ := readAllowedIdle_eq_some.1 read
  have same := h.unique h'
  omega

variable {raw : String}

theorem get_load_of_some {s : Setting} {value : s.Value} (absent : lookup fuzzingVariable = none)
    (there : lookup s.name = some raw) (read : s.read raw = some value) :
    s.get (load lookup) = value := by
  rw [get_load absent, there, Option.bind_some, read, Option.getD_some]

theorem get_load_of_none {s : Setting} (absent : lookup fuzzingVariable = none)
    (there : lookup s.name = some raw) (read : s.read raw = none) :
    s.get (load lookup) = s.get builtIn := by
  rw [get_load absent, there, Option.bind_some, read, Option.getD_none]

/-- A memory limit is accepted exactly if its text has, between white space, a sign or none and the
digits of a number below `2 ^ 63`, the minus sign only before zeros; an idle time exactly if it has
no minus sign and the number is below `2 ^ 64`. The value is that of the digits. So every number in
range is loaded from its text, with zeros in front and white space around it or not, and no text of
a number above the range is loaded. -/
theorem numbers_are_loaded_exactly :
    (∀ raw limit, readMemoryLimit raw = some limit ↔
      ∃ sign n, Denotes raw.toList sign n ∧ (sign = .minus → n = 0) ∧ n < 2 ^ 63 ∧ limit = n) ∧
    (∀ raw idle, readAllowedIdle raw = some idle ↔
      ∃ sign n, Denotes raw.toList sign n ∧ sign ≠ .minus ∧ n < 2 ^ 64 ∧ idle = .ofSeconds n) ∧
    ∀ lookup, lookup fuzzingVariable = none →
      (∀ before zeros n after, Blank before.toList → Blank after.toList →
        (n < 2 ^ 63 → lookup memoryLimitVariable = some (padded before zeros n after) →
          (load lookup).memoryLimit = n) ∧
        (n < 2 ^ 64 → lookup allowedIdleVariable = some (padded before zeros n after) →
          (load lookup).allowedIdle = .ofSeconds n)) ∧
      ∀ raw sign n, Denotes raw.toList sign n →
        (2 ^ 63 ≤ n → lookup memoryLimitVariable = some raw →
          (load lookup).memoryLimit = builtIn.memoryLimit) ∧
        (2 ^ 64 ≤ n → lookup allowedIdleVariable = some raw →
          (load lookup).allowedIdle = builtIn.allowedIdle) := by
  refine ⟨fun _ _ => readMemoryLimit_eq_some, fun _ _ => readAllowedIdle_eq_some,
    fun lookup absent => ⟨fun before zeros n after blank blank' => ?_, fun raw sign n h => ?_⟩⟩
  · have denoted := denotes_padded blank blank' zeros n
    constructor
    · intro small there
      exact get_load_of_some (s := .memoryLimit) absent there
        (readMemoryLimit_eq_some.2 ⟨.none, n, denoted, by simp, small, rfl⟩)
    · intro small there
      exact get_load_of_some (s := .allowedIdle) absent there
        (readAllowedIdle_eq_some.2 ⟨.none, n, denoted, by simp, small, rfl⟩)
  · constructor
    · intro large there
      exact get_load_of_none (s := .memoryLimit) absent there (readMemoryLimit_eq_none h large)
    · intro large there
      exact get_load_of_none (s := .allowedIdle) absent there (readAllowedIdle_eq_none h large)

/-- The greatest limit is loaded from a text with a no-break space and a zero in front; one byte
more is not. -/
theorem greatest_limit_is_loaded :
    let lookup (entries : List (String × String)) (name : String) := entries.lookup name
    (load (lookup [(memoryLimitVariable, "\u00a009223372036854775807\n")])).memoryLimit =
        Amount.greatest ∧
      (load (lookup [(memoryLimitVariable, "9223372036854775808")])).memoryLimit = 300000000 := by
  intro lookup
  obtain ⟨-, -, loads⟩ := numbers_are_loaded_exactly
  constructor
  · have text : "\u00a009223372036854775807\n" = padded "\u00a0" 1 9223372036854775807 "\n" := by
      decide +kernel
    have front : Blank "\u00a0".toList := by
      rw [show "\u00a0".toList = ['\u00a0'] by decide]
      exact List.forall_mem_singleton.2 (by decide)
    have back : Blank "\n".toList := by
      rw [show "\n".toList = ['\n'] by decide]
      exact List.forall_mem_singleton.2 (by decide)
    obtain ⟨inRange, -⟩ := loads
      (lookup [(memoryLimitVariable, "\u00a009223372036854775807\n")]) (by decide)
    exact (inRange "\u00a0" 1 _ "\n" front back).1 (by decide) (congrArg some text)
  · have empty : Blank "".toList := List.forall_mem_nil _
    have denoted : Denotes "9223372036854775808".toList .none 9223372036854775808 :=
      denotes_padded empty empty 0 9223372036854775808
    obtain ⟨-, ignored⟩ := loads (lookup [(memoryLimitVariable, "9223372036854775808")]) (by decide)
    exact (ignored _ _ _ denoted).1 (by decide) rfl

end GraphicCache.Config
