/-
Reading a configuration from environment variables. Three variables each decide one setting; a
value that cannot be read leaves its setting as built in, so reading never fails. A fourth variable
switches the other three off by being there.
-/
import GraphicCache.Config
import GraphicCache.Text.Blank
import GraphicCache.Text.Lowercase
import GraphicCache.Text.Numeral

namespace GraphicCache.Config

/-! ## Variables -/

/-- Names the memory limit in bytes. -/
def memoryLimitVariable : String := "GFXSWAP_MEMORY_LIMIT"

/-- Names the allowed idle time in whole seconds. -/
def allowedIdleVariable : String := "GFXSWAP_ALLOWED_IDLE_TIME"

/-- Switches swapping on or off. -/
def swapEnabledVariable : String := "GFXSWAP_SWAP_ENABLED"

/-- Keeps the built-in settings whatever the other variables say. -/
def fuzzingVariable : String := "GFXSWAP_FUZZING"

/-! ## Values -/

/-- A memory limit: a signed numeral that is not negative, between optional white space. -/
def readMemoryLimit (raw : String) : Option Int :=
  (Text.readSigned64 (Text.trim raw.toList)).filter fun n => 0 ≤ n

/-- An idle time: an unsigned numeral of seconds, between optional white space. -/
def readAllowedIdle (raw : String) : Option Span :=
  (Text.readUnsigned64 (Text.trim raw.toList)).map Span.ofSeconds

/-- The words that switch something on. -/
def wordsForOn : List String := ["true", "1", "yes", "on"]

/-- The words that switch something off. -/
def wordsForOff : List String := ["false", "0", "no", "off"]

/-- A switch: one of eight words in any case, between optional white space. -/
def readSwitch (raw : String) : Option Bool :=
  let word := Text.lower (Text.trim raw.toList)
  if wordsForOn.any (·.toList == word) then some true
  else if wordsForOff.any (·.toList == word) then some false
  else none

/-! ## Loading -/

/-- The configuration that a look-up of variables asks for. -/
def load (lookup : String → Option String) : Config :=
  if (lookup fuzzingVariable).isSome then builtIn
  else
    let limit := (lookup memoryLimitVariable).bind readMemoryLimit
    let idle := (lookup allowedIdleVariable).bind readAllowedIdle
    let enabled := (lookup swapEnabledVariable).bind readSwitch
    { memoryLimit := limit.getD builtIn.memoryLimit
      allowedIdle := idle.getD builtIn.allowedIdle
      swapEnabled := enabled.getD builtIn.swapEnabled
      swapInterval := builtIn.swapInterval
      provenance :=
        if limit.isSome || idle.isSome || enabled.isSome then .environment "GFXSWAP_*"
        else .builtIn }

example : readSwitch " YeS\n" = some true := by decide +kernel
example : readMemoryLimit "-0" = some 0 := by decide +kernel
example : readMemoryLimit "-1" = none := by decide +kernel

end GraphicCache.Config
