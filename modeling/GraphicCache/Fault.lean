/-
What can fail: installing a configuration, the swap file of a graphic, and using a graphic that has
nothing to show. Accounting and eviction never fail. A fault has a message for people, a
description for programmers, and sometimes the text of the failure below it.
-/
import GraphicCache.SwapFile.Codec

namespace GraphicCache

/-- A failure that is reported to the caller. -/
inductive Fault where
  | configuration (message : String)
  /-- Creating, writing or positioning a swap file failed. -/
  | swapIo (operation source : String)
  /-- A payload could not be written in the format of swap files, or read from it. -/
  | swapCodec (operation source : String)
  /-- The graphic has nothing in memory and nothing to restore it from. -/
  | notAvailable (id : Nat)
  | tracing (message : String)
  deriving DecidableEq, Repr

namespace Fault

/-- No swap file can be created. -/
def noSwapFile : Fault := .swapIo "create" "no space for swap files"

/-- The swap file holds no payload. -/
def undecodable (e : SwapFile.DecodeError) : Fault := .swapCodec "decode" e.message

/-- There already is a cache for the whole process. -/
def alreadyInitialised : Fault :=
  .configuration "graphic cache manager is already initialised"

/-- There already is a receiver of trace events. -/
def alreadyTracing : Fault := .tracing "a global default trace dispatcher has already been set"

/-! ## Wording -/

/-- The message up to the text of the failure below, which only a swap file's has. -/
def headline : Fault → String
  | .configuration message => "configuration error: " ++ message
  | .swapIo operation _ => "swap file " ++ operation ++ " failed"
  | .swapCodec operation source => "failed to " ++ operation ++ " swapped payload: " ++ source
  | .notAvailable id => "graphic " ++ toString id ++ " has no payload available"
  | .tracing message => "failed to initialise tracing: " ++ message

def message (f : Fault) : String :=
  match f with
  | .swapIo _ source => f.headline ++ ": " ++ source
  | _ => f.headline

/-- The text of the failure below. -/
def source? : Fault → Option String
  | .swapIo _ source => some source
  | .swapCodec _ source => some source
  | _ => none

def isSwapFailure : Fault → Bool
  | .swapIo .. => true
  | .swapCodec .. => true
  | _ => false

def describe : Fault → String
  | .configuration message =>
    Text.record "Configuration" [Text.field "message" (Text.quoted message)]
  | .swapIo operation source =>
    Text.record "SwapIo" [
      Text.field "operation" (Text.quoted operation),
      Text.field "source" <| Text.record "Custom" [
        Text.field "kind" "Other",
        Text.field "error" (Text.quoted source)]]
  | .swapCodec operation source =>
    Text.record "SwapCodec" [
      Text.field "operation" (Text.quoted operation),
      Text.field "source" (Text.quoted source)]
  | .notAvailable id => Text.record "NotAvailable" [Text.field "id" (toString id)]
  | .tracing message => Text.record "Tracing" [Text.field "message" (Text.quoted message)]

end Fault

end GraphicCache
