import Intake.ByteSize

/-!
The limits of uploads: those that a server is configured with, and the settings of one
upload that follow from them.

A limit in MiB given with an upload replaces the configured ceiling (`settings`); one
given by a remote client can only lower it (`cappedSettings`, `limit_cappedSettings_le`).
-/

namespace Intake

/-- The ceiling where nothing else is said: 32 MiB. -/
def defaultLimit : Nat := 32 * ByteSize.mib

/-- The limits that apply to one upload. -/
structure UploadSettings where
  /-- The most bytes that the wanted field may have. -/
  limit : Nat
  /-- The most bytes that any other field may have. -/
  memoryCap : Nat
  /-- Bytes copied per step. -/
  chunkSize : Nat
  /-- Allowance taken off a declared length before it is compared with the limit. -/
  framingOverhead : Nat
deriving DecidableEq, Repr

/-- The configured limits for files. -/
structure FileLimits where
  maxFileSize : Nat := defaultLimit
  memoryLimit : Nat := defaultLimit
  /-- Bytes copied per step; the memory limit when unset. -/
  chunkSize : Option Nat := none
  framingOverhead : Nat := 20
deriving DecidableEq, Repr, Inhabited

namespace FileLimits

/-- The settings of an upload whose ceiling the caller may replace. -/
def settings (limits : FileLimits) (limitMib : Option Nat) : UploadSettings where
  limit := (limitMib.map ByteSize.ofMib).getD limits.maxFileSize
  memoryCap := limits.memoryLimit
  chunkSize := limits.chunkSize.getD limits.memoryLimit
  framingOverhead := limits.framingOverhead

/-- The settings of an upload whose ceiling a remote client may lower. -/
def cappedSettings (limits : FileLimits) (limitMib : Option Nat) : UploadSettings :=
  let asked := limits.settings limitMib
  { asked with limit := min asked.limit limits.maxFileSize }

theorem limit_cappedSettings_le (limits : FileLimits) (limitMib : Option Nat) :
    (limits.cappedSettings limitMib).limit ≤ limits.maxFileSize :=
  Nat.min_le_right ..

end FileLimits

/-- The settings of an upload under default limits. -/
def UploadSettings.default : UploadSettings :=
  ({} : FileLimits).settings none

end Intake
