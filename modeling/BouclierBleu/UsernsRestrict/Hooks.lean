/- GID: BouclierBleu/UsernsRestrict/Hooks
   source: bpf/userns_restrict.bpf.c, bpf/headers/bpf_fallbacks.h
   digest: The three hooks on user namespaces and on what is done from within them. -/

import BouclierBleu.Kernel.AlertStructs

set_option autoImplicit false
set_option relaxedAutoImplicit false

namespace BouclierBleu.UsernsRestrict.Hooks

open BouclierBleu.Kernel.AlertStructs (UsernsAlert)
open BouclierBleu.Kernel.ModuleCore
  (isModuleActive EPERM Outcome CStr Task KernelStr probeReadKernelStr spells)

def ACTION_USERNS_CREATE : UInt32 := 1

def ACTION_CAP_SYS_ADMIN : UInt32 := 2

def ACTION_MOUNT_DEV : UInt32 := 3

def CAP_SYS_ADMIN : Int := 21

/-- `AUDIT_UID_UNSET` -/
def unsetUid : UInt32 := 0xFFFFFFFF

/-- `dispatch_userns_alert` -/
def dispatchUsernsAlert (reserved : Bool) (task : Task) (actionType : UInt32)
    (targetStr : String) : List UsernsAlert :=
  if reserved then
    [⟨task.tgid, actionType, .copy 64 CStr.fsTypeLen_pos (CStr.literal targetStr)⟩]
  else []

/-- The identities of the task that creates a namespace. -/
structure Creator where
  task : Task
  loginUid : UInt32
  parentUid : UInt32

/-- A user id that is known and not root's. -/
def ordinaryUid (uid : UInt32) : Bool := uid != 0 && uid != unsetUid

def usernsRestrictCreate (stateMap : Option UInt32) (reserved : Bool) (creator : Creator) :
    Outcome UsernsAlert :=
  if !isModuleActive stateMap then .quiet 0
  else if creator.task.getGlobalUid != 0 then
    ⟨-EPERM, dispatchUsernsAlert reserved creator.task ACTION_USERNS_CREATE
      "unshare() - Direct Unprivileged", []⟩
  else if ordinaryUid creator.loginUid then
    ⟨-EPERM, dispatchUsernsAlert reserved creator.task ACTION_USERNS_CREATE
      "unshare() - SUID/Ancestry Evasion", []⟩
  else if ordinaryUid creator.parentUid then
    ⟨-EPERM, dispatchUsernsAlert reserved creator.task ACTION_USERNS_CREATE
      "unshare() - SUID Proxy Fallback", []⟩
  else .quiet 0

/-- `nsLevel` is the depth of the namespace the capability is asked for in. -/
def usernsRestrictCapable (stateMap : Option UInt32) (reserved : Bool) (task : Task)
    (nsLevel : UInt32) (cap : Int) : Outcome UsernsAlert :=
  if !isModuleActive stateMap then .quiet 0
  else if cap != CAP_SYS_ADMIN then .quiet 0
  else if nsLevel > 0 then
    ⟨-EPERM, dispatchUsernsAlert reserved task ACTION_CAP_SYS_ADMIN
      "CAP_SYS_ADMIN in container", []⟩
  else .quiet 0

def startsWith (text : String) (s : KernelStr) : Bool :=
  match probeReadKernelStr 16 CStr.commLen_pos s with
  | none => false
  | some buf => spells buf.bytes 0 text

/-- `userNs` is the depth of the task's own namespace, if it has one. -/
def usernsRestrictSbMount (stateMap : Option UInt32) (reserved : Bool) (task : Task)
    (userNs : Option UInt32) (devName type : KernelStr) : Outcome UsernsAlert :=
  if !isModuleActive stateMap then .quiet 0
  else
    let level := userNs.getD 0
    if level > 0 then
      if startsWith "/dev" devName || startsWith "devt" type then
        ⟨-EPERM, dispatchUsernsAlert reserved task ACTION_MOUNT_DEV "Host /dev mount attempt", []⟩
      else .quiet 0
    else .quiet 0

section Verdict

variable {stateMap : Option UInt32} {reserved : Bool}

/-- Root may create namespaces, unless it came from an ordinary login or an ordinary parent. -/
theorem usernsRestrictCreate_denied_iff {creator : Creator} :
    (usernsRestrictCreate stateMap reserved creator).Denied ↔
      isModuleActive stateMap = true ∧ (creator.task.getGlobalUid ≠ 0 ∨
        ordinaryUid creator.loginUid = true ∨ ordinaryUid creator.parentUid = true) := by
  unfold usernsRestrictCreate
  cases isModuleActive stateMap with
  | false => simp
  | true =>
    by_cases root : creator.task.getGlobalUid = 0
    · cases login : ordinaryUid creator.loginUid with
      | true => simp [root, Outcome.Denied, EPERM]
      | false =>
        cases parent : ordinaryUid creator.parentUid <;> simp [root, Outcome.Denied, EPERM]
    · simp [root, Outcome.Denied, EPERM]

/-- In a nested namespace, devices and device filesystems cannot be mounted. -/
theorem usernsRestrictSbMount_denied_iff {task : Task} {userNs : Option UInt32}
    {devName type : KernelStr} :
    (usernsRestrictSbMount stateMap reserved task userNs devName type).Denied ↔
      isModuleActive stateMap = true ∧ userNs.getD 0 > 0 ∧
        (startsWith "/dev" devName = true ∨ startsWith "devt" type = true) := by
  unfold usernsRestrictSbMount
  cases isModuleActive stateMap with
  | false => simp
  | true =>
    by_cases nested : userNs.getD 0 > 0
    · cases device : startsWith "/dev" devName <;> cases kind : startsWith "devt" type <;>
        simp [nested, Outcome.Denied, EPERM]
    · simp [nested]

end Verdict

end BouclierBleu.UsernsRestrict.Hooks
