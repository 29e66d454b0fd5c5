/- GID: BouclierBleu/Daemon/SecurityModules
   source: modules/src/common/macros.rs, modules/src/*.rs
   digest: What the module macro makes of the declared watchlists: capacities and init. -/

import BouclierBleu.Daemon.Config
import BouclierBleu.Daemon.FsUtils
import BouclierBleu.Daemon.Ipc

set_option autoImplicit false
set_option relaxedAutoImplicit false

namespace BouclierBleu.Daemon.SecurityModules

open BouclierBleu.Daemon.Config (ConfigFile pipeMapSize)
open BouclierBleu.Daemon.FsUtils
open BouclierBleu.Daemon.Ipc (trim splitWhitespace)
open BouclierBleu.Kernel.AlertStructs (Endian)
open BouclierBleu.Kernel.ModuleCore (CStr)
open BouclierBleu.Library.LossyUtf8 (encode)

/-- `xattr_watchlist` of `define_security_module!`; its `attribute` is the name of one. -/
structure XattrWatchlist where
  mapName : String
  xattrName : String
  targetPaths : List String

/-- `dynamic_watchlist` of `define_security_module!`. -/
structure DynamicWatchlist where
  mapName : String
  targetPaths : List String
  entryType : EntryType
  minCapacity : UInt32
  ignoreHidden : Bool
  allowHidden : List String

/-- The machine a module is set up on. `configFile` is the file io_restrict reads again, and
`corePattern` what reading `/proc/sys/kernel/core_pattern` gives. -/
structure Host where
  endian : Endian
  fs : Fs
  configFile : ConfigFile
  corePattern : Option (List Char)

/-- `get_map` of the skeleton; a map is what an update does to it. -/
abbrev MapProvider (M : Type) := String → Except String (Update M)

/-- The parts of `define_security_module!` that watchlists come from. -/
structure Declaration (M : Type) where
  slug : String
  xattrWatchlist : Option XattrWatchlist
  dynamicWatchlist : Option DynamicWatchlist
  capacities : Option (Host → List (String × UInt32))
  init : Option (Host → MapProvider M → Populating M Unit)

/-- A target path of the source, all of which are ASCII. -/
def targets (paths : List String) : List OsText := paths.map CStr.literal

namespace XattrWatchlist

variable (w : XattrWatchlist) (host : Host) {M : Type}

def capacity : UInt32 :=
  calculateDynamicCapacity host.fs (targets w.targetPaths) .file 2048 false []

def populate (map : Update M) : Populating M Unit :=
  populateMapFromXattr host.endian host.fs map w.mapName (targets w.targetPaths) w.xattrName

end XattrWatchlist

namespace DynamicWatchlist

variable (w : DynamicWatchlist) (host : Host) {M : Type}

def capacity : UInt32 :=
  calculateDynamicCapacity host.fs (targets w.targetPaths) w.entryType w.minCapacity
    w.ignoreHidden w.allowHidden

def populate (map : Update M) : Populating M Unit :=
  populateMapFromPaths host.endian host.fs map (targets w.targetPaths) w.entryType
    w.ignoreHidden w.allowHidden

end DynamicWatchlist

section Macro

variable {M : Type} (d : Declaration M) (host : Host)

/-- `map_capacities`; of two entries for one map the later one, in front here, counts. -/
def Declaration.mapCapacities : List (String × UInt32) :=
  let caps : List (String × UInt32) :=
    match d.xattrWatchlist with
    | some w => [(w.mapName, w.capacity host)]
    | none => []
  let caps :=
    match d.dynamicWatchlist with
    | some w => (w.mapName, w.capacity host) :: caps
    | none => caps
  match d.capacities with
  | some closure => closure host ++ caps
  | none => caps

/-- `?` on a map lookup. -/
def getMap (provider : MapProvider M) (name : String) : Populating M (Update M) :=
  liftM (provider name)

theorem execute_getMap (provider : MapProvider M) (name : String) (m : M) :
    execute (getMap provider name) m = (provider name, m) := rfl

/-- `init` -/
def Declaration.runInit (provider : MapProvider M) : Populating M Unit := do
  match d.xattrWatchlist with
  | some w =>
    let map ← getMap provider w.mapName
    w.populate host map
  | none => pure ()
  match d.dynamicWatchlist with
  | some w =>
    let map ← getMap provider w.mapName
    w.populate host map
  | none => pure ()
  match d.init with
  | some closure => closure host provider
  | none => pure ()

end Macro

section Modules

variable (M : Type)

def execBlock : Declaration M where
  slug := "exec_block"
  xattrWatchlist := none
  dynamicWatchlist := some
    { mapName := "protected_dirs"
      targetPaths := ["/tmp", "/var/tmp", "/dev/shm", "/var/crash", "/dev/mqueue", "/run/user"]
      entryType := .directory
      minCapacity := 8192
      ignoreHidden := false
      allowHidden := [] }
  capacities := none
  init := none

def renameEntropy : Declaration M where
  slug := "rename_entropy"
  xattrWatchlist := none
  dynamicWatchlist := some
    { mapName := "protected_dirs"
      targetPaths := ["/home", "/var", "/etc", "/opt"]
      entryType := .directory
      minCapacity := 8192
      ignoreHidden := true
      allowHidden := [".ssh", ".gnupg", ".aws", ".kube", ".docker", ".config"] }
  capacities := none
  init := none

def strictWx : Declaration M where
  slug := "strict_wx"
  xattrWatchlist := some
    { mapName := "strict_wx_binaries"
      xattrName := "user.bouclier.strict_wx"
      targetPaths := ["/bin", "/sbin", "/usr/bin", "/usr/sbin", "/opt"] }
  dynamicWatchlist := none
  capacities := none
  init := none

def ioRestrict : Declaration M where
  slug := "io_restrict"
  xattrWatchlist := some
    { mapName := "io_restrict_binaries"
      xattrName := "user.bouclier.io_restrict"
      targetPaths := ["/bin", "/sbin", "/usr/bin", "/usr/sbin", "/opt"] }
  dynamicWatchlist := none
  capacities := some fun host => [("pipe_taint_map", pipeMapSize host.configFile)]
  init := none

/-- One of the statically named files, with what the kernel answers when its key is offered;
`none` when the file has no key. -/
def offer {M : Type} (host : Host) (map : Update M) (path : String) (m : M) :
    Option (Except String M) :=
  (getSecureHardwareKey host.endian host.fs (CStr.literal path)).map fun key => map key m

/-- The `init` of shield; an update that fails is only reported. -/
def initShield (host : Host) (provider : MapProvider M) : Populating M Unit := do
  let map ← getMap provider "protected_files"
  ["/etc/bouclier-bleu/config.toml", "/usr/bin/bouclier-bleu-core"].forM fun path =>
    modify fun m =>
      match offer host map path m with
      | some (.ok m') => m'
      | some (.error _) | none => m

def shield : Declaration M where
  slug := "shield"
  xattrWatchlist := none
  dynamicWatchlist := none
  capacities := some fun _ => [("protected_files", 2)]
  init := some (initShield M)

def targetBinaries : List String := [
  "/usr/sbin/sshd", "/usr/bin/sshd", "/usr/sbin/sshd-session", "/usr/bin/sshd-session",
  "/usr/bin/passwd", "/usr/bin/su", "/usr/bin/sudo",
  "/sbin/pam_timestamp_check", "/usr/sbin/pam_timestamp_check", "/sbin/unix_chkpwd",
  "/usr/sbin/unix_chkpwd",
  "/usr/sbin/sssd", "/usr/bin/sssd", "/usr/lib/systemd/systemd-logind",
  "/usr/lib/polkit-1/polkitd", "/usr/libexec/polkit-1/polkitd",
  "/usr/bin/gnome-keyring-daemon", "/usr/bin/kwalletd5", "/usr/bin/gpg-agent",
  "/usr/sbin/gdm3", "/usr/sbin/gdm", "/usr/bin/gdm", "/usr/sbin/lightdm", "/usr/bin/lightdm",
  "/usr/bin/sddm"]

/-- The loop of ptrace_block's `init` over the binaries: the count and the map after it. -/
def protectBinaries {M : Type} (host : Host) (map : Update M) :
    List String → Nat × M → Nat × M
  | [], counted => counted
  | path :: rest, (protectionCount, m) =>
    match offer host map path m with
    | some (.ok m') => protectBinaries host map rest (protectionCount + 1, m')
    | some (.error _) | none => protectBinaries host map rest (protectionCount, m)

def initPtraceBlock (host : Host) (provider : MapProvider M) : Populating M Unit := do
  let map ← getMap provider "protected_processes"
  let m ← get
  let (protectionCount, m) := protectBinaries host map targetBinaries (0, m)
  set m
  if protectionCount == 0 then
    throw "Credential protection initialization failed: Watchlist empty"

def ptraceBlock : Declaration M where
  slug := "ptrace_block"
  xattrWatchlist := none
  dynamicWatchlist := none
  capacities := some fun _ => [("protected_processes", 256)]
  init := some (initPtraceBlock M)

/-- The path of a piped `core_pattern` handler. -/
def pipedHandler (host : Host) : Option (List Char) := do
  let corePattern ← host.corePattern
  match trim corePattern with
  | '|' :: stripped => (splitWhitespace stripped).head?
  | _ => none

def initDumpRestrict (host : Host) (provider : MapProvider M) : Populating M Unit := do
  let protectedFiles ← getMap provider "protected_files"
  match pipedHandler host with
  | none => pure ()
  | some path =>
    match getSecureHardwareKey host.endian host.fs (encode path) with
    | some key =>
      updateMap protectedFiles (fun e => s!"Failed to update protected_files map: {e}") key
    | none => pure ()

def dumpRestrict : Declaration M where
  slug := "dump_restrict"
  xattrWatchlist := none
  dynamicWatchlist := none
  capacities := some fun _ => [("protected_files", 16)]
  init := some (initDumpRestrict M)

/-- A module with neither a watchlist nor closures. -/
def plain (slug : String) : Declaration M := ⟨slug, none, none, none, none⟩

/-- The declarations in the order of the registry. -/
def declarations : List (Declaration M) := [
  execBlock M, renameEntropy M, shield M, plain M "mount_secure", strictWx M, ptraceBlock M,
  dumpRestrict M, plain M "userns_restrict", plain M "madvise_ratelimit", ioRestrict M]

end Modules

end BouclierBleu.Daemon.SecurityModules
