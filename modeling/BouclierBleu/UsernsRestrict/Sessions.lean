/- GID: BouclierBleu/UsernsRestrict/Sessions
   source: bpf/userns_restrict.bpf.c
   digest: How long what a user has started stays out of user namespaces of its own. -/

import BouclierBleu.Library.Trace
import BouclierBleu.UsernsRestrict.Hooks
import Mathlib.Logic.Function.Basic

set_option autoImplicit false
set_option relaxedAutoImplicit false

namespace BouclierBleu.UsernsRestrict.Sessions

open BouclierBleu.Kernel.ModuleCore (Task isModuleActive)
open BouclierBleu.Library.Trace (Move Run)
open BouclierBleu.UsernsRestrict.Hooks

/-- `level` is the depth of the process's user namespace. `session` is a history that nothing
reads: whether a user's login is among what the process descends from. -/
structure Process where
  uid : UInt32
  loginUid : UInt32
  parent : UInt32
  level : Nat
  session : Bool

structure System where
  stateMap : Option UInt32
  processes : UInt32 → Option Process

def System.put (s : System) (pid : UInt32) (p : Process) : System :=
  { s with processes := Function.update s.processes pid (some p) }

/-- The user of the parent; the idle task, which is in no table, is root's. -/
def System.parentUid (s : System) (p : Process) : UInt32 :=
  ((s.processes p.parent).map Process.uid).getD 0

/-- What `userns_restrict_create` reads of a process. -/
def System.creator (s : System) (pid : UInt32) (p : Process) : Creator where
  task := ⟨pid.toUInt64 <<< 32, p.uid, none⟩
  loginUid := p.loginUid
  parentUid := s.parentUid p

/-- The children of a process that exits go to `reaper`. -/
def System.exit (s : System) (pid reaper : UInt32) : System :=
  { s with
    processes := fun k =>
      if k = pid then none
      else (s.processes k).map fun q => if q.parent = pid then { q with parent := reaper } else q }

/-- `login` starts a session, and sets the login uid if the audit subsystem is there to do so;
`relogin` is root setting it anew. `setuid` is any change of user, that by a setuid program
included. -/
inductive Event
  | fork (parent child : UInt32)
  | exit (pid reaper : UInt32)
  | setuid (pid uid : UInt32)
  | login (pid uid : UInt32) (audited : Bool)
  | relogin (pid uid : UInt32)
  | unshare (pid : UInt32)
  | setns (pid : UInt32) (level : Nat)
  | toggle (value : UInt32)

inductive Step : System → Event → System → Prop
  | fork {s : System} {parent child : UInt32} {p : Process}
      (found : s.processes parent = some p) (free : s.processes child = none) :
      Step s (.fork parent child) (s.put child { p with parent := parent })
  | exit {s : System} {pid reaper : UInt32} :
      Step s (.exit pid reaper) (s.exit pid reaper)
  | setuid {s : System} {pid uid : UInt32} {p : Process} (found : s.processes pid = some p) :
      Step s (.setuid pid uid) (s.put pid { p with uid := uid })
  | login {s : System} {pid uid : UInt32} {audited : Bool} {p : Process}
      (found : s.processes pid = some p) (unset : p.loginUid = unsetUid) :
      Step s (.login pid uid audited) (s.put pid { p with
        loginUid := if audited then uid else p.loginUid
        session := p.session || ordinaryUid uid })
  | relogin {s : System} {pid uid : UInt32} {p : Process} (found : s.processes pid = some p) :
      Step s (.relogin pid uid) (s.put pid { p with loginUid := uid })
  | unshare {s : System} {pid : UInt32} {p : Process} {reserved : Bool}
      (found : s.processes pid = some p)
      (allowed : ¬ (usernsRestrictCreate s.stateMap reserved (s.creator pid p)).Denied) :
      Step s (.unshare pid) (s.put pid { p with level := p.level + 1 })
  | setns {s : System} {pid : UInt32} {level : Nat} {p : Process}
      (found : s.processes pid = some p) :
      Step s (.setns pid level) (s.put pid { p with level := level })
  | toggle {s : System} {value : UInt32} :
      Step s (.toggle value) { s with stateMap := some value }

/-- Nothing that a user's login has started is in a nested namespace. -/
def Confined (s : System) : Prop :=
  ∀ pid p, s.processes pid = some p → p.session = true → p.level = 0

/-- The hook has something to tell a user's process by. -/
def Telltale (s : System) (p : Process) : Prop :=
  p.uid ≠ 0 ∨ ordinaryUid p.loginUid = true ∨ ordinaryUid (s.parentUid p) = true

/-- What an event must avoid: that a user's process unshares while the module is off, or as root
with neither a login uid nor a parent that gives it away; and, which the hook does not see, that
one joins a namespace, or a session starts in one. -/
def Confines (s : System) : Event → Prop
  | .unshare pid => ∀ p, s.processes pid = some p → p.session = true →
    isModuleActive s.stateMap = true ∧ Telltale s p
  | .setns pid level => ∀ p, s.processes pid = some p → p.session = true → level = 0
  | .login pid uid _ => ∀ p, s.processes pid = some p → ordinaryUid uid = true → p.level = 0
  | .fork _ _ | .exit _ _ | .setuid _ _ | .relogin _ _ | .toggle _ => True

section Steps

variable {s t : System} {pid : UInt32} {p : Process}

theorem usernsRestrictCreate_denied_iff_telltale {reserved : Bool} :
    (usernsRestrictCreate s.stateMap reserved (s.creator pid p)).Denied ↔
      isModuleActive s.stateMap = true ∧ Telltale s p :=
  usernsRestrictCreate_denied_iff

/-- A change of one process counts if it is a user's. -/
private theorem confined_put_iff (confined : Confined s) (p' : Process) :
    Confined (s.put pid p') ↔ (p'.session = true → p'.level = 0) := by
  constructor
  · exact fun later => later pid p' (Function.update_self ..)
  · intro level k q found own
    by_cases same : k = pid
    · subst same
      cases (Function.update_self ..).symm.trans found
      exact level own
    · exact confined k q ((Function.update_of_ne same ..).symm.trans found) own

/-- What leaves the level and the session of a process alone leaves it confined. -/
private theorem confined_put (confined : Confined s) (found : s.processes pid = some p)
    {k : UInt32} {p' : Process} (session : p'.session = p.session) (level : p'.level = p.level) :
    Confined (s.put k p') := by
  refine (confined_put_iff confined p').mpr fun own => ?_
  rw [level]
  exact confined pid p found (session ▸ own)

/-- What is there after an exit was there before, but for its parent. -/
private theorem exists_of_exit {reaper k : UInt32} {q : Process}
    (found : (s.exit pid reaper).processes k = some q) :
    ∃ p, s.processes k = some p ∧ q.session = p.session ∧ q.level = p.level ∧
      q.loginUid = p.loginUid := by
  have found : (if k = pid then none else (s.processes k).map fun q =>
      if q.parent = pid then { q with parent := reaper } else q) = some q := found
  split at found
  · cases found
  · obtain ⟨p, here, rfl⟩ := Option.map_eq_some_iff.mp found
    refine ⟨p, here, ?_⟩
    split
    · exact ⟨rfl, rfl, rfl⟩
    · exact ⟨rfl, rfl, rfl⟩

private theorem confined_exit {reaper : UInt32} (confined : Confined s) :
    Confined (s.exit pid reaper) := by
  intro k q found own
  obtain ⟨p, here, session, level, _⟩ := exists_of_exit found
  rw [level]
  exact confined k p here (session ▸ own)

private theorem confined_step_iff {event : Event} (taken : Step s event t)
    (confined : Confined s) : Confined t ↔ Confines s event := by
  cases taken with
  | fork found free => exact iff_of_true (confined_put confined found rfl rfl) trivial
  | exit => exact iff_of_true (confined_exit confined) trivial
  | setuid found => exact iff_of_true (confined_put confined found rfl rfl) trivial
  | login found unset =>
    refine (confined_put_iff confined _).trans ?_
    constructor
    · intro level q here ordinary
      cases found.symm.trans here
      exact level (by rw [ordinary, Bool.or_true])
    · intro level own
      have old := confined _ _ found
      have new := level _ found
      rcases (Bool.or_eq_true _ _).mp own with before | ordinary
      · exact old before
      · exact new ordinary
  | relogin found => exact iff_of_true (confined_put confined found rfl rfl) trivial
  | unshare found allowed =>
    refine (confined_put_iff confined _).trans ?_
    rw [usernsRestrictCreate_denied_iff_telltale] at allowed
    constructor
    · intro level q here own
      cases found.symm.trans here
      exact absurd (level own) (Nat.succ_ne_zero _)
    · exact fun stopped own => absurd (stopped _ found own) allowed
  | setns found =>
    refine (confined_put_iff confined _).trans ?_
    constructor
    · intro level q here own
      cases found.symm.trans here
      exact level own
    · exact fun level own => level _ found own
  | toggle => exact iff_of_true confined trivial

/-- In every run of forks, exits, logins and changes of user: what users have started stays out of
namespaces of its own exactly as long as every event confines it. -/
theorem confined_throughout_iff {moves : List (Move System Event)} (run : Run Step s moves t)
    (start : Confined s) :
    (∀ m ∈ moves, Confined m.target) ↔ ∀ m ∈ moves, Confines m.source m.label :=
  run.invariant_iff_moves (fun _ _ _ taken confined => confined_step_iff taken confined) start

section Orphan

def init : Process := ⟨0, unsetUid, 0, 0, false⟩

/-- Without the audit subsystem, a login shell has no login uid. -/
def shell : Process := ⟨1000, unsetUid, 1, 0, true⟩

def unauditedSystem : System where
  stateMap := some 1
  processes := fun pid => if pid = 1 then some init else if pid = 2 then some shell else none

/-- A child of the shell runs a setuid program, and has a child of its own. -/
def elevatedSystem : System :=
  ((unauditedSystem.put 3 { shell with parent := 2 }).put 3 ⟨0, unsetUid, 2, 0, true⟩).put 4
    ⟨0, unsetUid, 3, 0, true⟩

/-- That one is orphaned, and unshares. -/
def orphanedMoves : List (Move System Event) :=
  let forked := unauditedSystem.put 3 { shell with parent := 2 }
  let orphaned := elevatedSystem.exit 3 1
  [⟨unauditedSystem, .fork 2 3, forked⟩,
    ⟨forked, .setuid 3 0, forked.put 3 ⟨0, unsetUid, 2, 0, true⟩⟩,
    ⟨forked.put 3 ⟨0, unsetUid, 2, 0, true⟩, .fork 3 4, elevatedSystem⟩,
    ⟨elevatedSystem, .exit 3 1, orphaned⟩,
    ⟨orphaned, .unshare 4, orphaned.put 4 ⟨0, unsetUid, 1, 1, true⟩⟩]

private theorem run_orphanedMoves : Run Step unauditedSystem orphanedMoves
    ((elevatedSystem.exit 3 1).put 4 ⟨0, unsetUid, 1, 1, true⟩) := by
  have allowed : ¬ (usernsRestrictCreate (elevatedSystem.exit 3 1).stateMap true
      ((elevatedSystem.exit 3 1).creator 4 ⟨0, unsetUid, 1, 0, true⟩)).Denied := by
    decide
  exact .cons (.fork (p := shell) rfl rfl) (.cons (.setuid (p := { shell with parent := 2 }) rfl)
    (.cons (.fork (p := ⟨0, unsetUid, 2, 0, true⟩) rfl rfl) (.cons .exit
      (.cons (.unshare (p := ⟨0, unsetUid, 1, 0, true⟩) rfl allowed) (.nil _)))))

private theorem confined_unauditedSystem : Confined unauditedSystem := by
  intro pid p found own
  have found : (if pid = 1 then some init else if pid = 2 then some shell else none) = some p :=
    found
  split at found
  · cases found
    rfl
  · split at found
    · cases found
      rfl
    · cases found

/-- The module is on all the while. -/
theorem confined_throughout_iff_orphan : Run Step unauditedSystem orphanedMoves
      ((elevatedSystem.exit 3 1).put 4 ⟨0, unsetUid, 1, 1, true⟩) ∧
    (∀ m ∈ orphanedMoves, isModuleActive m.source.stateMap = true) ∧
      ¬ ∀ m ∈ orphanedMoves, Confined m.target := by
  refine ⟨run_orphanedMoves, ?_, ?_⟩
  · intro m member
    simp only [orphanedMoves, List.mem_cons, List.not_mem_nil, or_false] at member
    rcases member with rfl | rfl | rfl | rfl | rfl <;> rfl
  · intro confined
    have confines :=
      (confined_throughout_iff run_orphanedMoves confined_unauditedSystem).mp confined
    have last : (⟨elevatedSystem.exit 3 1, .unshare 4,
        (elevatedSystem.exit 3 1).put 4 ⟨0, unsetUid, 1, 1, true⟩⟩ : Move System Event) ∈
          orphanedMoves := by
      simp [orphanedMoves]
    have unnoticed : ¬ Telltale (elevatedSystem.exit 3 1) ⟨0, unsetUid, 1, 0, true⟩ := by
      rintro (user | login | parent)
      · exact user rfl
      · cases login
      · exact absurd parent (by decide)
    exact unnoticed (confines _ last _ rfl rfl).2

end Orphan

end Steps

section Audit

/-- The login uid of everything a user has started is a user's. -/
def Anchored (s : System) : Prop :=
  ∀ pid p, s.processes pid = some p → p.session = true → ordinaryUid p.loginUid = true

/-- Logins are audited, and their mark is irrevocable. -/
def Audited : Event → Prop
  | .login _ _ audited => audited = true
  | .relogin _ _ => False
  | _ => True

/-- The same conditions, but that it is enough for the module to be on. -/
def Watches (s : System) : Event → Prop
  | .unshare pid => ∀ p, s.processes pid = some p → p.session = true →
    isModuleActive s.stateMap = true
  | event => Confines s event

variable {s t : System}

private theorem anchored_put {pid : UInt32} {p' : Process} (anchored : Anchored s)
    (own : p'.session = true → ordinaryUid p'.loginUid = true) : Anchored (s.put pid p') := by
  intro k q found session
  by_cases same : k = pid
  · subst same
    cases (Function.update_self ..).symm.trans found
    exact own session
  · exact anchored k q ((Function.update_of_ne same ..).symm.trans found) session

private theorem anchored_kept (anchored : Anchored s) {pid k : UInt32} {p p' : Process}
    (found : s.processes pid = some p) (session : p'.session = p.session)
    (login : p'.loginUid = p.loginUid) : Anchored (s.put k p') := by
  refine anchored_put anchored fun own => ?_
  rw [login]
  exact anchored pid p found (session ▸ own)

private theorem anchored_step {event : Event} (taken : Step s event t) (audited : Audited event)
    (anchored : Anchored s) : Anchored t := by
  cases taken with
  | fork found free => exact anchored_kept anchored found rfl rfl
  | exit =>
    intro k q found session
    obtain ⟨p, here, same, _, login⟩ := exists_of_exit found
    rw [login]
    exact anchored k p here (same ▸ session)
  | setuid found => exact anchored_kept anchored found rfl rfl
  | @login _ uid _ p found unset =>
    cases audited
    refine anchored_put anchored fun session => ?_
    rcases (Bool.or_eq_true _ _).mp session with before | ordinary
    · have marked := anchored _ _ found before
      rw [unset] at marked
      cases marked
    · exact ordinary
  | relogin found => exact audited.elim
  | unshare found allowed => exact anchored_kept anchored found rfl rfl
  | setns found => exact anchored_kept anchored found rfl rfl
  | toggle => exact anchored

private theorem confines_iff_watches (anchored : Anchored s) (event : Event) :
    Confines s event ↔ Watches s event := by
  cases event with
  | unshare pid =>
    constructor
    · exact fun confines p found session => (confines p found session).1
    · intro watches p found session
      exact ⟨watches p found session, .inr (.inl (anchored pid p found session))⟩
  | _ => exact Iff.rfl

/-- Where logins are audited, it does not help a user to become root, nor to be orphaned: as long
as the module is on whenever a process of a user unshares, none gets a namespace of its own but
by joining one. -/
theorem audited_confined_throughout_iff {moves : List (Move System Event)}
    (run : Run Step s moves t) (start : Confined s) (anchored : Anchored s)
    (audited : ∀ m ∈ moves, Audited m.label) :
    (∀ m ∈ moves, Confined m.target) ↔ ∀ m ∈ moves, Watches m.source m.label := by
  rw [confined_throughout_iff run start]
  have held (m : Move System Event) (member : m ∈ moves) : Anchored m.source :=
    (run.invariant_at_moves (fun _ _ _ taken kept => anchored_step taken kept) audited anchored
      member).1
  constructor
  · exact fun confines m member => (confines_iff_watches (held m member) _).mp (confines m member)
  · exact fun watches m member => (confines_iff_watches (held m member) _).mpr (watches m member)

/-- The login process of a host with an audit subsystem. -/
def auditedSystem : System where
  stateMap := some 1
  processes := fun pid =>
    if pid = 1 then some init else if pid = 2 then some { shell with session := false } else none

/-- A user logs in and becomes root, while root unshares. -/
def loginMoves : List (Move System Event) :=
  let entered := auditedSystem.put 2 ⟨1000, 1000, 1, 0, true⟩
  let elevated := entered.put 2 ⟨0, 1000, 1, 0, true⟩
  [⟨auditedSystem, .login 2 1000 true, entered⟩, ⟨entered, .setuid 2 0, elevated⟩,
    ⟨elevated, .unshare 1, elevated.put 1 { init with level := 1 }⟩]

private theorem run_loginMoves : ∃ t, Run Step auditedSystem loginMoves t := by
  let elevated := (auditedSystem.put 2 ⟨1000, 1000, 1, 0, true⟩).put 2 ⟨0, 1000, 1, 0, true⟩
  have allowed :
      ¬ (usernsRestrictCreate elevated.stateMap true (elevated.creator 1 init)).Denied := by
    decide
  exact ⟨_, .cons (.login (p := { shell with session := false }) rfl rfl)
    (.cons (.setuid (p := ⟨1000, 1000, 1, 0, true⟩) rfl)
      (.cons (.unshare (p := init) rfl allowed) (.nil _)))⟩

theorem audited_confined_throughout_iff_sample : (∃ t, Run Step auditedSystem loginMoves t) ∧
    ∀ m ∈ loginMoves, Confined m.target := by
  have unmarked (pid : UInt32) (p : Process) (found : auditedSystem.processes pid = some p) :
      p.session = false := by
    have found : (if pid = 1 then some init
      else if pid = 2 then some { shell with session := false } else none) = some p := found
    split at found
    · cases found
      rfl
    · split at found
      · cases found
        rfl
      · cases found
  have confined : Confined auditedSystem := fun pid p found own => by
    rw [unmarked pid p found] at own
    cases own
  have anchored : Anchored auditedSystem := fun pid p found own => by
    rw [unmarked pid p found] at own
    cases own
  refine ⟨run_loginMoves, ?_⟩
  obtain ⟨t, run⟩ := run_loginMoves
  have audited : ∀ m ∈ loginMoves, Audited m.label := by
    intro m member
    simp only [loginMoves, List.mem_cons, List.not_mem_nil, or_false] at member
    rcases member with rfl | rfl | rfl
    · exact rfl
    · trivial
    · trivial
  refine (audited_confined_throughout_iff run confined anchored audited).mpr ?_
  intro m member
  simp only [loginMoves, List.mem_cons, List.not_mem_nil, or_false] at member
  rcases member with rfl | rfl | rfl
  · intro p found _
    cases found
    rfl
  · trivial
  · exact fun p _ _ => rfl

end Audit

end BouclierBleu.UsernsRestrict.Sessions
