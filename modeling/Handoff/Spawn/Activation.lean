/-
Socket activation: what a spawning process puts into the environment of its
child (`fd.rs`, `spawn_successor`, `spawn_primitive_cold_start`) and what the
child makes of it (`detect_role` in `role.rs`).

A child starts with the environment of its parent, overridden by the settings of
its `Command`.  The `FD_CLOEXEC` and `O_NONBLOCK` flags that an adopted
descriptor is given are not modelled: nothing here reads them again.
-/

import Handoff.Spawn.Descriptors
import Handoff.Supervisor.PerformHandoff

namespace Handoff

/-! ### Environments -/

/-- An environment value; one that is not Unicode is an error for `env::var`. -/
inductive OsValue where
  | text (value : String)
  | notUnicode
  deriving DecidableEq, Repr

abbrev Environment : Type := String → Option OsValue

namespace Environment

/-- `env::var(name).ok()`. -/
def var (env : Environment) (name : String) : Option String :=
  match env name with
  | some (.text value) => some value
  | _ => none

def set (env : Environment) (name value : String) : Environment :=
  fun other => if other = name then some (.text value) else env other

/-- `env::remove_var`. -/
def remove (env : Environment) (name : String) : Environment :=
  fun other => if other = name then none else env other

/-- The settings of a `Command`, the later ones over the earlier ones. -/
def overriddenBy (env : Environment) : List (String × String) → Environment
  | [] => env
  | (name, value) :: rest => (env.set name value).overriddenBy rest

theorem overriddenBy_append (env : Environment) (first second : List (String × String)) :
    env.overriddenBy (first ++ second) = (env.overriddenBy first).overriddenBy second := by
  induction first generalizing env with
  | nil => rfl
  | cons setting rest ih => exact ih (env.set setting.1 setting.2)

theorem var_set (env : Environment) (name value other : String) :
    (env.set name value).var other = if other = name then some value else env.var other := by
  unfold var set
  by_cases same : other = name
  · rw [if_pos same, if_pos same]
  · rw [if_neg same, if_neg same]

theorem var_remove (env : Environment) (name other : String) :
    (env.remove name).var other = if other = name then none else env.var other := by
  unfold var remove
  by_cases same : other = name
  · rw [if_pos same, if_pos same]
  · rw [if_neg same, if_neg same]

end Environment

/-! ### Spawning -/

/-- A command with the descriptors that are installed from 3 on in its child. -/
structure Launch where
  command : SpawnCommand
  sources : List Int
  deriving DecidableEq, Repr

def passListenerFdsOnSpawn (command : SpawnCommand) (listeners : List (String × Int))
    (extraFd : Option Int) : Launch :=
  { command := command.passListeners listeners
    sources := listeners.map Prod.snd ++ extraFd.toList }

/-- `spawn_successor`; `nSockFd` is the successor's end of the socketpair. -/
def spawnSuccessor (supervisor : Supervisor) (spec : SpawnSpec) (nSockFd : Int) : Launch :=
  passListenerFdsOnSpawn (successorCommand supervisor spec) supervisor.listenerFds (some nSockFd)

/-- `spawn_primitive_cold_start`, with what it reads of the configuration. -/
def spawnPrimitiveColdStart (binary : String) (args : List String) (env : List (String × String))
    (listenerFds : List (String × Int)) : Launch :=
  passListenerFdsOnSpawn { binary := binary, args := args, env := env } listenerFds none

structure Activated where
  env : Environment
  table : FdTable
  pid : UInt32

/-- `execve` closes the descriptors with `FD_CLOEXEC`. -/
def FdTable.exec (table : FdTable) : FdTable :=
  { table with
    entries := fun fd => (table.entries fd).filter fun descriptor => !descriptor.cloexec
    negative := by
      intro fd below
      rw [table.negative fd below]
      rfl }

inductive SpawnError where
  | nul
  | setup (errno : Errno)
  deriving DecidableEq, Repr

/-- `Command::spawn`.  A setting with a NUL in it cannot be passed on. -/
def Launch.spawn (launch : Launch) (env : Environment) (table : FdTable) (pid : UInt32) :
    Except SpawnError Activated :=
  if launch.command.env.any fun (name, value) =>
      name.toList.contains '\x00' || value.toList.contains '\x00' then .error .nul
  else
    match installInheritedFds launch.sources table with
    | .error errno => .error (.setup errno)
    | .ok installed => .ok ⟨env.overriddenBy launch.command.env, installed.exec, pid⟩

/-! ### `detect_role` -/

/-- `InheritedListeners`: a finite map, of which only lookups matter. -/
structure InheritedListeners where
  lookup : String → Option Int

def InheritedListeners.default : InheritedListeners := ⟨fun _ => none⟩

def InheritedListeners.insert (inherited : InheritedListeners) (name : String) (fd : Int) :
    InheritedListeners :=
  ⟨fun other => if other = name then some fd else inherited.lookup other⟩

inductive Role where
  | coldStart (inherited : InheritedListeners)
  | successor (control : Int) (inherited : InheritedListeners)

def Role.inherited : Role → InheritedListeners
  | .coldStart inherited => inherited
  | .successor _ inherited => inherited

section

-- which open file descriptions are sockets
variable (isSocket : Nat → Bool)

def fdIsSocket (table : FdTable) (fd : Int) : Bool :=
  (table.entries fd).any fun descriptor => isSocket descriptor.description

/-- `LISTEN_PID` is set and does not name this process. -/
def foreignListenPid (env : Environment) (pid : UInt32) : Bool :=
  match env.var envListenPid with
  | none => false
  | some raw => parseUnsigned (2 ^ 32) (trimText raw.toList) != some pid.toNat

/-- The name of slot `i`; a missing one is the index. -/
def slotName (names : List String) (i : Nat) : String := names[i]?.getD (toString i)

def adoptSlot (table : FdTable) (names : List String) (inherited : InheritedListeners) (i : Nat) :
    InheritedListeners :=
  if fdIsSocket isSocket table (slotFd i) then inherited.insert (slotName names i) (slotFd i)
  else inherited

def readInheritedListeners (child : Activated) : InheritedListeners :=
  let count := ((child.env.var envListenFds).bind fun raw =>
    parseUnsigned (2 ^ 64) raw.toList).getD 0
  if count = 0 then .default
  else if foreignListenPid child.env child.pid then .default
  else
    let names := ((child.env.var envListenFdnames).map (splitAtChar ':')).getD []
    (List.range count).foldl (adoptSlot isSocket child.table names) .default

/-- The role, and the environment as it is left for a second call. -/
def detectRole (child : Activated) : Except Error Role × Environment :=
  let inherited := readInheritedListeners isSocket child
  let env := ((child.env.remove envListenPid).remove envListenFds).remove envListenFdnames
  if env.var envHandoffRole = some "successor" then
    match env.var envHandoffSockFd with
    | none => (.error (.missingEnv envHandoffSockFd), env)
    | some raw =>
        match parseSigned (2 ^ 31) raw.toList with
        | none => (.error (.badEnv envHandoffSockFd raw), env)
        | some sockFd =>
            let env := (env.remove envHandoffRole).remove envHandoffSockFd
            if fdIsSocket isSocket child.table sockFd then
              (.ok (.successor sockFd inherited), env)
            else
              (.error (.badEnv envHandoffSockFd
                ("fd " ++ toString sockFd ++ " is not an open socket")), env)
  else (.ok (.coldStart inherited), env)

end

end Handoff
