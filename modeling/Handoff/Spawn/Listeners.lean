/-
Which listeners reach a spawned child, and under which names.

The count and the names that `pass_listener_fds_on_spawn` sets are read back as
they were written when no name contains the separator.  The role and the veto of
`LISTEN_PID` are not set by every spawner: they come from whatever environment
the parent has.
-/

import Handoff.Spawn.Activation

namespace Handoff

variable {i : Nat} {entry : String × Int}

/-! ### The child after `spawn` -/

private theorem Launch.spawn_ok {launch : Launch} {env : Environment} {table : FdTable}
    {pid : UInt32} {child : Activated} (done : launch.spawn env table pid = .ok child) :
    ∃ installed, installInheritedFds launch.sources table = .ok installed ∧
      child = ⟨env.overriddenBy launch.command.env, installed.exec, pid⟩ := by
  unfold Launch.spawn at done
  split at done
  · contradiction
  · split at done
    · contradiction
    · rename_i installed found
      cases done
      exact ⟨installed, found, rfl⟩

def FdTable.refersTo (table : FdTable) (fd : Int) : Option Nat :=
  (table.entries fd).map Descriptor.description

private theorem fdIsSocket_eq (isSocket : Nat → Bool) (table : FdTable) (fd : Int) :
    fdIsSocket isSocket table fd = (table.refersTo fd).any isSocket := by
  unfold fdIsSocket FdTable.refersTo
  cases table.entries fd <;> rfl

private theorem Shuffled.refersTo {sources : List Int} {table installed : FdTable}
    (done : Shuffled sources table installed) {source : Int} (found : sources[i]? = some source)
    (present : (table.refersTo source).isSome = true) :
    installed.exec.refersTo (slotFd i) = table.refersTo source := by
  have small := done.small
  have inside : i < sources.length := (List.getElem?_eq_some_iff.mp found).1
  obtain ⟨description, entry, agrees⟩ := done.slots i source found
  unfold FdTable.refersTo at present ⊢
  cases original : table.entries source with
  | none =>
      rw [original] at present
      contradiction
  | some descriptor =>
      rw [slotFd_eq (by omega)]
      change ((installed.entries (i + 3)).filter _).map _ = _
      rw [entry, ← agrees descriptor original]
      rfl

section

variable {launch : Launch} {command : SpawnCommand} {listeners : List (String × Int)}
  {extraFd : Option Int} {env : Environment} {table : FdTable} {pid : UInt32} {child : Activated}

private theorem Launch.spawn_refersTo (done : launch.spawn env table pid = .ok child)
    {source : Int} (found : launch.sources[i]? = some source)
    (present : (table.refersTo source).isSome = true) :
    child.table.refersTo (slotFd i) = table.refersTo source := by
  obtain ⟨installed, shuffled, rfl⟩ := Launch.spawn_ok done
  exact (installInheritedFds_shuffled shuffled).refersTo found present

private theorem Launch.spawn_socket {isSocket : Nat → Bool}
    (done : launch.spawn env table pid = .ok child) {source : Int}
    (found : launch.sources[i]? = some source) (socket : fdIsSocket isSocket table source = true) :
    child.table.refersTo (slotFd i) = table.refersTo source ∧
      fdIsSocket isSocket child.table (slotFd i) = true := by
  rw [fdIsSocket_eq] at socket
  have present : (table.refersTo source).isSome = true := by
    cases refers : table.refersTo source with
    | none =>
        rw [refers] at socket
        contradiction
    | some description => rfl
  have same := Launch.spawn_refersTo done found present
  rw [fdIsSocket_eq, same]
  exact ⟨rfl, socket⟩

private theorem passed_source (found : listeners[i]? = some entry) :
    (passListenerFdsOnSpawn command listeners extraFd).sources[i]? = some entry.2 := by
  have inside : i < (listeners.map Prod.snd).length := by
    rw [List.length_map]
    exact (List.getElem?_eq_some_iff.mp found).1
  simp only [passListenerFdsOnSpawn]
  rw [List.getElem?_append_left inside, List.getElem?_map, found]
  rfl

private theorem passed_small (done :
    (passListenerFdsOnSpawn command listeners extraFd).spawn env table pid = .ok child) :
    listeners.length + 3 < 2 ^ 31 := by
  obtain ⟨installed, found, _⟩ := Launch.spawn_ok done
  have small := (installInheritedFds_shuffled found).small
  simp only [passListenerFdsOnSpawn, List.length_append, List.length_map] at small
  omega

private theorem passed_var (done :
    (passListenerFdsOnSpawn command listeners extraFd).spawn env table pid = .ok child)
    (name : String) :
    child.env.var name =
      if name = envListenFdnames then some (joinAt ':' (listeners.map Prod.fst))
      else if name = envListenFds then some (toString listeners.length)
      else (env.overriddenBy command.env).var name := by
  obtain ⟨installed, _, rfl⟩ := Launch.spawn_ok done
  simp only [passListenerFdsOnSpawn, SpawnCommand.passListeners]
  rw [Environment.overriddenBy_append]
  simp only [Environment.overriddenBy, Environment.var_set]

private theorem passed_pid (done :
    (passListenerFdsOnSpawn command listeners extraFd).spawn env table pid = .ok child) :
    child.pid = pid := by
  obtain ⟨installed, _, rfl⟩ := Launch.spawn_ok done
  rfl

private theorem passed_foreign (done :
    (passListenerFdsOnSpawn command listeners extraFd).spawn env table pid = .ok child) :
    foreignListenPid child.env child.pid = foreignListenPid (env.overriddenBy command.env) pid := by
  unfold foreignListenPid
  rw [passed_var done, if_neg (by decide), if_neg (by decide), passed_pid done]

def adoptedBy (isSocket : Nat → Bool) (listeners : List (String × Int)) (table : FdTable) :
    InheritedListeners :=
  (List.range listeners.length).foldl (adoptSlot isSocket table
    (splitAtChar ':' (joinAt ':' (listeners.map Prod.fst)))) .default

private theorem passed_listeners (isSocket : Nat → Bool) (done :
    (passListenerFdsOnSpawn command listeners extraFd).spawn env table pid = .ok child) :
    readInheritedListeners isSocket child =
      if foreignListenPid (env.overriddenBy command.env) pid then .default
      else adoptedBy isSocket listeners child.table := by
  have small := passed_small done
  have fds : child.env.var envListenFds = some (toString listeners.length) := by
    rw [passed_var done, if_neg (by decide), if_pos rfl]
  have fdnames : child.env.var envListenFdnames =
      some (joinAt ':' (listeners.map Prod.fst)) := by
    rw [passed_var done, if_pos rfl]
  have counted : ((some (toString listeners.length)).bind fun raw =>
      parseUnsigned (2 ^ 64) raw.toList).getD 0 = listeners.length := by
    change (parseUnsigned (2 ^ 64) (numeral listeners.length)).getD 0 = _
    rw [parseUnsigned_numeral (by omega)]
    rfl
  unfold readInheritedListeners
  rw [fds, fdnames, passed_foreign done]
  simp only [counted]
  by_cases empty : listeners.length = 0
  · rw [if_pos empty, adoptedBy, empty]
    exact (ite_self _).symm
  · rw [if_neg empty]
    rfl

private theorem passed_cleared (isSocket : Nat → Bool) (done :
    (passListenerFdsOnSpawn command listeners extraFd).spawn env table pid = .ok child)
    (own : listeners = [] ∨ foreignListenPid (env.overriddenBy command.env) pid = false) :
    readInheritedListeners isSocket child = adoptedBy isSocket listeners child.table := by
  rw [passed_listeners isSocket done]
  rcases own with none | own
  · rw [none]
    exact ite_self _
  · rw [own]
    rfl

end

/-! ### The loop over the slots -/

section

variable (isSocket : Nat → Bool) (table : FdTable) (names : List String)

theorem adopted_slot {count : Nat} {name : String} {fd : Int}
    (found : ((List.range count).foldl (adoptSlot isSocket table names) .default).lookup name =
      some fd) :
    ∃ i < count, slotName names i = name ∧ fd = slotFd i := by
  induction count with
  | zero => contradiction
  | succ count ih =>
      rw [List.range_succ, List.foldl_append, List.foldl_cons, List.foldl_nil] at found
      unfold adoptSlot at found
      split at found
      · simp only [InheritedListeners.insert] at found
        split at found
        · rename_i same
          exact ⟨count, by omega, same.symm, (Option.some.inj found).symm⟩
        · obtain ⟨i, below, rest⟩ := ih found
          exact ⟨i, by omega, rest⟩
      · obtain ⟨i, below, rest⟩ := ih found
        exact ⟨i, by omega, rest⟩

private theorem adopted_name {count : Nat} (below : i < count)
    (socket : fdIsSocket isSocket table (slotFd i) = true) :
    ∃ k < count, slotName names k = slotName names i ∧
      ((List.range count).foldl (adoptSlot isSocket table names) .default).lookup
        (slotName names i) = some (slotFd k) := by
  induction count with
  | zero => omega
  | succ count ih =>
      rw [List.range_succ, List.foldl_append, List.foldl_cons, List.foldl_nil]
      by_cases last : i = count
      · refine ⟨i, by omega, rfl, ?_⟩
        rw [adoptSlot, ← last, if_pos socket]
        exact if_pos rfl
      · obtain ⟨k, inside, same, found⟩ := ih (by omega)
        unfold adoptSlot
        split
        · by_cases again : slotName names i = slotName names count
          · exact ⟨count, by omega, again.symm, if_pos again⟩
          · exact ⟨k, by omega, same, (if_neg again).trans found⟩
        · exact ⟨k, by omega, same, found⟩

end

private theorem slotName_joined {listeners : List (String × Int)}
    (plain : ∀ entry ∈ listeners, ':' ∉ entry.1.toList) (found : listeners[i]? = some entry) :
    slotName (splitAtChar ':' (joinAt ':' (listeners.map Prod.fst))) i = entry.1 := by
  have joined : splitAtChar ':' (joinAt ':' (listeners.map Prod.fst)) = listeners.map Prod.fst := by
    apply splitAtChar_joinAt
    · intro name member
      obtain ⟨other, inListeners, rfl⟩ := List.mem_map.mp member
      exact plain other inListeners
    · intro empty
      rw [List.map_eq_nil_iff] at empty
      rw [empty] at found
      simp at found
  rw [slotName, joined, List.getElem?_map, found]
  rfl

private theorem slotName_plain (text : String) (i : Nat) :
    ':' ∉ (slotName (splitAtChar ':' text) i).toList := by
  unfold slotName
  cases part : (splitAtChar ':' text)[i]? with
  | none =>
      intro member
      exact absurd (numeral_isDigit member) (by decide)
  | some name => exact splitAtChar_plain (List.mem_of_getElem? part)

/-! ### Names -/

/-- Every listener is reached under the name it was registered with, and under a
name only a listener registered with it. -/
def ListenersReachable (listeners : List (String × Int)) (table : FdTable) (child : Activated)
    (inherited : InheritedListeners) : Prop :=
  (∀ entry ∈ listeners, ∃ fd, inherited.lookup entry.1 = some fd ∧
      child.table.refersTo fd = table.refersTo entry.2) ∧
    ∀ name fd, inherited.lookup name = some fd → ∃ entry ∈ listeners, entry.1 = name ∧
      child.table.refersTo fd = table.refersTo entry.2

/-- The names survive exactly when none contains the separator and no two sockets
share one. -/
theorem listeners_reachable (isSocket : Nat → Bool) (command : SpawnCommand)
    (listeners : List (String × Int)) (extraFd : Option Int) (env : Environment) (table : FdTable)
    (pid : UInt32) (child : Activated)
    (done : (passListenerFdsOnSpawn command listeners extraFd).spawn env table pid = .ok child)
    (sockets : ∀ entry ∈ listeners, fdIsSocket isSocket table entry.2 = true)
    (own : foreignListenPid (env.overriddenBy command.env) pid = false) :
    ListenersReachable listeners table child (readInheritedListeners isSocket child) ↔
      (∀ entry ∈ listeners, ':' ∉ entry.1.toList) ∧
        ∀ first ∈ listeners, ∀ second ∈ listeners, first.1 = second.1 →
          table.refersTo first.2 = table.refersTo second.2 := by
  have slot (i : Nat) (entry : String × Int) (found : listeners[i]? = some entry) :=
    Launch.spawn_socket done (passed_source found) (sockets entry (List.mem_of_getElem? found))
  rw [passed_cleared isSocket done (Or.inr own)]
  constructor
  · intro reachable
    constructor
    · intro entry member
      obtain ⟨fd, found, _⟩ := reachable.1 entry member
      obtain ⟨i, _, named, _⟩ := adopted_slot isSocket child.table _ found
      rw [← named]
      exact slotName_plain _ i
    · intro first inFirst second inSecond same
      obtain ⟨fd, found, refers⟩ := reachable.1 first inFirst
      obtain ⟨other, again, refersAgain⟩ := reachable.1 second inSecond
      rw [← same, found] at again
      cases again
      exact refers.symm.trans refersAgain
  · rintro ⟨plain, single⟩
    constructor
    · intro entry member
      obtain ⟨i, below, here⟩ := List.mem_iff_getElem.mp member
      have found : listeners[i]? = some entry := by
        rw [List.getElem?_eq_getElem below, here]
      obtain ⟨k, inside, same, adopted⟩ := adopted_name isSocket child.table
        (splitAtChar ':' (joinAt ':' (listeners.map Prod.fst))) below (slot i entry found).2
      have other : listeners[k]? = some listeners[k] := List.getElem?_eq_getElem inside
      rw [slotName_joined plain found] at same adopted
      rw [slotName_joined plain other] at same
      refine ⟨slotFd k, adopted, ?_⟩
      rw [(slot k _ other).1, single _ (List.getElem_mem inside) entry member same]
    · intro name fd found
      obtain ⟨i, below, named, placed⟩ := adopted_slot isSocket child.table _ found
      have here : listeners[i]? = some listeners[i] := List.getElem?_eq_getElem below
      rw [slotName_joined plain here] at named
      refine ⟨listeners[i], List.getElem_mem below, named, ?_⟩
      rw [placed]
      exact (slot i _ here).1

/-- A parent whose descriptors 5 and 6 are the sockets 50 and 60. -/
def twoSockets : FdTable where
  entries := fun fd => if fd = 5 then some ⟨50, true⟩ else if fd = 6 then some ⟨60, true⟩ else none
  limit := 16
  limit_le := by decide
  negative := by
    intro fd below
    rw [if_neg (by omega), if_neg (by omega)]

def noVariables : Environment := fun _ => none

private theorem Launch.spawn_exists (launch : Launch) (env : Environment) (table : FdTable)
    (pid : UInt32) (succeeds : (launch.spawn env table pid).isOk = true) :
    ∃ child, launch.spawn env table pid = .ok child := by
  cases done : launch.spawn env table pid with
  | error cause =>
      rw [done] at succeeds
      cases succeeds
  | ok child => exact ⟨child, rfl⟩

def plainCommand : SpawnCommand := { binary := "/usr/bin/daemon", args := [], env := [] }

theorem listeners_reachable_pair :
    ∃ child, (passListenerFdsOnSpawn plainCommand [("http", 5), ("resp", 6)] none).spawn noVariables
        twoSockets 77 = .ok child ∧
      ListenersReachable [("http", 5), ("resp", 6)] twoSockets child
        (readInheritedListeners (fun _ => true) child) := by
  obtain ⟨child, done⟩ := Launch.spawn_exists
    (passListenerFdsOnSpawn plainCommand [("http", 5), ("resp", 6)] none) noVariables twoSockets 77
    (by decide +kernel)
  exact ⟨child, done, (listeners_reachable (fun _ => true) plainCommand [("http", 5), ("resp", 6)]
    none noVariables twoSockets 77 child done (by decide) (by decide)).mpr
      ⟨by decide, by decide⟩⟩

/-- A name with the separator in it is taken apart by the child. -/
theorem listener_unreachable :
    ∃ child, (passListenerFdsOnSpawn plainCommand [("http:80", 5)] none).spawn noVariables
        twoSockets 77 = .ok child ∧
      (∀ entry ∈ [("http:80", (5 : Int))], fdIsSocket (fun _ => true) twoSockets entry.2 = true) ∧
      foreignListenPid (noVariables.overriddenBy []) 77 = false ∧
      ¬ListenersReachable [("http:80", 5)] twoSockets child
        (readInheritedListeners (fun _ => true) child) := by
  obtain ⟨child, done⟩ := Launch.spawn_exists
    (passListenerFdsOnSpawn plainCommand [("http:80", 5)] none) noVariables twoSockets 77
    (by decide +kernel)
  refine ⟨child, done, by decide, by decide, ?_⟩
  intro reachable
  obtain ⟨fd, found, _⟩ := reachable.1 ("http:80", 5) List.mem_cons_self
  rw [passed_cleared (fun _ => true) done (Or.inr (by decide))] at found
  obtain ⟨i, below, named, _⟩ := adopted_slot (fun _ => true) child.table _ found
  have first : i = 0 := by
    simpa using below
  rw [first] at named
  exact absurd named (by decide +kernel)

/-! ### Independence of the parent's own activation -/

/-- The two functions that spawn a primitive, with everything but the
environment settings of their caller. -/
inductive Spawner where
  | successor (supervisor : Supervisor) (spec : SpawnSpec) (nSockFd : Int)
  | coldStart (binary : String) (args : List String) (listenerFds : List (String × Int))

def Spawner.listeners : Spawner → List (String × Int)
  | .successor supervisor _ _ => supervisor.listenerFds
  | .coldStart _ _ listenerFds => listenerFds

/-- `settings` is `SpawnSpec.env`, or the `env` of the configuration. -/
def Spawner.launch (spawner : Spawner) (settings : List (String × String)) : Launch :=
  match spawner with
  | .successor supervisor spec nSockFd =>
      spawnSuccessor supervisor { spec with env := settings } nSockFd
  | .coldStart binary args listenerFds => spawnPrimitiveColdStart binary args settings listenerFds

/-- What the child sees of variables that the spawner does not set is out of its
way: no foreign `LISTEN_PID`, and at a cold start no inherited role. -/
def Spawner.undisturbed (spawner : Spawner) (env : Environment) (settings : List (String × String))
    (pid : UInt32) : Bool :=
  (spawner.listeners.isEmpty || !foreignListenPid (env.overriddenBy settings) pid) &&
    match spawner with
    | .successor .. => true
    | .coldStart .. => (env.overriddenBy settings).var envHandoffRole != some "successor"

/-- The role of a child that makes `inherited` of the listener variables. -/
def Spawner.role (isSocket : Nat → Bool) (spawner : Spawner) (table : FdTable)
    (inherited : InheritedListeners) : Except Error Role :=
  match spawner with
  | .coldStart .. => .ok (.coldStart inherited)
  | .successor supervisor _ _ =>
      let control : Int := 3 + supervisor.listenerFds.length
      if fdIsSocket isSocket table control then .ok (.successor control inherited)
      else .error (.badEnv envHandoffSockFd ("fd " ++ toString control ++ " is not an open socket"))

/-- The role a child takes on, as a function of its spawner and its descriptors. -/
def Spawner.detects (isSocket : Nat → Bool) (spawner : Spawner) (table : FdTable) :
    Except Error Role :=
  spawner.role isSocket table (adoptedBy isSocket spawner.listeners table)

private theorem var_unlisted (env : Environment) {name : String} (pid : name ≠ envListenPid)
    (fds : name ≠ envListenFds) (fdnames : name ≠ envListenFdnames) :
    (((env.remove envListenPid).remove envListenFds).remove envListenFdnames).var name =
      env.var name := by
  rw [Environment.var_remove, if_neg fdnames, Environment.var_remove, if_neg fds,
    Environment.var_remove, if_neg pid]

section

variable {isSocket : Nat → Bool} {spawner : Spawner} {settings : List (String × String)}
  {env : Environment} {table : FdTable} {pid : UInt32} {child : Activated}

private theorem Spawner.launch_eq (spawner : Spawner) (settings : List (String × String)) :
    ∃ command extraFd, spawner.launch settings =
        passListenerFdsOnSpawn command spawner.listeners extraFd ∧
      ∀ env pid, foreignListenPid (Environment.overriddenBy env command.env) pid =
        foreignListenPid (env.overriddenBy settings) pid := by
  cases spawner with
  | successor supervisor spec nSockFd =>
      refine ⟨successorCommand supervisor { spec with env := settings }, some nSockFd, rfl, ?_⟩
      intro env pid
      simp only [successorCommand, Environment.overriddenBy_append, Environment.overriddenBy,
        foreignListenPid, Environment.var_set]
      rfl
  | coldStart binary args listenerFds => exact ⟨_, none, rfl, fun _ _ => rfl⟩

private theorem Spawner.inherits (isSocket : Nat → Bool)
    (done : (spawner.launch settings).spawn env table pid = .ok child) :
    readInheritedListeners isSocket child =
      if foreignListenPid (env.overriddenBy settings) pid then .default
      else adoptedBy isSocket spawner.listeners child.table := by
  obtain ⟨command, extraFd, shape, sameVeto⟩ := spawner.launch_eq settings
  rw [shape] at done
  rw [passed_listeners isSocket done, sameVeto]

private theorem detectRole_successor {supervisor : Supervisor} {spec : SpawnSpec} {nSockFd : Int}
    (done : ((Spawner.successor supervisor spec nSockFd).launch settings).spawn env table pid =
      .ok child) :
    (detectRole isSocket child).1 = (Spawner.successor supervisor spec nSockFd).role isSocket
      child.table (readInheritedListeners isSocket child) := by
  have small := passed_small done
  have role : child.env.var envHandoffRole = some "successor" := by
    rw [passed_var done, if_neg (by decide), if_neg (by decide)]
    simp only [successorCommand, Environment.overriddenBy_append, Environment.overriddenBy,
      Environment.var_set]
    rfl
  have control : child.env.var envHandoffSockFd =
      some (toString (3 + supervisor.listenerFds.length)) := by
    rw [passed_var done, if_neg (by decide), if_neg (by decide)]
    simp only [successorCommand, Environment.overriddenBy_append, Environment.overriddenBy,
      Environment.var_set]
    rfl
  have parsed : parseSigned (2 ^ 31) (toString (3 + supervisor.listenerFds.length)).toList =
      some ((3 + supervisor.listenerFds.length : Nat) : Int) :=
    parseSigned_numeral (by omega)
  unfold detectRole Spawner.role
  simp only
  rw [var_unlisted _ (by decide) (by decide) (by decide), if_pos role,
    var_unlisted _ (by decide) (by decide) (by decide), control]
  simp only [parsed]
  push_cast
  split <;> rfl

private theorem detectRole_coldStart (isSocket : Nat → Bool) {binary : String} {args : List String}
    {listenerFds : List (String × Int)}
    (done : ((Spawner.coldStart binary args listenerFds).launch settings).spawn env table pid =
      .ok child) :
    if (env.overriddenBy settings).var envHandoffRole = some "successor" then
      ∀ inherited, (detectRole isSocket child).1 ≠ .ok (.coldStart inherited)
    else (detectRole isSocket child).1 = .ok (.coldStart (readInheritedListeners isSocket child)) := by
  have role : child.env.var envHandoffRole = (env.overriddenBy settings).var envHandoffRole := by
    rw [passed_var done, if_neg (by decide), if_neg (by decide)]
  unfold detectRole
  simp only
  rw [var_unlisted _ (by decide) (by decide) (by decide), role]
  split
  · intro inherited
    split
    · exact nofun
    · split
      · exact nofun
      · split <;> exact nofun
  · rfl

/-- What a spawned child detects depends on its spawner and its descriptors only. -/
private theorem Spawner.detectRole_eq (isSocket : Nat → Bool)
    (done : (spawner.launch settings).spawn env table pid = .ok child)
    (undisturbed : spawner.undisturbed env settings pid = true) :
    (detectRole isSocket child).1 = spawner.detects isSocket child.table := by
  unfold Spawner.undisturbed at undisturbed
  rw [Bool.and_eq_true, Bool.or_eq_true, List.isEmpty_iff, Bool.not_eq_true'] at undisturbed
  obtain ⟨clear, named⟩ := undisturbed
  have inherits : readInheritedListeners isSocket child =
      adoptedBy isSocket spawner.listeners child.table := by
    rw [Spawner.inherits isSocket done]
    rcases clear with none | own
    · rw [none]
      exact ite_self _
    · rw [own]
      rfl
  cases spawner with
  | successor supervisor spec nSockFd =>
      rw [detectRole_successor done, inherits]
      rfl
  | coldStart binary args listenerFds =>
      have detected := detectRole_coldStart isSocket done
      rw [if_neg (bne_iff_ne.mp named), inherits] at detected
      exact detected

private theorem adoptedBy_ne_default
    (done : (spawner.launch settings).spawn env table pid = .ok child)
    (member : entry ∈ spawner.listeners) (socket : fdIsSocket isSocket table entry.2 = true) :
    adoptedBy isSocket spawner.listeners child.table ≠ .default := by
  obtain ⟨command, extraFd, shape, _⟩ := spawner.launch_eq settings
  rw [shape] at done
  obtain ⟨i, below, here⟩ := List.mem_iff_getElem.mp member
  have found : spawner.listeners[i]? = some entry := by
    rw [List.getElem?_eq_getElem below, here]
  obtain ⟨k, _, _, adopted⟩ := adopted_name isSocket child.table
    (splitAtChar ':' (joinAt ':' (spawner.listeners.map Prod.fst))) below
    (Launch.spawn_socket done (passed_source found) socket).2
  intro same
  rw [← adoptedBy, same] at adopted
  contradiction

private theorem Spawner.vetoed (done : (spawner.launch settings).spawn env table pid = .ok child)
    (sockets : ∀ fd ∈ (spawner.launch settings).sources, fdIsSocket isSocket table fd = true)
    (foreign : (spawner.listeners.isEmpty ||
      !foreignListenPid (env.overriddenBy settings) pid) = false) :
    readInheritedListeners isSocket child ≠ adoptedBy isSocket spawner.listeners child.table := by
  rw [Bool.or_eq_false_iff, Bool.not_eq_false'] at foreign
  obtain ⟨first, rest, some⟩ := List.exists_cons_of_ne_nil
    (List.isEmpty_eq_false_iff.mp foreign.1)
  have member : first ∈ spawner.listeners := by
    rw [some]
    exact List.mem_cons_self
  rw [Spawner.inherits isSocket done, if_pos foreign.2]
  apply (adoptedBy_ne_default done member _).symm
  apply sockets
  obtain ⟨command, extraFd, shape, _⟩ := spawner.launch_eq settings
  rw [shape]
  exact List.mem_append_left _ (List.mem_map_of_mem member)

private theorem Spawner.control_socket {supervisor : Supervisor} {spec : SpawnSpec} {nSockFd : Int}
    (done : ((Spawner.successor supervisor spec nSockFd).launch settings).spawn env table pid =
      .ok child)
    (socket : fdIsSocket isSocket table nSockFd = true) :
    fdIsSocket isSocket child.table (3 + supervisor.listenerFds.length) = true := by
  have last : ((Spawner.successor supervisor spec nSockFd).launch settings).sources[
      supervisor.listenerFds.length]? = some nSockFd := by
    change (supervisor.listenerFds.map Prod.snd ++ [nSockFd])[_]? = _
    rw [List.getElem?_append_right (List.length_map _).le, List.length_map, Nat.sub_self]
    rfl
  have placed := (Launch.spawn_socket done last socket).2
  rw [slotFd_eq (passed_small done), Int.add_comm] at placed
  exact placed

private theorem Spawner.detectRole_ne
    (done : (spawner.launch settings).spawn env table pid = .ok child)
    (sockets : ∀ fd ∈ (spawner.launch settings).sources, fdIsSocket isSocket table fd = true)
    (disturbed : spawner.undisturbed env settings pid = false) :
    (detectRole isSocket child).1 ≠ spawner.detects isSocket child.table := by
  unfold Spawner.undisturbed at disturbed
  cases spawner with
  | successor supervisor spec nSockFd =>
      rw [Bool.and_true] at disturbed
      have missing := Spawner.vetoed done sockets disturbed
      have control := Spawner.control_socket done
        (sockets nSockFd (List.mem_append_right _ (List.mem_singleton_self _)))
      rw [detectRole_successor done, Spawner.detects]
      simp only [Spawner.role, if_pos control]
      intro same
      exact missing (Role.successor.inj (Except.ok.inj same)).2
  | coldStart binary args listenerFds =>
      have detected := detectRole_coldStart isSocket done
      by_cases named : (env.overriddenBy settings).var envHandoffRole = some "successor"
      · rw [if_pos named] at detected
        exact detected _
      · rw [bne_iff_ne.mpr named, Bool.and_true] at disturbed
        rw [if_neg named] at detected
        rw [detected]
        intro same
        exact Spawner.vetoed done sockets disturbed (Role.coldStart.inj (Except.ok.inj same))

end

private theorem Spawner.spawn_table {spawner : Spawner} {first second : List (String × String)}
    {firstEnv secondEnv : Environment} {table : FdTable} {firstPid secondPid : UInt32}
    {firstChild secondChild : Activated}
    (firstDone : (spawner.launch first).spawn firstEnv table firstPid = .ok firstChild)
    (secondDone : (spawner.launch second).spawn secondEnv table secondPid = .ok secondChild) :
    firstChild.table = secondChild.table := by
  have sources : (spawner.launch first).sources = (spawner.launch second).sources := by
    cases spawner <;> rfl
  obtain ⟨installed, found, rfl⟩ := Launch.spawn_ok firstDone
  obtain ⟨other, again, rfl⟩ := Launch.spawn_ok secondDone
  rw [sources, again] at found
  cases found
  rfl

private theorem Spawner.detects_inherited {isSocket : Nat → Bool} {spawner : Spawner}
    {table : FdTable} {role : Role} (detected : spawner.detects isSocket table = .ok role) :
    role.inherited = adoptedBy isSocket spawner.listeners table := by
  unfold Spawner.detects Spawner.role at detected
  cases spawner with
  | coldStart binary args listenerFds =>
      cases detected
      rfl
  | successor supervisor spec nSockFd =>
      simp only at detected
      split at detected
      · cases detected
        rfl
      · contradiction

private theorem Spawner.detects_finds {isSocket : Nat → Bool} {spawner : Spawner}
    {settings : List (String × String)} {env : Environment} {table : FdTable} {pid : UInt32}
    {child : Activated} (plain : ∀ entry ∈ spawner.listeners, ':' ∉ entry.1.toList)
    (distinct : (spawner.listeners.map Prod.fst).Nodup)
    (done : (spawner.launch settings).spawn env table pid = .ok child) {role : Role}
    (taken : spawner.detects isSocket child.table = .ok role)
    (found : spawner.listeners[i]? = some entry)
    (socket : fdIsSocket isSocket table entry.2 = true) :
    role.inherited.lookup entry.1 = some (slotFd i) := by
  have below : i < spawner.listeners.length := (List.getElem?_eq_some_iff.mp found).1
  obtain ⟨command, extraFd, shape, _⟩ := spawner.launch_eq settings
  rw [shape] at done
  have adopts := (Launch.spawn_socket done (passed_source found) socket).2
  obtain ⟨k, inside, sameName, adopted⟩ := adopted_name isSocket child.table
    (splitAtChar ':' (joinAt ':' (spawner.listeners.map Prod.fst))) below adopts
  rw [← adoptedBy, ← Spawner.detects_inherited taken, slotName_joined plain found] at adopted
  have other : spawner.listeners[k]? = some spawner.listeners[k] :=
    List.getElem?_eq_getElem inside
  rw [slotName_joined plain found, slotName_joined plain other] at sameName
  have inNames : k < (spawner.listeners.map Prod.fst).length := by
    rw [List.length_map]
    exact inside
  have unique : k = i := by
    apply (List.getElem?_inj inNames distinct).mp
    rw [List.getElem?_map, List.getElem?_map, other, found, Option.map_some, Option.map_some,
      sameName]
  rw [adopted, unique]

/-- A child detects what the child of an undisturbed parent does, and finds every
listener, as long as the variables that its spawner does not set are out of the way;
with sockets to pass on, only then. -/
theorem detectRole_independent (isSocket : Nat → Bool) (spawner : Spawner) (table : FdTable)
    (firstEnv secondEnv : Environment) (firstSettings secondSettings : List (String × String))
    (firstPid secondPid : UInt32) (firstChild secondChild : Activated)
    (plain : ∀ entry ∈ spawner.listeners, ':' ∉ entry.1.toList)
    (distinct : (spawner.listeners.map Prod.fst).Nodup)
    (firstDone : (spawner.launch firstSettings).spawn firstEnv table firstPid = .ok firstChild)
    (secondDone : (spawner.launch secondSettings).spawn secondEnv table secondPid = .ok secondChild)
    (secondClear : spawner.undisturbed secondEnv secondSettings secondPid = true) :
    (spawner.undisturbed firstEnv firstSettings firstPid = true →
      (detectRole isSocket firstChild).1 = (detectRole isSocket secondChild).1 ∧
        ∀ role, (detectRole isSocket firstChild).1 = .ok role → ∀ i entry,
          spawner.listeners[i]? = some entry → fdIsSocket isSocket table entry.2 = true →
            role.inherited.lookup entry.1 = some (slotFd i)) ∧
      ((∀ fd ∈ (spawner.launch firstSettings).sources, fdIsSocket isSocket table fd = true) →
        ((detectRole isSocket firstChild).1 = (detectRole isSocket secondChild).1 ↔
          spawner.undisturbed firstEnv firstSettings firstPid = true)) := by
  have reference : (detectRole isSocket secondChild).1 =
      spawner.detects isSocket firstChild.table := by
    rw [Spawner.detectRole_eq isSocket secondDone secondClear,
      Spawner.spawn_table secondDone firstDone]
  refine ⟨?_, ?_⟩
  · intro firstClear
    have detected := Spawner.detectRole_eq isSocket firstDone firstClear
    refine ⟨detected.trans reference.symm, ?_⟩
    intro role taken i entry found socket
    rw [detected] at taken
    exact Spawner.detects_finds plain distinct firstDone taken found socket
  · intro sockets
    constructor
    · intro same
      by_contra disturbed
      exact Spawner.detectRole_ne firstDone sockets (Bool.eq_false_iff.mpr disturbed)
        (same.trans reference)
    · intro firstClear
      exact (Spawner.detectRole_eq isSocket firstDone firstClear).trans reference.symm

/-- A supervisor with one listener, which hands descriptor 6 to its successor. -/
def oneListener : Spawner :=
  .successor { socketPath := "/run/control.sock", listenerFds := [("http", 5)], journalPath := none,
               pid := 3 } { binary := "/usr/bin/daemon" } 6

theorem detectRole_independent_activated :
    ∃ first second, (oneListener.launch []).spawn (noVariables.set "LISTEN_FDS" "4") twoSockets 77 =
        .ok first ∧
      (oneListener.launch []).spawn noVariables twoSockets 77 = .ok second ∧
        (detectRole (fun _ => true) first).1 = (detectRole (fun _ => true) second).1 := by
  obtain ⟨first, firstDone⟩ := Launch.spawn_exists (oneListener.launch [])
    (noVariables.set "LISTEN_FDS" "4") twoSockets 77 (by decide +kernel)
  obtain ⟨second, secondDone⟩ := Launch.spawn_exists (oneListener.launch []) noVariables twoSockets
    77 (by decide +kernel)
  exact ⟨first, second, firstDone, secondDone,
    ((detectRole_independent (fun _ => true) oneListener twoSockets
      (noVariables.set "LISTEN_FDS" "4") noVariables [] [] 77 77 first second (by decide)
      (by decide) firstDone secondDone (by decide +kernel)).2 (by decide +kernel)).mpr
        (by decide +kernel)⟩

/-- The listener that a child finds under `http`. -/
def httpListener (child : Activated) : Option Int :=
  (detectRole (fun _ => true) child).1.toOption.bind fun role => role.inherited.lookup "http"

/-- Of two parents that differ in `LISTEN_PID` alone, the one that was itself
socket-activated passes no listener on. -/
theorem detectRole_depends :
    ∃ first second, (oneListener.launch []).spawn noVariables twoSockets 77 = .ok first ∧
      (oneListener.launch []).spawn (noVariables.set "LISTEN_PID" "3") twoSockets 77 = .ok second ∧
        (detectRole (fun _ => true) first).1 ≠ (detectRole (fun _ => true) second).1 := by
  obtain ⟨first, firstDone⟩ := Launch.spawn_exists (oneListener.launch []) noVariables twoSockets 77
    (by decide +kernel)
  obtain ⟨second, secondDone⟩ := Launch.spawn_exists (oneListener.launch [])
    (noVariables.set "LISTEN_PID" "3") twoSockets 77 (by decide +kernel)
  refine ⟨first, second, firstDone, secondDone, ?_⟩
  have adopted : ((oneListener.launch []).spawn noVariables twoSockets 77).toOption.bind
      httpListener = some 3 := by decide +kernel
  have vetoed : ((oneListener.launch []).spawn (noVariables.set "LISTEN_PID" "3") twoSockets
      77).toOption.bind httpListener = none := by decide +kernel
  rw [firstDone] at adopted
  rw [secondDone] at vetoed
  change httpListener first = some 3 at adopted
  change httpListener second = none at vetoed
  intro same
  unfold httpListener at adopted vetoed
  rw [same, vetoed] at adopted
  contradiction

end Handoff
