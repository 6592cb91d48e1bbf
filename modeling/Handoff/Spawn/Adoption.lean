/-
`InheritedListeners` of `role.rs`: how the map is built from `LISTEN_FDS`, and
what `take` and `take_unix` hand out of it.

The count comes from the environment.  It sizes the map, is cast to `RawFd` and
added to, so it decides whether the map is built at all.  Afterwards the process
may do anything with its descriptors, except with the one that its control stream
owns: each call sees the descriptors of its own moment.  A successor has no call
before its handshake and `wait_for_begin` are through, and nothing passes over a
socket that listens: a slot that is also the control stream is never handed out.
-/

import Mathlib.Data.Nat.Log
import Mathlib.Logic.Relation
import Handoff.Primitive.Successor
import Handoff.Spawn.Listeners

namespace Handoff

open Effects
open Effects.Code hiding pure bind

/-! ### Building the map -/

/-- The buckets of a `HashMap` for `capacity` entries; seven of eight may be used. -/
def bucketsFor (capacity : Nat) : Option Nat :=
  if capacity < 4 then some 4
  else if capacity < 8 then some 8
  else if capacity < 15 then some 16
  else if capacity * 8 < 2 ^ 64 then some (2 ^ Nat.clog 2 (capacity * 8 / 7))
  else none

/-- `HashMap::with_capacity` for entries of `(String, RawFd)` does not panic: the
buckets of 32 bytes and a control byte for each make up a valid layout. -/
def capacityFits (capacity : Nat) : Bool :=
  (bucketsFor capacity).any fun buckets => 33 * buckets + 16 ≤ 2 ^ 63 - 16

/-- `SD_LISTEN_FDS_START + i as RawFd`.  The cast wraps around; an overflow of the
sum is a panic in a build with overflow checks. -/
def checkedSlot (overflowChecks : Bool) (i : Nat) : Option Int :=
  if overflowChecks = true ∧ 2 ^ 31 ≤ 3 + (i : Int).bmod (2 ^ 32) then none else some (slotFd i)

def listenCount (env : Environment) : Nat :=
  ((env.var envListenFds).bind fun raw => parseUnsigned (2 ^ 64) raw.toList).getD 0

def listenNames (env : Environment) : List String :=
  ((env.var envListenFdnames).map (splitAtChar ':')).getD []

/-- The slots that the loop of `read_inherited_listeners` goes through. -/
def listenSlots (child : Activated) : List Nat :=
  if foreignListenPid child.env child.pid then [] else List.range (listenCount child.env)

section

variable (overflowChecks : Bool) (isSocket : Nat → Bool)

def adoptChecked (table : FdTable) (names : List String) (inherited : InheritedListeners)
    (i : Nat) : Option InheritedListeners :=
  (checkedSlot overflowChecks i).map fun fd =>
    if fdIsSocket isSocket table fd then inherited.insert (slotName names i) fd else inherited

/-- `read_inherited_listeners` with its panics. -/
def readInheritedChecked (child : Activated) : Option InheritedListeners :=
  if listenCount child.env = 0 then some .default
  else if foreignListenPid child.env child.pid then some .default
  else if capacityFits (listenCount child.env) = false then none
  else
    (List.range (listenCount child.env)).foldlM
      (adoptChecked overflowChecks isSocket child.table (listenNames child.env)) .default

/-- `detect_role` after the listeners have been read. -/
def detectRoleWith (inherited : InheritedListeners) (child : Activated) :
    Except Error Role × Environment :=
  let env := ((child.env.remove envListenPid).remove envListenFds).remove envListenFdnames
  if env.var envHandoffRole = some "successor" then
    match env.var envHandoffSockFd with
    | none => (.error (.missingEnv envHandoffSockFd), env)
    | some raw =>
        match parseSigned (2 ^ 31) raw.toList with
        | none => (.error (.badEnv envHandoffSockFd raw), env)
        | some sockFd =>
            let env := (env.remove envHandoffRole).remove envHandoffSockFd
            if fdIsSocket isSocket child.table sockFd then
              (.ok (.successor sockFd inherited), env)
            else
              (.error (.badEnv envHandoffSockFd
                ("fd " ++ toString sockFd ++ " is not an open socket")), env)
  else (.ok (.coldStart inherited), env)

private theorem detectRoleWith_read (child : Activated) :
    detectRoleWith isSocket (readInheritedListeners isSocket child) child =
      detectRole isSocket child := rfl

/-- `detect_role` with the panics of reading the listeners. -/
def detectRoleChecked (child : Activated) : Option (Except Error Role × Environment) :=
  (readInheritedChecked overflowChecks isSocket child).map fun inherited =>
    detectRoleWith isSocket inherited child

/-! ### Counts that fit -/

private theorem checkedSlot_eq {i : Nat} (small : i + 3 < 2 ^ 31) :
    checkedSlot overflowChecks i = some ((i : Int) + 3) := by
  have cast : (i : Int).bmod (2 ^ 32) = i := by
    simp only [Int.bmod_def]
    split <;> omega
  rw [checkedSlot, if_neg, slotFd_eq small]
  intro overflow
  rw [cast] at overflow
  omega

private theorem capacityFits_small {count : Nat} (small : count + 3 ≤ 2 ^ 31) :
    capacityFits count = true := by
  have large : 2 ^ Nat.clog 2 (count * 8 / 7) ≤ 2 ^ 32 := by
    apply Nat.pow_le_pow_right (by decide)
    exact Nat.clog_le_of_le_pow (by omega)
  unfold capacityFits bucketsFor
  split
  · decide
  · split
    · decide
    · split
      · decide
      · rw [if_pos (by omega), Option.any_some, decide_eq_true_eq]
        omega

private theorem foldlM_adoptChecked (table : FdTable) (names : List String) {count : Nat}
    (small : count + 3 ≤ 2 ^ 31) :
    (List.range count).foldlM (adoptChecked overflowChecks isSocket table names) .default =
      some ((List.range count).foldl (adoptSlot isSocket table names) .default) := by
  induction count with
  | zero => rfl
  | succ count ih =>
      rw [List.range_succ, List.foldlM_append, ih (by omega), List.foldl_append]
      have slot : checkedSlot overflowChecks count = some (slotFd count) := by
        rw [checkedSlot_eq overflowChecks (by omega), slotFd_eq (by omega)]
      simp only [Option.bind_eq_bind, Option.bind_some, List.foldlM_cons, List.foldlM_nil,
        adoptChecked, slot, Option.map_some, List.foldl_cons, List.foldl_nil]
      rfl

/-- The listeners belong to another process, or every slot is a descriptor number. -/
def Countable (child : Activated) : Prop :=
  foreignListenPid child.env child.pid = true ∨ listenCount child.env + 3 ≤ 2 ^ 31

private theorem readInheritedChecked_eq {child : Activated} (countable : Countable child) :
    readInheritedChecked overflowChecks isSocket child =
      some (readInheritedListeners isSocket child) := by
  unfold readInheritedChecked readInheritedListeners
  change _ = some (if listenCount child.env = 0 then _ else _)
  split
  · rfl
  · split
    · rfl
    · next own =>
        have small := countable.resolve_left own
        rw [if_neg (by rw [capacityFits_small small]; decide)]
        exact foldlM_adoptChecked overflowChecks isSocket child.table (listenNames child.env) small

private theorem detectRoleChecked_eq {child : Activated} (countable : Countable child) :
    detectRoleChecked overflowChecks isSocket child = some (detectRole isSocket child) := by
  rw [detectRoleChecked, readInheritedChecked_eq overflowChecks isSocket countable,
    ← detectRoleWith_read]
  rfl

private theorem checkedSlot_overflows :
    checkedSlot overflowChecks (2 ^ 31 - 3) ≠ some (2 ^ 31) := by
  cases overflowChecks <;> decide +kernel

theorem listenSlots_iff {child : Activated} :
    (∀ i ∈ listenSlots child, checkedSlot overflowChecks i = some ((i : Int) + 3)) ↔
      Countable child := by
  unfold listenSlots Countable
  split
  · next other => simp [other]
  · next own =>
      rw [or_iff_right own]
      constructor
      · intro slots
        by_contra large
        have reached : 2 ^ 31 - 3 ∈ List.range (listenCount child.env) := by
          rw [List.mem_range]
          omega
        exact checkedSlot_overflows overflowChecks (slots _ reached)
      · intro small i member
        have below := List.mem_range.mp member
        exact checkedSlot_eq overflowChecks (by omega)

end

/-! ### Handing out -/

/-- `sa_family_t`. -/
abbrev AddressFamily : Type := UInt16

def afUnix : AddressFamily := 1

def afInet : AddressFamily := 2

def afInet6 : AddressFamily := 10

inductive SocketUse where
  | unconnected
  | listening
  | connected
  deriving DecidableEq, Repr

structure BoundSocket where
  family : AddressFamily
  use : SocketUse
  deriving DecidableEq, Repr

/-- `SO_ACCEPTCONN`. -/
def BoundSocket.listening (socket : BoundSocket) : Bool := socket.use = .listening

/-- The descriptors of the process at one moment, and the sockets behind them. -/
structure Kernel where
  table : FdTable
  sockets : Nat → Option BoundSocket

namespace Kernel

def socketAt (kernel : Kernel) (fd : Int) : Option BoundSocket :=
  (kernel.table.entries fd).bind fun descriptor => kernel.sockets descriptor.description

def fdIsListening (kernel : Kernel) (fd : Int) : Bool :=
  (kernel.socketAt fd).any BoundSocket.listening

def connected (kernel : Kernel) (fd : Int) : Bool :=
  (kernel.socketAt fd).any fun socket => socket.use = .connected

def socketFamily (kernel : Kernel) (fd : Int) : Option AddressFamily :=
  (kernel.socketAt fd).map BoundSocket.family

private theorem connected_of_listening {kernel : Kernel} {fd : Int} {socket : BoundSocket}
    (here : kernel.socketAt fd = some socket) (listens : socket.listening = true) :
    kernel.connected fd = false := by
  have other : socket.use = .listening := of_decide_eq_true listens
  simp [connected, here, other]

end Kernel

namespace InheritedListeners

def remove (inherited : InheritedListeners) (name : String) : InheritedListeners :=
  ⟨fun other => if other = name then none else inherited.lookup other⟩

def takeValidated (inherited : InheritedListeners) (kernel : Kernel) (name : String)
    (families : List AddressFamily) : Option Int × InheritedListeners :=
  match inherited.lookup name with
  | none => (none, inherited)
  | some fd =>
      if kernel.fdIsListening fd = false then (none, inherited)
      else
        match kernel.socketFamily fd with
        | some family =>
            if family ∈ families then (some fd, inherited.remove name) else (none, inherited)
        | none => (none, inherited)

def take (inherited : InheritedListeners) (kernel : Kernel) (name : String) :
    Option Int × InheritedListeners :=
  inherited.takeValidated kernel name [afInet, afInet6]

def takeUnix (inherited : InheritedListeners) (kernel : Kernel) (name : String) :
    Option Int × InheritedListeners :=
  inherited.takeValidated kernel name [afUnix]

variable {inherited next : InheritedListeners} {kernel : Kernel} {name : String}
  {families : List AddressFamily} {fd : Int}

private theorem takeValidated_none
    (refused : inherited.takeValidated kernel name families = (none, next)) :
    next = inherited := by
  unfold takeValidated at refused
  split at refused
  · exact (Prod.mk.inj refused).2.symm
  · split at refused
    · exact (Prod.mk.inj refused).2.symm
    · split at refused
      · split at refused
        · cases refused
        · exact (Prod.mk.inj refused).2.symm
      · exact (Prod.mk.inj refused).2.symm

private theorem takeValidated_some
    (handed : inherited.takeValidated kernel name families = (some fd, next)) :
    inherited.lookup name = some fd ∧ next = inherited.remove name ∧
      ∃ socket, kernel.socketAt fd = some socket ∧ socket.listening = true ∧
        socket.family ∈ families := by
  unfold takeValidated at handed
  split at handed
  · cases handed
  · next found =>
      split at handed
      · cases handed
      · next listening =>
          split at handed
          · next family known =>
              split at handed
              · next member =>
                  cases handed
                  rw [Bool.not_eq_false] at listening
                  obtain ⟨socket, here, listens⟩ := (Option.any_eq_true ..).mp listening
                  rw [Kernel.socketFamily, here] at known
                  obtain rfl := Option.some.inj known
                  exact ⟨found, rfl, socket, here, listens, member⟩
              · cases handed
          · cases handed

def Distinct (inherited : InheritedListeners) : Prop :=
  ∀ first second fd, inherited.lookup first = some fd → inherited.lookup second = some fd →
    first = second

private theorem lookup_of_remove {other : String}
    (found : (inherited.remove name).lookup other = some fd) :
    other ≠ name ∧ inherited.lookup other = some fd := by
  unfold remove at found
  simp only at found
  split at found
  · contradiction
  · next different => exact ⟨different, found⟩

theorem Distinct.remove (distinct : inherited.Distinct) (name : String) :
    (inherited.remove name).Distinct := by
  intro first second fd one two
  exact distinct first second fd (lookup_of_remove one).2 (lookup_of_remove two).2

end InheritedListeners

/-- One call of `take` or `take_unix`. -/
structure TakeCall where
  isUnix : Bool
  name : String
  deriving DecidableEq, Repr

namespace TakeCall

def families (call : TakeCall) : List AddressFamily :=
  if call.isUnix then [afUnix] else [afInet, afInet6]

def answer (call : TakeCall) (kernel : Kernel) (inherited : InheritedListeners) :
    Option Int × InheritedListeners :=
  if call.isUnix then inherited.takeUnix kernel call.name else inherited.take kernel call.name

private theorem answer_eq (call : TakeCall) (kernel : Kernel) (inherited : InheritedListeners) :
    call.answer kernel inherited = inherited.takeValidated kernel call.name call.families := by
  unfold answer families
  cases call.isUnix <;> rfl

end TakeCall

/-! ### From `detect_role` on -/

/-- The values that hold the listeners, one after the other: a `Role`, a
`HandshookSuccessor`, a `BegunSuccessor`. -/
inductive Startup where
  | coldStart (inherited : InheritedListeners)
  | successor (control : Int) (inherited : InheritedListeners)
  | handshook (control : Int) (inherited : InheritedListeners) (negotiated : Negotiated)
  | begun (control : Int) (inherited : InheritedListeners)

namespace Startup

def ofRole : Role → Startup
  | .coldStart inherited => .coldStart inherited
  | .successor control inherited => .successor control inherited

def inherited : Startup → InheritedListeners
  | .coldStart inherited => inherited
  | .successor _ inherited => inherited
  | .handshook _ inherited _ => inherited
  | .begun _ inherited => inherited

def control : Startup → Option Int
  | .coldStart _ => none
  | .successor control _ => some control
  | .handshook control _ _ => some control
  | .begun control _ => some control

def spoken : Startup → Bool
  | .coldStart _ => false
  | .successor .. => false
  | .handshook .. => true
  | .begun .. => true

/-- The value after a `take`: only two of them have the call. -/
def withInherited (next : InheritedListeners) : Startup → Option Startup
  | .coldStart _ => some (.coldStart next)
  | .begun control _ => some (.begun control next)
  | _ => none

private theorem withInherited_some {startup after : Startup} {next : InheritedListeners}
    (offered : startup.withInherited next = some after) :
    after.inherited = next ∧ after.control = startup.control ∧ after.spoken = startup.spoken ∧
      (startup.control.isSome = true → startup.spoken = true) := by
  cases startup <;> cases offered <;> exact ⟨rfl, rfl, rfl, by simp [control, spoken]⟩

end Startup

def passes : PrimEvent → Bool
  | ⟨⟨_, .writeFrame .control _ _⟩, .ok _⟩ => true
  | ⟨⟨_, .readMessage⟩, .ok _⟩ => true
  | _ => false

/-- The process at one moment, with what has been handed out so far. -/
structure Moment where
  startup : Startup
  kernel : Kernel
  handed : List Int

/-- What the process does.  A socket that listens passes no message, and one that is
connected is neither closed nor made to listen as long as the stream owns it. -/
inductive Moment.Step (host : Host) : Moment → Moment → Prop where
  | elsewhere {startup : Startup} {kernel : Kernel} {handed : List Int} (next : Kernel)
      (owned : ∀ fd, startup.control = some fd → kernel.connected fd = true →
        next.connected fd = true) :
      Step host ⟨startup, kernel, handed⟩ ⟨startup, next, handed⟩
  | handshake {control : Int} {inherited : InheritedListeners} {kernel : Kernel}
      {handed : List Int} {events : PrimPast} {store now : PrimStore} {negotiated : Negotiated}
      (run : (successorHandshake host store).Run events (.done (.ok negotiated, now)))
      (carried : events.any passes = true → kernel.connected control = true) :
      Step host ⟨.successor control inherited, kernel, handed⟩
        ⟨.handshook control inherited negotiated, kernel, handed⟩
  | waitForBegin {control : Int} {inherited : InheritedListeners} {kernel : Kernel}
      {handed : List Int} {events : PrimPast} {store now : PrimStore} {negotiated : Negotiated}
      {fuel : Nat}
      (run : (waitForBegin negotiated.handoffId fuel store).Run events (.done (.ok (), now)))
      (carried : events.any passes = true → kernel.connected control = true) :
      Step host ⟨.handshook control inherited negotiated, kernel, handed⟩
        ⟨.begun control inherited, kernel, handed⟩
  | take {startup after : Startup} {kernel : Kernel} {handed : List Int} {found : Option Int}
      {next : InheritedListeners} (call : TakeCall)
      (answered : call.answer kernel startup.inherited = (found, next))
      (offered : startup.withInherited next = some after) :
      Step host ⟨startup, kernel, handed⟩ ⟨after, kernel, found.toList ++ handed⟩

/-- What `detect_role` leads to. -/
abbrev Moment.Leads (host : Host) (role : Role) (kernel : Kernel) (moment : Moment) : Prop :=
  Relation.ReflTransGen (Moment.Step host) ⟨Startup.ofRole role, kernel, []⟩ moment

private theorem successorHandshake_passes {host : Host} {store now : PrimStore} {events : PrimPast}
    {negotiated : Negotiated}
    (run : (successorHandshake host store).Run events (.done (.ok negotiated, now))) :
    events.any passes = true := by
  have met : Meets (fun _ _ => True) (fun outcome _ later =>
      outcome.isOk = true → later.any passes = true) (successorHandshake host) store [] := by
    unfold successorHandshake successorHandshakeOf
    refine Meets.callBind trivial fun written => ?_
    cases written with
    | error cause =>
        intro impossible
        contradiction
    | ok _ =>
        refine Meets.callBind trivial fun read => ?_
        cases read with
        | error cause =>
            intro impossible
            contradiction
        | ok frame =>
            obtain ⟨version, message⟩ := frame
            cases message <;> exact fun _ => rfl
  exact met.ended run rfl

/-- Nothing that was handed out is left in the map or is the control stream, which
is connected once it has been used. -/
structure Moment.Sound (moment : Moment) : Prop where
  distinct : moment.startup.inherited.Distinct
  gone : ∀ fd ∈ moment.handed, ∀ name, moment.startup.inherited.lookup name ≠ some fd
  nodup : moment.handed.Nodup
  apart : ∀ fd, moment.startup.control = some fd → fd ∉ moment.handed
  connected : ∀ fd, moment.startup.control = some fd → moment.startup.spoken = true →
    moment.kernel.connected fd = true

section

variable {host : Host} {moment after : Moment}

theorem Moment.Sound.step (sound : moment.Sound) (step : Moment.Step host moment after) :
    after.Sound := by
  cases step with
  | elsewhere next owned =>
      refine ⟨sound.distinct, sound.gone, sound.nodup, sound.apart, ?_⟩
      intro fd control spoken
      exact owned fd control (sound.connected fd control spoken)
  | handshake run carried =>
      refine ⟨sound.distinct, sound.gone, sound.nodup, sound.apart, ?_⟩
      intro fd control _
      obtain rfl := Option.some.inj control
      exact carried (successorHandshake_passes run)
  | waitForBegin run carried =>
      exact ⟨sound.distinct, sound.gone, sound.nodup, sound.apart,
        fun fd control _ => sound.connected fd control rfl⟩
  | @take startup next kernel handed found left call answered offered =>
      obtain ⟨rest, control, spoken, ready⟩ := Startup.withInherited_some offered
      rw [TakeCall.answer_eq] at answered
      have connected : ∀ fd, next.control = some fd → next.spoken = true →
          kernel.connected fd = true := by
        rw [control, spoken]
        exact sound.connected
      cases found with
      | none =>
          obtain rfl := InheritedListeners.takeValidated_none answered
          refine ⟨?_, ?_, sound.nodup, ?_, connected⟩
          · rw [rest]
            exact sound.distinct
          · rw [rest]
            exact sound.gone
          · rw [control]
            exact sound.apart
      | some fd =>
          obtain ⟨inside, rfl, socket, here, listens, _⟩ :=
            InheritedListeners.takeValidated_some answered
          have fresh : fd ∉ handed := fun again => sound.gone fd again call.name inside
          refine ⟨?_, ?_, List.nodup_cons.mpr ⟨fresh, sound.nodup⟩, ?_, connected⟩
          · rw [rest]
            exact sound.distinct.remove call.name
          · rw [rest]
            intro other member name found
            obtain ⟨different, before⟩ := InheritedListeners.lookup_of_remove found
            rcases List.mem_cons.mp member with rfl | earlier
            · exact different (sound.distinct name call.name other before inside)
            · exact sound.gone other earlier name before
          · intro stream own member
            rw [control] at own
            rcases List.mem_cons.mp member with rfl | earlier
            · have speaks := sound.connected stream own (ready (by rw [own]; rfl))
              rw [Kernel.connected_of_listening here listens] at speaks
              contradiction
            · exact sound.apart stream own earlier

theorem Moment.Sound.leads (sound : moment.Sound)
    (steps : Relation.ReflTransGen (Moment.Step host) moment after) : after.Sound := by
  induction steps with
  | refl => exact sound
  | tail _ step ih => exact ih.step step

end

/-! ### Adoption -/

section

variable {isSocket : Nat → Bool} {child : Activated}

private theorem inherited_slot (countable : Countable child) {name : String} {fd : Int}
    (found : (readInheritedListeners isSocket child).lookup name = some fd) :
    ∃ i < listenCount child.env, slotName (listenNames child.env) i = name ∧ fd = i + 3 := by
  unfold readInheritedListeners at found
  change (if listenCount child.env = 0 then InheritedListeners.default
    else if foreignListenPid child.env child.pid then InheritedListeners.default
    else (List.range (listenCount child.env)).foldl
      (adoptSlot isSocket child.table (listenNames child.env)) .default).lookup name = some fd at found
  split at found
  · contradiction
  · split at found
    · contradiction
    · next own =>
        have small := countable.resolve_left own
        obtain ⟨i, below, named, slot⟩ := adopted_slot isSocket child.table _ found
        have descriptor : i + 3 < 2 ^ 31 := by omega
        exact ⟨i, below, named, slot.trans (slotFd_eq descriptor)⟩

private theorem inherited_distinct (countable : Countable child) :
    (readInheritedListeners isSocket child).Distinct := by
  intro first second fd one two
  obtain ⟨i, _, named, here⟩ := inherited_slot countable one
  obtain ⟨j, _, also, there⟩ := inherited_slot countable two
  have same : i = j := by omega
  rw [← named, ← also, same]

private theorem detectRoleWith_inherited {inherited : InheritedListeners} {role : Role}
    {env : Environment} (detected : detectRoleWith isSocket inherited child = (.ok role, env)) :
    (Startup.ofRole role).inherited = inherited := by
  unfold detectRoleWith at detected
  simp only at detected
  split at detected
  · split at detected
    · cases detected
    · split at detected
      · cases detected
      · split at detected
        · cases detected
          rfl
        · cases detected
  · cases detected
    rfl

private theorem ofRole_sound {role : Role} (kernel : Kernel)
    (distinct : (Startup.ofRole role).inherited.Distinct) :
    Moment.Sound ⟨Startup.ofRole role, kernel, []⟩ := by
  refine ⟨distinct, ?_, List.nodup_nil, fun _ _ => List.not_mem_nil, ?_⟩
  · intro fd impossible
    contradiction
  · intro fd _ spoken
    cases role <;> contradiction

end

/-- Whatever is asked for next is refused without a trace or is a listening socket of
the family, and nothing was handed out twice or is the control stream. -/
structure Moment.Safe (moment : Moment) : Prop where
  refused : ∀ (call : TakeCall) (left : InheritedListeners),
    call.answer moment.kernel moment.startup.inherited = (none, left) →
      left = moment.startup.inherited
  listens : ∀ (call : TakeCall) (fd : Int) (left : InheritedListeners),
    call.answer moment.kernel moment.startup.inherited = (some fd, left) →
      ∃ socket, moment.kernel.socketAt fd = some socket ∧ socket.listening = true ∧
        socket.family ∈ call.families
  once : moment.handed.Nodup
  apart : ∀ control, moment.startup.control = some control → control ∉ moment.handed

theorem Moment.Sound.safe {moment : Moment} (sound : moment.Sound) : moment.Safe := by
  refine ⟨?_, ?_, sound.nodup, sound.apart⟩
  · intro call left refused
    rw [TakeCall.answer_eq] at refused
    exact InheritedListeners.takeValidated_none refused
  · intro call fd left answered
    rw [TakeCall.answer_eq] at answered
    exact (InheritedListeners.takeValidated_some answered).2.2

/-- Adoption is sound exactly when the listeners are for another process or every
slot is a descriptor number. -/
theorem adoption_sound (overflowChecks : Bool) (host : Host) (sockets : Nat → Option BoundSocket)
    (child : Activated) :
    ((∀ i ∈ listenSlots child, checkedSlot overflowChecks i = some ((i : Int) + 3)) ∧
      (detectRoleChecked overflowChecks (fun file => (sockets file).isSome) child).isSome = true ∧
      ∀ (role : Role) (env : Environment) (moment : Moment),
        detectRoleChecked overflowChecks (fun file => (sockets file).isSome) child =
          some (.ok role, env) →
        Moment.Leads host role ⟨child.table, sockets⟩ moment → moment.Safe) ↔
      Countable child := by
  constructor
  · intro sound
    exact (listenSlots_iff overflowChecks).mp sound.1
  · intro countable
    rw [detectRoleChecked_eq overflowChecks (fun file => (sockets file).isSome) countable]
    refine ⟨(listenSlots_iff overflowChecks).mpr countable, rfl, ?_⟩
    intro role env moment detected leads
    rw [← detectRoleWith_read] at detected
    have adopted := detectRoleWith_inherited (Option.some.inj detected)
    have start : Moment.Sound ⟨Startup.ofRole role, ⟨child.table, sockets⟩, []⟩ := by
      apply ofRole_sound
      rw [adopted]
      exact inherited_distinct countable
    exact (start.leads leads).safe

/-! ### Environments -/

/-- Descriptor 3 is a listening Unix socket, 4 a listening TCP socket and 5 a
connected one. -/
def exampleSockets : Nat → Option BoundSocket
  | 13 => some ⟨afUnix, .listening⟩
  | 14 => some ⟨afInet, .listening⟩
  | 15 => some ⟨afUnix, .connected⟩
  | _ => none

def exampleTable : FdTable where
  entries fd := if 3 ≤ fd ∧ fd ≤ 5 then some ⟨fd.toNat + 10, false⟩ else none
  limit := 1024
  limit_le := by decide
  negative := by
    intro fd below
    rw [if_neg (by omega)]

def exampleKernel : Kernel := ⟨exampleTable, exampleSockets⟩

def exampleChild (settings : List (String × String)) : Activated :=
  ⟨Environment.overriddenBy (fun _ => none) settings, exampleTable, 77⟩

def exampleIsSocket (file : Nat) : Bool := (exampleSockets file).isSome

def successorChild : Activated := exampleChild
  [(envListenFds, "2"), (envHandoffRole, "successor"), (envHandoffSockFd, "5")]

def successorHost : Host where
  pid := 77
  euid := 0
  dataDir := "/data"
  socketPath := "/run/control.sock"
  socketDir := some "/run"
  stagingPath := "/run/.c-77-0"
  maxSocketPathLen := 107
  buildId := []

private theorem successor_begins (inherited : InheritedListeners) :
    Relation.ReflTransGen (Moment.Step successorHost)
      ⟨.successor 5 inherited, exampleKernel, []⟩ ⟨.begun 5 inherited, exampleKernel, []⟩ := by
  have connected : exampleKernel.connected 5 = true := by decide +kernel
  have greeted : (successorHandshake successorHost {}).Run
      [⟨⟨{}, .writeFrame .control protoMax (.hello .successor 77 [] protoMin protoMax {})⟩, .ok ()⟩,
        ⟨⟨{}, .readMessage⟩, .ok (1, .helloAck 1 ⟨7⟩)⟩] (.done (.ok ⟨⟨7⟩, 1⟩, {})) := by
    unfold successorHandshake successorHandshakeOf
    apply run_callBind
    apply run_callBind
    exact Program.Run.stop _
  have begun : (waitForBegin ⟨7⟩ 1 {}).Run [⟨⟨{}, .readMessage⟩, .ok (1, .begin ⟨7⟩)⟩]
      (.done (.ok (), {})) := by
    unfold waitForBegin
    apply run_callBind
    exact Program.Run.stop _
  exact .tail (.tail .refl (.handshake greeted fun _ => connected))
    (.waitForBegin begun fun _ => connected)

/-- The control descriptor of a role, and what the names of two slots stand for. -/
def shownRole : Role → Option Int × List (Option Int)
  | .coldStart inherited => (none, [inherited.lookup "0", inherited.lookup "1"])
  | .successor control inherited => (some control, [inherited.lookup "0", inherited.lookup "1"])

private theorem successorChild_detected :
    ∃ inherited env, detectRoleChecked true exampleIsSocket successorChild =
        some (.ok (.successor 5 inherited), env) ∧
      inherited.lookup "0" = some 3 ∧ inherited.lookup "1" = some 4 := by
  have found : (detectRoleChecked true exampleIsSocket successorChild).bind (fun detected =>
      detected.1.toOption.map shownRole) = some (some 5, [some 3, some 4]) := by decide +kernel
  obtain ⟨⟨outcome, env⟩, checked, shown⟩ := Option.bind_eq_some_iff.mp found
  obtain ⟨role, ok, same⟩ := Option.map_eq_some_iff.mp shown
  cases outcome with
  | error cause => contradiction
  | ok other =>
      obtain rfl := Option.some.inj ok
      cases other with
      | coldStart inherited => cases same
      | successor control inherited =>
          simp only [shownRole, Prod.mk.injEq, Option.some.injEq, List.cons.injEq] at same
          obtain ⟨rfl, zero, one, _⟩ := same
          exact ⟨inherited, env, checked, zero, one⟩

/-- Both listeners of the successor are handed out. -/
theorem adoption_sound_successor :
    ∃ role env moment, detectRoleChecked true exampleIsSocket successorChild =
        some (.ok role, env) ∧
      Moment.Leads successorHost role exampleKernel moment ∧ moment.handed = [4, 3] ∧
      moment.Safe := by
  obtain ⟨inherited, env, detected, zero, one⟩ := successorChild_detected
  have begins := successor_begins inherited
  have first : TakeCall.answer ⟨true, "0"⟩ exampleKernel inherited =
      (some 3, inherited.remove "0") := by
    have live : exampleKernel.fdIsListening 3 = true ∧
        exampleKernel.socketFamily 3 = some afUnix := by decide +kernel
    simp [TakeCall.answer_eq, TakeCall.families, InheritedListeners.takeValidated, zero, live]
  have still : (inherited.remove "0").lookup "1" = some 4 := by
    simp [InheritedListeners.remove, one]
  have second : TakeCall.answer ⟨false, "1"⟩ exampleKernel (inherited.remove "0") =
      (some 4, (inherited.remove "0").remove "1") := by
    have live : exampleKernel.fdIsListening 4 = true ∧
        exampleKernel.socketFamily 4 = some afInet := by decide +kernel
    simp [TakeCall.answer_eq, TakeCall.families, InheritedListeners.takeValidated, still, live]
  have last := @Moment.Step.take successorHost (.begun 5 (inherited.remove "0")) _ exampleKernel [3]
    (some 4) _ ⟨false, "1"⟩ second rfl
  have leads : Moment.Leads successorHost (.successor 5 inherited) exampleKernel
      ⟨.begun 5 ((inherited.remove "0").remove "1"), exampleKernel, [4, 3]⟩ :=
    .tail (.tail begins (.take ⟨true, "0"⟩ first rfl)) last
  have count : listenCount successorChild.env = 2 := by decide +kernel
  have countable : Countable successorChild := Or.inr (by rw [count]; decide)
  obtain ⟨_, _, safe⟩ :=
    (adoption_sound true successorHost exampleSockets successorChild).mpr countable
  exact ⟨_, env, _, detected, leads, rfl, safe _ env _ detected leads⟩

/-- A count of `usize::MAX` is a panic. -/
theorem adoption_unsound :
    detectRoleChecked true exampleIsSocket
      (exampleChild [(envListenFds, "18446744073709551615")]) = none := by
  have count : listenCount (exampleChild [(envListenFds, "18446744073709551615")]).env =
      18446744073709551615 := by decide +kernel
  have own : foreignListenPid (exampleChild [(envListenFds, "18446744073709551615")]).env 77 =
      false := by decide +kernel
  have full : capacityFits 18446744073709551615 = false := by decide +kernel
  have panics : readInheritedChecked true exampleIsSocket
      (exampleChild [(envListenFds, "18446744073709551615")]) = none := by
    unfold readInheritedChecked
    rw [count, if_neg (by decide),
      if_neg (by rw [show (exampleChild _).pid = 77 from rfl, own]; decide),
      if_pos full]
  rw [detectRoleChecked, panics]
  rfl

end Handoff
