/-
What a trigger client can make the supervisor do.

`Take` cuts the line at its limit without a trace, and what is left is executed.
For a line within the limit the binary follows from the whole line, and a path
that the client names has the canonical form of a configured one.  A longer line
is refused exactly when what is left of it is not a command that is permitted,
and that depends on the file system, which is a parameter there.
-/

import Handoff.Trigger.Command

namespace Handoff.Trigger

open Effects
open Effects.Code hiding pure bind

variable {bytes : List UInt8} {line binary : String}

/-! ### The line that is read -/

/-- What the client sends before its first newline, or before it closes. -/
def firstLine (bytes : List UInt8) : List UInt8 := bytes.takeWhile (· ≠ newline)

def cut : List UInt8 → List UInt8
  | [] => []
  | byte :: bytes => if byte = newline then [byte] else byte :: cut bytes

section

variable {source next : Source} {room limit : Nat} {chunk buf line : List UInt8} {cause : IoError}

private theorem read_ok (step : source.read room = (.ok chunk, next)) :
    source.bytes = chunk ++ next.bytes ∧ chunk.length ≤ room ∧
      (0 < room → chunk = [] → source.bytes = []) := by
  obtain ⟨schedule, bytes⟩ := source
  cases schedule with
  | nil =>
      cases step
      refine ⟨(List.take_append_drop _ _).symm, List.length_take_le _ _, ?_⟩
      intro some empty
      exact (List.take_eq_nil_iff.mp empty).resolve_left (by omega)
  | cons first schedule =>
      cases first with
      | ready more =>
          cases step
          refine ⟨(List.take_append_drop _ _).symm,
            Nat.le_trans (List.length_take_le _ _) (Nat.min_le_left _ _), ?_⟩
          intro some empty
          exact (List.take_eq_nil_iff.mp empty).resolve_left (by omega)
      | failing cause => cases step

private theorem read_error (step : source.read room = (.error cause, next)) :
    next.bytes = source.bytes := by
  obtain ⟨schedule, bytes⟩ := source
  cases schedule with
  | nil => cases step
  | cons first schedule =>
      cases first with
      | ready more => cases step
      | failing other =>
          cases step
          rfl

private theorem cut_of_mem (member : newline ∈ bytes) :
    cut bytes = firstLine bytes ++ [newline] := by
  induction bytes with
  | nil => contradiction
  | cons byte bytes ih =>
      by_cases here : byte = newline
      · simp [cut, firstLine, here]
      · have later : newline ∈ bytes := by
          rcases List.mem_cons.mp member with same | later
          · exact absurd same.symm here
          · exact later
        simp only [firstLine] at ih
        simp [cut, firstLine, here, ih later]

private theorem cut_append (front back : List UInt8) :
    cut (front ++ back) = if newline ∈ front then cut front else front ++ cut back := by
  induction front with
  | nil => simp
  | cons byte front ih =>
      by_cases here : byte = newline
      · simp [cut, here]
      · have other : newline ≠ byte := Ne.symm here
        simp only [List.cons_append, cut, here, if_false, ih, List.mem_cons, other, false_or]
        split <;> rfl

private theorem cut_take (fits : (firstLine bytes).length ≤ limit) :
    cut (bytes.take limit) = firstLine bytes ∨
      cut (bytes.take limit) = firstLine bytes ++ [newline] := by
  induction bytes generalizing limit with
  | nil =>
      left
      simp [cut, firstLine]
  | cons byte bytes ih =>
      cases limit with
      | zero =>
          left
          rw [Nat.le_zero, List.length_eq_zero_iff] at fits
          rw [fits]
          rfl
      | succ limit =>
          by_cases here : byte = newline
          · right
            simp [cut, firstLine, here]
          · have shape : firstLine (byte :: bytes) = byte :: firstLine bytes := by
              simp [firstLine, here]
            rw [shape, List.length_cons] at fits
            have rest := ih (Nat.le_of_succ_le_succ fits)
            simp only [List.take_succ_cons, cut, here, if_false, shape, List.cons_append,
              List.cons.injEq, true_and]
            exact rest

private theorem readUntil_ok (returned : readUntil limit buf source = .ok line) :
    line = buf ++ cut (source.bytes.take limit) := by
  fun_induction readUntil limit buf source with
  | case1 limit buf source opened _ step =>
      obtain ⟨_, _, ended⟩ := read_ok step
      rw [← Except.ok.inj returned, ended (by unfold bufferSize; omega) rfl]
      simp [cut]
  | case2 limit buf source opened byte chunk next step here =>
      obtain ⟨whole, size, _⟩ := read_ok step
      have inside : (byte :: chunk).length ≤ limit := Nat.le_trans size (Nat.min_le_left _ _)
      rw [← Except.ok.inj returned, whole, List.take_append, List.take_of_length_le inside,
        cut_append, if_pos here, cut_of_mem here, List.append_assoc]
      rfl
  | case3 limit buf source opened byte chunk next step absent ih =>
      obtain ⟨whole, size, _⟩ := read_ok step
      have inside : (byte :: chunk).length ≤ limit := Nat.le_trans size (Nat.min_le_left _ _)
      rw [ih returned, whole, List.take_append, List.take_of_length_le inside, cut_append,
        if_neg absent, List.append_assoc]
  | case4 limit buf source opened cause next step interrupted ih =>
      rw [ih returned, read_error step]
  | case5 => contradiction
  | case6 limit buf source used =>
      rw [← Except.ok.inj returned, Nat.eq_zero_of_not_pos used]
      simp [cut]

def textBytes (text : String) : List UInt8 := text.toByteArray.data.toList

private theorem fromUTF8_bytes {text : String}
    (valid : String.fromUTF8? ⟨bytes.toArray⟩ = some text) : textBytes text = bytes := by
  unfold String.fromUTF8? at valid
  split at valid
  · obtain rfl := Option.some.inj valid
    rfl
  · contradiction

private theorem readLine_ok {text : String} (returned : readLine limit source = .ok text) :
    textBytes text = cut (source.bytes.take limit) := by
  unfold readLine at returned
  split at returned
  · contradiction
  · next bytes read =>
      split at returned
      · next valid =>
          obtain rfl := Except.ok.inj returned
          rw [fromUTF8_bytes valid, readUntil_ok read, List.nil_append]
      · contradiction

end

def authorised (euid : UInt32) (cfg : Config) (client : Client) : Bool :=
  match client.peerUid with
  | .error _ => false
  | .ok uid => peerUidIsAllowed euid uid cfg.allowedUids

def commandOf (client : Client) : Option String :=
  match client.readTimeout, client.writeTimeout with
  | .ok (), .ok () =>
      match readLine triggerMaxLine client.source with
      | .ok "" => none
      | .ok line => some line
      | .error _ => none
  | _, _ => none

theorem commandOf_read {client : Client} (sent : commandOf client = some line) :
    readLine triggerMaxLine client.source = .ok line := by
  unfold commandOf at sent
  split at sent
  · split at sent
    · contradiction
    · next read =>
        obtain rfl := Option.some.inj sent
        exact read
    · contradiction
  · contradiction

theorem readTriggerCommand_authorised {euid : UInt32} {cfg : Config} {client : Client}
    (permitted : authorised euid cfg client = true) :
    readTriggerCommand euid cfg client = pure (commandOf client) := by
  unfold readTriggerCommand commandOf
  cases peer : client.peerUid with
  | error cause => simp [authorised, peer] at permitted
  | ok uid =>
      have allowed : peerUidIsAllowed euid uid cfg.allowedUids = true := by
        simpa only [authorised, peer] using permitted
      simp only [allowed, Bool.true_eq_false, if_false]
      cases client.readTimeout with
      | error cause => rfl
      | ok _ =>
          cases client.writeTimeout with
          | error cause => rfl
          | ok _ =>
              dsimp only
              split <;> simp_all only

/-! ### The binary that is run -/

def Canonicalized (past : TriggerPast) (path canonical : String) : Prop :=
  (⟨⟨(), .canonicalize path⟩, .ok canonical⟩ : TriggerEvent) ∈ past

/-- The binary that a command names: the configured one, or a path whose canonical
form is that of a configured one. -/
def Names (cfg : Config) (past : TriggerPast) (binary : String) : List (List Char) → Prop
  | [] => False
  | [verb] => verb = "handoff".toList ∧ binary = cfg.binary
  | verb :: requested :: _ => verb = "handoff".toList ∧
      Canonicalized past (String.ofList requested) binary ∧
      ∃ allowed ∈ cfg.binary :: cfg.allowedBinaries, Canonicalized past allowed binary

theorem Names.append {cfg : Config} {past : TriggerPast} {tokens : List (List Char)}
    (names : Names cfg past binary tokens) (more : TriggerPast) :
    Names cfg (past ++ more) binary tokens := by
  match tokens, names with
  | [_], names => exact names
  | _ :: _ :: _, ⟨verb, resolved, allowed, member, same⟩ =>
      exact ⟨verb, List.mem_append_left _ resolved, allowed, member, List.mem_append_left _ same⟩

def TriggerDuty (cfg : Config) (tokens : List (List Char)) (past : TriggerPast)
    (call : Call Unit TriggerOp) : Prop :=
  match call.op with
  | .performHandoff spec => spec = cfg.spec spec.binary ∧ Names cfg past spec.binary tokens
  | _ => True

section

variable {cfg : Config} {tokens : List (List Char)} {past : TriggerPast}

theorem anyCanonical_spec {canonical : String} (paths : List String) :
    Meets (TriggerDuty cfg tokens) (fun outcome _ later =>
      (∃ events, later = past ++ events) ∧
        (outcome = .ok true → ∃ path ∈ paths, Canonicalized later path canonical))
      (anyCanonical canonical paths) () past := by
  induction paths generalizing past with
  | nil =>
      refine ⟨⟨[], (List.append_nil _).symm⟩, ?_⟩
      intro impossible
      contradiction
  | cons path paths ih =>
      have onward (answer : Except IoError String) :
          Meets (TriggerDuty cfg tokens) (fun outcome _ later =>
            (∃ events, later = past ++ events) ∧
              (outcome = .ok true → ∃ other ∈ path :: paths, Canonicalized later other canonical))
            (anyCanonical canonical paths) () (past ++ [⟨⟨(), .canonicalize path⟩, answer⟩]) := by
        refine ih.mono ?_
        intro outcome _ later spec
        obtain ⟨⟨events, rfl⟩, found⟩ := spec
        refine ⟨⟨_, List.append_assoc ..⟩, ?_⟩
        intro accepted
        obtain ⟨other, member, same⟩ := found accepted
        exact ⟨other, List.mem_cons_of_mem _ member, same⟩
      unfold anyCanonical
      refine Meets.callBind trivial fun answer => ?_
      cases answer with
      | error cause => exact onward (.error cause)
      | ok allowed =>
          dsimp only
          split
          · next same =>
              refine ⟨⟨_, rfl⟩, fun _ => ⟨path, List.mem_cons_self, ?_⟩⟩
              rw [← same]
              exact List.mem_append_right _ (List.mem_singleton_self _)
          · exact onward (.ok allowed)

theorem resolveRequestedBinary_spec (requested : String) :
    Meets (TriggerDuty cfg tokens) (fun outcome _ later => ∀ binary, outcome = .ok binary →
      Canonicalized later requested binary ∧
        ∃ allowed ∈ cfg.binary :: cfg.allowedBinaries, Canonicalized later allowed binary)
      (resolveRequestedBinary requested cfg) () past := by
  unfold resolveRequestedBinary
  refine Meets.callBind trivial fun answer => ?_
  cases answer with
  | error cause =>
      intro binary impossible
      contradiction
  | ok canonical =>
      refine Meets.bind (anyCanonical_spec (cfg.binary :: cfg.allowedBinaries)) ?_ ?_
      · intro permitted _ later spec
        obtain ⟨⟨events, rfl⟩, found⟩ := spec
        cases permitted with
        | true =>
            intro binary same
            obtain rfl := Except.ok.inj same
            exact ⟨List.mem_append_left _ (List.mem_append_right _ (List.mem_singleton_self _)),
              found rfl⟩
        | false =>
            intro binary impossible
            contradiction
      · intro failure _ later _ binary impossible
        contradiction

def afterwardsOp : TriggerOp → Bool
  | .performHandoff _ => false
  | _ => true

private theorem waitChildLoop_afterwards (deadline : Instant) (fuel : Nat) :
    Within afterwardsOp (waitChildLoop deadline fuel) := by
  induction fuel with
  | zero =>
      intro store past
      exact ⟨⟨rfl, rfl⟩, fun answer => answer.elim⟩
  | succ fuel ih =>
      unfold waitChildLoop
      refine within_bind (within_call rfl) fun waited => ?_
      split
      · exact within_pure _
      · exact within_pure _
      · refine within_bind (within_call rfl) fun now => ?_
        apply within_ite
        · exact within_pure _
        · exact within_bind (within_call rfl) fun _ => ih

private theorem adoptChild_afterwards (cfg : Config) (outcome : HandoffOutcome) (fuel : Nat) :
    Within afterwardsOp (adoptChild cfg outcome fuel) := by
  unfold adoptChild
  split
  · refine within_bind (within_call rfl) fun locked => ?_
    cases locked with
    | false => exact within_pure _
    | true =>
        refine within_bind ?_ fun _ => within_call rfl
        unfold waitChildWithTimeout
        refine within_bind (within_call rfl) fun now => ?_
        exact within_ite (waitChildLoop_afterwards _ _) (within_fail _)
  · exact within_pure _

theorem Within.dutiful {Value : Type} {code : TriggerM Value} (within : Within afterwardsOp code) :
    Meets (TriggerDuty cfg tokens) (fun _ _ _ => True) code () past := by
  refine (within.meets (fun _ => True) trivial ?_ (fun _ _ _ _ _ => trivial)).mono
    fun _ _ _ _ => trivial
  intro now op _ permitted
  cases op <;> first | contradiction | trivial

theorem runHandoff_spec (fuel : Nat) (named : Names cfg past binary tokens) :
    Meets (TriggerDuty cfg tokens) (fun _ _ _ => True) (runHandoff cfg binary fuel) () past := by
  unfold runHandoff
  refine Meets.callBind ⟨rfl, named⟩ fun answer => ?_
  cases answer with
  | error halt => cases halt <;> trivial
  | ok outcome =>
      apply Within.dutiful
      exact within_bind (adoptChild_afterwards cfg outcome fuel) fun _ => within_pure _

theorem handleTrigger_spec (cmd : List Char) (cfg : Config) (fuel : Nat) :
    Meets (TriggerDuty cfg (splitWhitespace cmd)) (fun _ _ _ => True) (handleTrigger cmd cfg fuel)
      () past := by
  unfold handleTrigger
  split
  · trivial
  · next verb rest same =>
      rw [same]
      split
      · next handoff =>
          split
          · exact runHandoff_spec fuel ⟨handoff, rfl⟩
          · next requested more =>
              refine Meets.bind (resolveRequestedBinary_spec (String.ofList requested)) ?_
                (fun _ _ _ _ => trivial)
              intro binary _ later spec
              obtain ⟨named, allowed⟩ := spec binary rfl
              exact runHandoff_spec fuel ⟨handoff, named, allowed⟩
      · trivial

end

def ClientDuty (cfg : Config) (client : Client) (past : TriggerPast)
    (call : Call Unit TriggerOp) : Prop :=
  ∀ spec, call.op = .performHandoff spec →
    ∃ line, commandOf client = some line ∧ spec = cfg.spec spec.binary ∧
      Names cfg past spec.binary (splitWhitespace (trimText line.toList))

section

variable {euid : UInt32} {cfg : Config} {client : Client} {past : TriggerPast}

theorem readTriggerCommand_spec :
    Meets (ClientDuty cfg client) (fun outcome _ _ => ∀ line, outcome = .ok (some line) →
      commandOf client = some line) (readTriggerCommand euid cfg client) () past := by
  cases permitted : authorised euid cfg client with
  | true =>
      rw [readTriggerCommand_authorised permitted]
      intro line same
      exact Except.ok.inj same
  | false =>
      unfold readTriggerCommand
      cases peer : client.peerUid with
      | error cause =>
          intro line impossible
          cases impossible
      | ok uid =>
          have other : peerUidIsAllowed euid uid cfg.allowedUids = false := by
            simpa only [authorised, peer] using permitted
          simp only [other, if_true]
          refine Meets.callBind (fun _ impossible => nomatch impossible) fun _ => ?_
          intro line impossible
          cases impossible

theorem serveClient_spec (fuel : Nat) :
    Meets (ClientDuty cfg client) (fun _ _ _ => True) (serveClient euid cfg client fuel) () [] := by
  have replies {reply : Reply} {later : TriggerPast} : Meets (ClientDuty cfg client)
      (fun _ _ _ => True) (do let _ ← ask (.writeReply reply)) () later :=
    Meets.callBind (fun _ impossible => nomatch impossible) fun _ => trivial
  unfold serveClient
  refine Meets.bind readTriggerCommand_spec ?_ (fun _ _ _ _ => trivial)
  intro cmd _ later spec
  cases cmd with
  | none => trivial
  | some line =>
      have read := spec line rfl
      have handled : Meets (ClientDuty cfg client) (fun _ _ _ => True)
          (handleTrigger (trimText line.toList) cfg fuel) () later := by
        apply Program.Keeps.mono (handleTrigger_spec (trimText line.toList) cfg fuel)
        · intro now call duty spec performs
          obtain ⟨⟨⟩, op⟩ := call
          cases performs
          exact ⟨line, read, duty⟩
        · intro _ _ _
          trivial
      refine Meets.attemptBind handled ?_
      intro outcome _ last _
      cases outcome with
      | ok reply => exact replies
      | error failure =>
          cases failure with
          | error display => exact replies
          | panic => trivial

def performed : TriggerEvent → Option SpawnSpec
  | ⟨⟨_, .performHandoff spec⟩, _⟩ => some spec
  | _ => none

private theorem op_of_performed {event : TriggerEvent} {spec : SpawnSpec}
    (found : performed event = some spec) :
    event.op.op = .performHandoff spec := by
  unfold performed at found
  split at found
  · rw [← Option.some.inj found]
  · contradiction

def WholeLine (cfg : Config) (client : Client) (past : TriggerPast) (spec : SpawnSpec) : Prop :=
  ∃ line : String,
    (textBytes line = firstLine client.source.bytes ∨
      textBytes line = firstLine client.source.bytes ++ [newline]) ∧
    spec = cfg.spec spec.binary ∧
    Names cfg past spec.binary (splitWhitespace (trimText line.toList))

private theorem caused_named {fuel : Nat} {rest : Process Unit TriggerAns TriggerFailure Unit}
    (run : (serveClient euid cfg client fuel ()).Run past rest) {spec : SpawnSpec}
    (caused : spec ∈ past.filterMap performed) :
    ∃ line, commandOf client = some line ∧ spec = cfg.spec spec.binary ∧
      Names cfg past spec.binary (splitWhitespace (trimText line.toList)) := by
  obtain ⟨event, member, found⟩ := List.mem_filterMap.mp caused
  obtain ⟨front, back, rfl⟩ := List.append_of_mem member
  have duty := run.asked (serveClient_spec fuel) rfl
  obtain ⟨line, sent, fields, names⟩ := duty spec (op_of_performed found)
  exact ⟨line, sent, fields, names.append _⟩

private theorem caused_wholeLine {fuel : Nat} {rest : Process Unit TriggerAns TriggerFailure Unit}
    (run : (serveClient euid cfg client fuel ()).Run past rest)
    (fits : (firstLine client.source.bytes).length ≤ triggerMaxLine)
    {spec : SpawnSpec} (caused : spec ∈ past.filterMap performed) :
    WholeLine cfg client past spec := by
  obtain ⟨line, sent, fields, names⟩ := caused_named run caused
  refine ⟨line, ?_, fields, names⟩
  rw [readLine_ok (commandOf_read sent)]
  exact cut_take fits

end

/-! ### A fixed file system -/

/-- The history of a turn in a file system that resolves paths by `resolve`. -/
def ResolvedBy (resolve : String → Except IoError String) (past : TriggerPast) : Prop :=
  ∀ path answer, (⟨⟨(), .canonicalize path⟩, answer⟩ : TriggerEvent) ∈ past → answer = resolve path

/-- The binary that a command is run with there, and none if it is refused. -/
def permittedBinary (resolve : String → Except IoError String) (cfg : Config) :
    List (List Char) → Option String
  | [] => none
  | verb :: rest =>
      if verb = "handoff".toList then
        match rest with
        | [] => some cfg.binary
        | requested :: _ =>
            match resolve (String.ofList requested) with
            | .error _ => none
            | .ok canonical =>
                if (cfg.binary :: cfg.allowedBinaries).any fun path => resolve path = .ok canonical
                then some canonical else none
      else none

section

variable {resolve : String → Except IoError String} {cfg : Config} {past : TriggerPast}

theorem ResolvedBy.nil : ResolvedBy resolve [] := by
  intro path answer member
  contradiction

theorem ResolvedBy.cons (resolved : ResolvedBy resolve past) (path : String) :
    ResolvedBy resolve (⟨⟨(), .canonicalize path⟩, resolve path⟩ :: past) := by
  intro other answer member
  cases member with
  | head => rfl
  | tail _ later => exact resolved other answer later

theorem ResolvedBy.performed (resolved : ResolvedBy resolve past) (spec : SpawnSpec)
    (answer : Except Halt HandoffOutcome) :
    ResolvedBy resolve (past ++ [⟨⟨(), .performHandoff spec⟩, answer⟩]) := by
  intro path found member
  rcases List.mem_append.mp member with earlier | last
  · exact resolved path found earlier
  · cases last with
    | tail _ later => contradiction

theorem Names.permitted {tokens : List (List Char)} (names : Names cfg past binary tokens)
    (resolved : ResolvedBy resolve past) : permittedBinary resolve cfg tokens = some binary := by
  match tokens, names with
  | [_], ⟨verb, same⟩ => rw [permittedBinary, if_pos verb, same]
  | _ :: requested :: _, ⟨verb, named, allowed, member, same⟩ =>
      have first : resolve (String.ofList requested) = .ok binary := (resolved _ _ named).symm
      have found : (cfg.binary :: cfg.allowedBinaries).any
          (fun path => resolve path = .ok binary) = true :=
        List.any_eq_true.mpr ⟨allowed, member, decide_eq_true (resolved _ _ same).symm⟩
      simp only [permittedBinary, if_pos verb, first, found, if_true]

private theorem anyCanonical_run (resolve : String → Except IoError String) (canonical : String)
    (paths : List String) :
    ∃ events, (anyCanonical canonical paths ()).Run events
      (.done (.ok (paths.any fun path => resolve path = .ok canonical), ())) ∧
      ResolvedBy resolve events := by
  induction paths with
  | nil => exact ⟨[], Program.Run.stop _, ResolvedBy.nil⟩
  | cons path paths ih =>
      obtain ⟨events, run, resolved⟩ := ih
      unfold anyCanonical
      by_cases same : resolve path = .ok canonical
      · refine ⟨_, run_callBind (resolve path) ?_, ResolvedBy.nil.cons path⟩
        rw [same]
        dsimp only
        rw [if_pos rfl, List.any_cons, same, decide_eq_true rfl, Bool.true_or]
        exact Program.Run.stop _
      · refine ⟨_, run_callBind (resolve path) ?_, resolved.cons path⟩
        rw [List.any_cons, decide_eq_false same, Bool.false_or]
        cases answered : resolve path with
        | error cause => exact run
        | ok other =>
            have differs : other ≠ canonical := by
              rintro rfl
              exact same answered
            dsimp only
            rw [if_neg differs]
            exact run

private theorem resolveRequestedBinary_run {requested canonical : String}
    (named : resolve requested = .ok canonical)
    (found : (cfg.binary :: cfg.allowedBinaries).any
      (fun path => resolve path = .ok canonical) = true) :
    ∃ events, (resolveRequestedBinary requested cfg ()).Run events (.done (.ok canonical, ())) ∧
      ResolvedBy resolve events := by
  obtain ⟨events, searched, resolved⟩ :=
    anyCanonical_run resolve canonical (cfg.binary :: cfg.allowedBinaries)
  rw [found] at searched
  unfold resolveRequestedBinary
  refine ⟨_, run_callBind (resolve requested) ?_, resolved.cons requested⟩
  rw [named]
  exact run_bind searched

private theorem runHandoff_run (cfg : Config) (binary : String) (fuel : Nat) :
    (runHandoff cfg binary fuel ()).Run
      [⟨⟨(), .performHandoff (cfg.spec binary)⟩, .error .panic⟩] (.done (.error .panic, ())) := by
  unfold runHandoff
  apply run_callBind
  exact Program.Run.stop _

private theorem handleTrigger_run {cmd : List Char} (fuel : Nat)
    (permitted : permittedBinary resolve cfg (splitWhitespace cmd) = some binary) :
    ∃ events rest, (handleTrigger cmd cfg fuel ()).Run events rest ∧ ResolvedBy resolve events ∧
      cfg.spec binary ∈ events.filterMap performed := by
  have performs := runHandoff_run cfg binary fuel
  unfold handleTrigger
  generalize splitWhitespace cmd = tokens at permitted
  match tokens, permitted with
  | verb :: more, permitted =>
      unfold permittedBinary at permitted
      obtain ⟨handoff, granted⟩ := Option.ite_none_right_eq_some.mp permitted
      dsimp only
      rw [if_pos handoff]
      match more, granted with
      | [], granted =>
          obtain rfl := Option.some.inj granted
          exact ⟨_, _, performs, ResolvedBy.nil.performed _ _, List.mem_singleton_self _⟩
      | requested :: _, granted =>
          dsimp only at granted
          split at granted
          · contradiction
          · next canonical named =>
              obtain ⟨found, same⟩ := Option.ite_none_right_eq_some.mp granted
              obtain rfl := Option.some.inj same
              obtain ⟨events, finds, resolved⟩ := resolveRequestedBinary_run named found
              refine ⟨_, _, (run_bind finds).trans performs, resolved.performed _ _, ?_⟩
              rw [List.filterMap_append]
              exact List.mem_append_right _ (List.mem_singleton_self _)

private theorem serveClient_run {euid : UInt32} {client : Client} (fuel : Nat)
    (known : authorised euid cfg client = true) (sent : commandOf client = some line)
    (permitted : permittedBinary resolve cfg (splitWhitespace (trimText line.toList)) = some binary) :
    ∃ events rest, (serveClient euid cfg client fuel ()).Run events rest ∧
      ResolvedBy resolve events ∧ cfg.spec binary ∈ events.filterMap performed := by
  obtain ⟨events, rest, run, resolved, performs⟩ := handleTrigger_run fuel permitted
  unfold serveClient
  rw [readTriggerCommand_authorised known, sent]
  exact ⟨events, _, Program.Run.bind (Program.Run.bind run _) _, resolved, performs⟩

/-- What an authorised client makes the supervisor run.  A first line within the
limit is carried out as a whole, whatever the answers of the file system.  In any
one file system only such lines are carried out, unless what was read of a longer
line spells a permitted command. -/
theorem trigger_wholeLine {euid : UInt32} {client : Client}
    (known : authorised euid cfg client = true) (resolve : String → Except IoError String) :
    ((firstLine client.source.bytes).length ≤ triggerMaxLine →
      ∀ fuel past rest, (serveClient euid cfg client fuel ()).Run past rest →
        ∀ spec ∈ past.filterMap performed, WholeLine cfg client past spec) ∧
    ((∀ fuel past rest, (serveClient euid cfg client fuel ()).Run past rest →
        ResolvedBy resolve past → ∀ spec ∈ past.filterMap performed,
          (firstLine client.source.bytes).length ≤ triggerMaxLine ∧
            WholeLine cfg client past spec) ↔
      (firstLine client.source.bytes).length ≤ triggerMaxLine ∨
        ∀ line, commandOf client = some line →
          permittedBinary resolve cfg (splitWhitespace (trimText line.toList)) = none) := by
  refine ⟨fun fits fuel past rest run spec => caused_wholeLine run fits, ?_, ?_⟩
  · intro whole
    by_contra neither
    obtain ⟨long, spells⟩ := not_or.mp neither
    push Not at spells
    obtain ⟨line, sent, permitted⟩ := spells
    obtain ⟨binary, named⟩ := Option.ne_none_iff_exists'.mp permitted
    obtain ⟨past, rest, run, resolved, performs⟩ := serveClient_run 0 known sent named
    exact long (whole 0 past rest run resolved _ performs).1
  · intro condition fuel past rest run resolved spec caused
    rcases condition with fits | refused
    · exact ⟨fits, caused_wholeLine run fits caused⟩
    · obtain ⟨line, sent, _, names⟩ := caused_named run caused
      have permitted := names.permitted resolved
      rw [refused line sent] at permitted
      contradiction

end

/-! ### Clients -/

private theorem cut_of_notMem (absent : newline ∉ bytes) : cut bytes = bytes := by
  have split := cut_append bytes []
  rw [List.append_nil, if_neg absent] at split
  exact split.trans (List.append_nil _)

private theorem readUntil_ended (limit : Nat) (buf : List UInt8) :
    readUntil limit buf ⟨[], []⟩ = .ok buf := by
  rw [readUntil]
  split
  · split
    · rfl
    · next step =>
        have nothing : List.take (min limit bufferSize) [] = _ := Except.ok.inj (Prod.mk.inj step).1
        rw [List.take_nil] at nothing
        contradiction
    · next step => cases step
  · rfl

private theorem readUntil_closed {limit : Nat} (bytes : List UInt8) (small : limit ≤ bufferSize) :
    readUntil limit [] ⟨[], bytes⟩ = .ok (cut (bytes.take limit)) := by
  have room : min limit bufferSize = limit := Nat.min_eq_left small
  by_cases some : 0 < limit
  · rw [readUntil, dif_pos some]
    split
    · next step =>
        rw [room] at step
        rw [(Except.ok.inj (Prod.mk.inj step).1 : bytes.take limit = [])]
        rfl
    · next byte chunk next step =>
        rw [room] at step
        obtain ⟨read, rfl⟩ := Prod.mk.inj step
        have taken : bytes.take limit = byte :: chunk := Except.ok.inj read
        rw [taken]
        split
        · next here => rw [cut_of_mem here]; rfl
        · next absent =>
            rw [cut_of_notMem absent]
            -- either the client has closed or the limit is used up
            by_cases short : bytes.length ≤ limit
            · have ended : bytes.drop limit = [] := List.drop_eq_nil_of_le short
              simp only [ended]
              exact readUntil_ended _ _
            · have used : limit - (byte :: chunk).length = 0 := by
                rw [← taken, List.length_take]
                omega
              rw [used, readUntil]
              rfl
    · next step => cases step
  · rw [Nat.eq_zero_of_not_pos some, readUntil]
    rfl

private theorem fromUTF8_textBytes (text : String) :
    String.fromUTF8? ⟨(textBytes text).toArray⟩ = some text := by
  have same : (⟨(textBytes text).toArray⟩ : ByteArray) = text.toByteArray := by
    simp [textBytes]
  unfold String.fromUTF8?
  rw [same, dif_pos text.isValidUTF8]
  rfl

theorem textBytes_ofList (chars : List Char) :
    textBytes (String.ofList chars) = chars.flatMap String.utf8EncodeChar := by
  simp [textBytes, List.utf8Encode]

private theorem readLine_closed {limit : Nat} {text : String} (small : limit ≤ bufferSize)
    (line : cut (bytes.take limit) = textBytes text) : readLine limit ⟨[], bytes⟩ = .ok text := by
  rw [readLine, readUntil_closed bytes small, line]
  simp only [fromUTF8_textBytes]

def rootClient (bytes : List UInt8) : Client := { peerUid := .ok 0, source := ⟨[], bytes⟩ }

private theorem readTriggerCommand_root {cfg : Config}
    (read : cut (bytes.take triggerMaxLine) = textBytes line) (written : line ≠ "") :
    readTriggerCommand 0 cfg (rootClient bytes) = pure (some line) := by
  have found : readLine triggerMaxLine ⟨[], bytes⟩ = .ok line := readLine_closed (by decide) read
  have allowed : peerUidIsAllowed 0 0 cfg.allowedUids = true := rfl
  simp only [readTriggerCommand, rootClient, allowed, Bool.true_eq_false, if_false, found]

theorem serveClient_root {cfg : Config} (fuel : Nat)
    (read : cut (bytes.take triggerMaxLine) = textBytes line) (written : line ≠ "") :
    serveClient 0 cfg (rootClient bytes) fuel = (do
      match ← attempt (handleTrigger (trimText line.toList) cfg fuel) with
      | .ok reply =>
          let _ ← ask (.writeReply reply)
      | .error (.error display) =>
          let _ ← ask (.writeReply (.err display))
      | .error .panic => fail .panic) := by
  unfold serveClient
  rw [readTriggerCommand_root read written]
  rfl

def exampleConfig : Config := { binary := "/srv/app", allowedBinaries := ["/srv/next"] }

/-- `/srv/./next` is `/srv/next`, and a handoff fails. -/
def exampleScript (_ : TriggerPast) (call : Call Unit TriggerOp) : Option (TriggerAns call.op) :=
  match call with
  | ⟨_, .canonicalize path⟩ => some (.ok (if path = "/srv/app" then path else "/srv/next"))
  | ⟨_, .performHandoff _⟩ => some (.error (.error .handoffInProgress))
  | ⟨_, .writeReply _⟩ => some (.ok ())
  | _ => none

def namedChars : List Char := "handoff /srv/./next\n".toList

private theorem namedChars_bytes : textBytes (String.ofList namedChars) =
    namedChars.flatMap String.utf8EncodeChar := textBytes_ofList namedChars

theorem ofList_ne_empty {chars : List Char} (written : chars ≠ []) : String.ofList chars ≠ "" := by
  intro same
  have lists := congrArg String.toList same
  rw [String.toList_ofList] at lists
  exact written lists

/-- `handoff /srv/./next`. -/
def namedBytes : List UInt8 := namedChars.flatMap String.utf8EncodeChar

private theorem namedBytes_read :
    cut (namedBytes.take triggerMaxLine) = textBytes (String.ofList namedChars) := by
  rw [namedChars_bytes]
  decide +kernel

theorem trigger_wholeLine_named :
    ∃ (past : TriggerPast) (line : String),
      exampleConfig.spec "/srv/next" ∈ past.filterMap performed ∧
      Names exampleConfig past "/srv/next" (splitWhitespace (trimText line.toList)) := by
  have run := Program.play_run exampleScript 9 []
    (serveClient 0 exampleConfig (rootClient namedBytes) 3 ())
  have caused : exampleConfig.spec "/srv/next" ∈ (Program.play exampleScript 9 []
      (serveClient 0 exampleConfig (rootClient namedBytes) 3 ())).1.filterMap performed := by
    rw [serveClient_root 3 namedBytes_read (ofList_ne_empty (by decide)), String.toList_ofList]
    decide +kernel
  have fits : (firstLine namedBytes).length ≤ triggerMaxLine := by decide +kernel
  have known : authorised 0 exampleConfig (rootClient namedBytes) = true := rfl
  obtain ⟨whole, _⟩ := trigger_wholeLine known fun path => .ok path
  obtain ⟨line, _, _, names⟩ := whole fits 3 _ _ run _ caused
  exact ⟨_, line, caused, names⟩

/-- `handoff` and spaces up to the limit. -/
def paddedChars : List Char := "handoff".toList ++ List.replicate 4089 ' '

def paddedBytes : List UInt8 :=
  (paddedChars ++ "/srv/next\n".toList).flatMap String.utf8EncodeChar

private theorem paddedBytes_read :
    cut (paddedBytes.take triggerMaxLine) = textBytes (String.ofList paddedChars) := by
  have length : (paddedChars.flatMap String.utf8EncodeChar).length = triggerMaxLine := by
    decide +kernel
  have plain : newline ∉ paddedChars.flatMap String.utf8EncodeChar := by
    intro member
    obtain ⟨char, written, encoded⟩ := List.mem_flatMap.mp member
    have verbs : ∀ char ∈ "handoff".toList, newline ∉ String.utf8EncodeChar char := by
      simp [newline, String.utf8EncodeChar]
    rcases List.mem_append.mp written with verb | space
    · exact verbs char verb encoded
    · rw [List.eq_of_mem_replicate space] at encoded
      exact absurd encoded (by decide)
  rw [paddedBytes, List.flatMap_append, List.take_left' length, cut_of_notMem plain, textBytes_ofList]

/-- The first 4096 bytes of a longer line spell `handoff`: it is run with the
configured binary, although the line names another one. -/
theorem trigger_truncated :
    triggerMaxLine < (firstLine paddedBytes).length ∧
      ∃ past rest, (serveClient 0 exampleConfig (rootClient paddedBytes) 3 ()).Run past rest ∧
        exampleConfig.spec "/srv/app" ∈ past.filterMap performed := by
  refine ⟨by decide +kernel, ?_⟩
  have alone : splitWhitespace (trimText (String.ofList paddedChars).toList) = ["handoff".toList] := by
    rw [String.toList_ofList]
    decide +kernel
  refine ⟨_, _, Program.play_run exampleScript 1 [] _, ?_⟩
  rw [serveClient_root 3 paddedBytes_read (ofList_ne_empty (by decide +kernel)), handleTrigger, alone]
  decide +kernel

end Handoff.Trigger
