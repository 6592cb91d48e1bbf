/-
The failures of the library, `error.rs`, with the texts they are shown with.

The variants and their fields are the source's own.  A system error keeps what
the code looks at: its kind, the raw error number when it came from a system
call, and the text the standard library prints for it.
-/

import Mathlib.Tactic.Ring

namespace Handoff

/-- `std::io::ErrorKind`, as far as the library distinguishes kinds. -/
inductive ErrorKind where
  | interrupted
  | wouldBlock
  | timedOut
  | unexpectedEof
  | connectionReset
  | brokenPipe
  | writeZero
  | notFound
  | other
  deriving DecidableEq, Repr

/-- The error numbers that the library names. -/
inductive Errno where
  | eintr
  | econnaborted
  | eproto
  | eperm
  | emfile
  | enfile
  | enobufs
  | enomem
  | eagain
  | einval
  | other (code : Int)
  deriving DecidableEq, Repr

structure IoError where
  kind : ErrorKind
  rawOsError : Option Errno
  text : String
  deriving DecidableEq, Repr

/-- `io::Error::from(kind)`: no error number behind it. -/
def IoError.ofKind (kind : ErrorKind) (text : String) : IoError :=
  { kind := kind, rawOsError := none, text := text }

inductive Error where
  | io (cause : IoError)
  | codec (text : String)
  | nix (errno : Errno) (text : String)
  | protocol (text : String)
  | frameTooLarge (bytes : UInt32)
  | frameMalformed (bytes : UInt32)
  | pidMismatch (expected announced : UInt32)
  | versionMismatch (ourMin ourMax theirMin theirMax : UInt16)
  | unexpectedMessage (name : String)
  | timeout (awaiting : String)
  | lockHeld (holderPid : Int)
  | staleLockBreakRefused (holderPid : Int)
  | socketPathTooLong (path : String) (len max : Nat)
  | peerNotPermitted (peerUid : UInt32)
  | handoffInProgress
  | aborted (reason : String)
  | missingEnv (var : String)
  | badEnv (var value : String)
  | channel
  deriving DecidableEq, Repr

/-- The `#[error(...)]` texts.  The library passes them on in `SealFailed` and
in the reason of an aborted handoff. -/
def Error.display : Error → String
  | .io cause => "io: " ++ cause.text
  | .codec text => "codec: " ++ text
  | .nix _ text => "nix: " ++ text
  | .protocol text => "protocol violation: " ++ text
  | .frameTooLarge bytes => "frame too large: " ++ toString bytes ++ " bytes exceeds cap"
  | .frameMalformed bytes =>
      "frame malformed: declared length " ++ toString bytes ++ " is below the protocol minimum"
  | .pidMismatch expected announced =>
      "peer announced pid " ++ toString announced ++ " does not match expected pid " ++
        toString expected
  | .versionMismatch ourMin ourMax theirMin theirMax =>
      "protocol version mismatch: our range " ++ toString ourMin ++ "..=" ++ toString ourMax ++
        ", peer range " ++ toString theirMin ++ "..=" ++ toString theirMax
  | .unexpectedMessage name => "unexpected message for current state: " ++ name
  | .timeout awaiting => "timed out waiting for " ++ awaiting
  | .lockHeld holderPid => "data-dir lock held by pid " ++ toString holderPid
  | .staleLockBreakRefused holderPid =>
      "refused to break lock held by live process " ++ toString holderPid
  | .socketPathTooLong path len max =>
      "unix socket path " ++ path ++ " is " ++ toString len ++ " bytes, which exceeds the " ++
        toString max ++ "-byte sun_path limit on this platform"
  | .peerNotPermitted peerUid =>
      "control socket peer uid " ++ toString peerUid ++ " is not permitted"
  | .handoffInProgress => "handoff already in progress"
  | .aborted reason => "handoff aborted by peer: " ++ reason
  | .missingEnv var => "required env var " ++ var ++ " not set"
  | .badEnv var value => "env var " ++ var ++ " has bad value: " ++ value
  | .channel => "internal channel disconnected"

/-- A read that found the peer gone: the two kinds `run_session_loop` treats as
a disconnect rather than as an error. -/
def Error.isDisconnect : Error → Bool
  | .io cause => cause.kind == .unexpectedEof || cause.kind == .connectionReset
  | _ => false

end Handoff
