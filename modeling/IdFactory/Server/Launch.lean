import Std.Data.HashSet
import IdFactory.Server.Config
import IdFactory.Server.DotEnv
import IdFactory.Server.FileHistory
import IdFactory.Factory.Warmup
import IdFactory.Factory.Fill
import IdFactory.Remote.Wire
import IdFactory.Random.Scripted
import IdFactory.Filter.Murmur

namespace IdFactory.Server

open Cli Remote IdFactory.Random

/-!
# Running the server

A run of the server reads the environment file of its directory into the
environment (variables already set win), reads its options, builds its
configuration, warms a factory from the history file if one is named, and
listens. Help and version requests print to standard output and succeed; a
command-line error prints to standard error with status 2; any later
failure prints `Error: ` and its message to standard error with status 1.

A Unix socket is bound as the module on paths describes. A network address must be an IP socket address, or a
host followed, after its last colon, by a number below 65536.

While the server listens, a client session fetches batches, waiting for a
refill whenever the pool is exhausted, then takes single identifiers
through a reserve. It reports the facts that hold whatever identifiers were
drawn: the batch sizes, how many single identifiers came, the identifiers'
lengths, and whether they were distinct, within an alphabet, and outside a
history. A signal then stops the server cleanly.
-/

/-- A client session against a listening server. -/
structure SessionPlan where
  batches : Nat := 1
  reserveNext : Nat := 0
  alphabet : Option String := none
  history : Option (List String) := none

/-- The facts a session reports when every request was answered. -/
structure SessionFacts where
  batchSizes : List Nat
  reserveIds : Nat
  idLengths : List Nat
  allDistinct : Bool
  inAlphabet : Bool
  noneInHistory : Bool

/-- What a session reports: its facts, or the failure that ended its fetches or its single
identifiers. -/
inductive SessionReport where
  | completed (facts : SessionFacts)
  | fetchFailed (error : FactoryError)
  | reserveFailed (error : FactoryError)

/-- How a run of the server ended. -/
inductive LaunchOutcome where
  /-- The server exited by itself, with a status and its two outputs. -/
  | exited (code : Nat) (stdout stderr : String)
  /-- The server listened on a Unix socket until signalled, serving the session if any. -/
  | served (report : Option SessionReport)
  /-- The server listened on a network address. -/
  | listensOnNetwork

/-- Why a network address cannot be listened on, if it cannot be resolved at all: it needs a
colon, and a number below 65536 after the last one. -/
def addressProblem (addr : String) : Option String :=
  let parts := addr.splitOn ":"
  if parts.length < 2 then some "invalid socket address"
  else match Decimal.readUnsigned 65535 (parts.getLast?.getD "") with
    | .error _ => some "invalid port value"
    | .ok _ => none

variable {σ : Type} [RandomSource σ]

/-- How a request of a session ended: answered, failed at the remote source, or left
unanswered once the session's patience ran out. -/
inductive Answer (α : Type) where
  | answered (value : α)
  | failed (error : FactoryError)
  | unanswered

/-- Fetch a batch through the service, refilling and retrying while the pool is exhausted,
at most `tries` more times. -/
def fetchRetrying (tries : Nat) (f : Factory σ) : Answer (List Identifier) × Factory σ :=
  match BatchSource.fetch (ServiceClient.mk wire f) with
  | (.ok ids, c) => (.answered ids, c.factory)
  | (.error .poolExhausted, c) =>
    match tries with
    | 0 => (.unanswered, c.factory)
    | n + 1 => fetchRetrying n c.factory.refill.2
  | (.error e, c) => (.failed e, c.factory)

/-- Take one identifier through a reserve, refilling and retrying while the pool is exhausted. -/
def nextRetrying (tries : Nat) (r : Reserve) (f : Factory σ) :
    Answer Identifier × Reserve × Factory σ :=
  match r.next (ServiceClient.mk wire f) with
  | (.ok id, r, c) => (.answered id, r, c.factory)
  | (.error .poolExhausted, r, c) =>
    match tries with
    | 0 => (.unanswered, r, c.factory)
    | n + 1 => nextRetrying n r c.factory.refill.2
  | (.error e, r, c) => (.failed e, r, c.factory)

/-- How often a session waits for a refill before it gives up on a request. -/
def sessionPatience : Nat := 64

/-- Fetch `count` batches in turn, stopping at a request left unanswered or at a failure,
which is returned. -/
def fetchBatches (f : Factory σ) : Nat → List (List Identifier) × Option FactoryError × Factory σ
  | 0 => ([], none, f)
  | n + 1 =>
    match fetchRetrying sessionPatience f with
    | (.answered ids, f) =>
      let (rest, e, f) := fetchBatches f n
      (ids :: rest, e, f)
    | (.failed e, f) => ([], some e, f)
    | (.unanswered, f) => ([], none, f)

/-- Take `count` identifiers one at a time, stopping as fetching batches does. -/
def takeSingles (r : Reserve) (f : Factory σ) :
    Nat → List Identifier × Option FactoryError × Factory σ
  | 0 => ([], none, f)
  | n + 1 =>
    match nextRetrying sessionPatience r f with
    | (.answered id, r, f) =>
      let (rest, e, f) := takeSingles r f n
      (id :: rest, e, f)
    | (.failed e, _, f) => ([], some e, f)
    | (.unanswered, _, f) => ([], none, f)

/-- Insert a number into an ascending list without repeats. -/
def insertSorted (n : Nat) : List Nat → List Nat
  | [] => [n]
  | m :: rest => if n < m then n :: m :: rest else if n = m then m :: rest else m :: insertSorted n rest

/-- Run a session against a started factory: its batches, then its single identifiers; a
failure of either ends the session and is what it reports. -/
def runSession (f : Factory σ) (plan : SessionPlan) : SessionReport :=
  match fetchBatches f plan.batches with
  | (_, some e, _) => .fetchFailed e
  | (batches, none, f) =>
    match takeSingles {} f plan.reserveNext with
    | (_, some e, _) => .reserveFailed e
    | (singles, none, _) =>
      let ids := batches.flatten ++ singles
      let texts := ids.map Identifier.text
      .completed
        { batchSizes := batches.map List.length
          reserveIds := singles.length
          idLengths := ids.foldl (fun acc id => insertSorted id.byteLength acc) []
          allDistinct := (Std.HashSet.ofList texts).size == texts.length
          inAlphabet := match plan.alphabet with
            | some a => texts.all fun t => t.toList.all fun c => a.toList.contains c
            | none => true
          noneInHistory := match plan.history with
            | some h => texts.all fun t => !h.contains t
            | none => true }

/-- The environment variables a run reads: those that stand behind its options. -/
def environmentNames : List String :=
  Cli.serverOptions.filterMap OptionSpec.env

/-- The environment of a run: the variables set, with those of the directory's environment
file added where they are not set already. -/
def runEnvironment (env : Environment) (files : Files) : Environment :=
  match files.read ".env" with
  | .ok bytes => applyEnvFile env bytes
  | .error _ => env

/-- The paths besides the environment file whose contents or presence decide a run: the names
looked up on the way to the history file the configuration names and, for a Unix socket, to the
socket path. A run that stops before it has a configuration consults none. -/
def consultedPaths (args : List String) (env : Environment) (files : Files) : List String :=
  match CliArgs.read args (runEnvironment env files) with
  | .error _ => []
  | .ok a => match ServerConfig.ofArgs 1 a with
    | .error _ => []
    | .ok c =>
      c.historyFile.toList.flatMap namesOnPath ++ (if c.uds then namesOnPath c.serverAddr else [])

/-- Run the server in a directory of files under an environment, drawing from `source`, with a
session if one is planned. -/
def launch (source : σ) (args : List String) (env : Environment) (files : Files)
    (session : Option SessionPlan) : LaunchOutcome :=
  let env := runEnvironment env files
  match CliArgs.read args env with
  | .error e =>
    if e.exitCode = 0 then .exited 0 (e.written env) "" else .exited e.exitCode "" (e.written env)
  | .ok a =>
    match ServerConfig.ofArgs 1 a with
    | .error m => .exited 1 "" ("Error: " ++ m ++ "\n")
    | .ok c =>
      match Factory.create Filter.keyHash c.factory source with
      | .error e => .exited 1 "" ("Error: " ++ e.message ++ "\n")
      | .ok f =>
        let f := match c.historyFile with
          | some path => (f.prepare (fileHistory path (files.read path))).2
          | none => f
        if c.uds then
          match files.bindProblem c.serverAddr with
          | some m => .exited 1 "" ("Error: " ++ m ++ "\n")
          | none => .served (session.map (runSession f.start.refill.2))
        else match addressProblem c.serverAddr with
          | some m => .exited 1 "" ("Error: " ++ m ++ "\n")
          | none => .listensOnNetwork

end IdFactory.Server
