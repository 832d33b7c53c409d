import IdFactory.Server.Launch

namespace IdFactory.Server

open Cli

/-!
# The server's command line

The command line gathers what a run of the server looks at and hands it to
`launch`. It reads the environment variables behind the options and the
environment file of the working directory. It then looks up the paths that
the run consults, each as a file with its contents, as a directory, or as
nothing. The identifiers are drawn from SplitMix64, seeded from the
system's random bytes. The outputs and the exit status are those of the
outcome. Listening is not part of this library, so a run that gets as far
as listening ends with status 0 and no output, as it does after a stop
signal.
-/

/-- What the working directory shows at a path: a file and its contents, a directory, or
nothing. Reading a directory fails as the wrong type of file. -/
def observePath (path : String) : IO Files := do
  match ← (IO.FS.readBinFile path).toBaseIO with
  | .ok bytes => pure [(listedName path, bytes.toList)]
  | .error (.inappropriateType ..) => pure [(listedName path ++ "/", [])]
  | .error _ => pure []

/-- The variables of the environment that a run reads, in the order of the options. -/
def readEnvironment : IO Environment :=
  List.foldlM (fun (env : Environment) name => do
    match ← IO.getEnv name with
    | some value => pure (env ++ [(name, value)])
    | none => pure env) [] environmentNames

/-- A state for SplitMix64 from eight random bytes of the system. -/
def randomState : IO UInt64 := do
  let bytes ← IO.getRandomBytes 8
  pure (bytes.toList.foldr (fun b acc => acc * 256 + b.toUInt64) 0)

end IdFactory.Server

/-- Run the server with the process's arguments, environment and working directory. -/
def main (args : List String) : IO UInt32 := do
  let env ← IdFactory.Server.readEnvironment
  let envFile ← IdFactory.Server.observePath ".env"
  let consulted := IdFactory.Server.consultedPaths args env envFile
  let files ← List.foldlM
    (fun files path => do pure (files ++ (← IdFactory.Server.observePath path))) envFile consulted
  let source := IdFactory.Random.ScriptedSource.seeded (← IdFactory.Server.randomState)
  match IdFactory.Server.launch source args env files none with
  | .exited code stdout stderr =>
    IO.print stdout
    IO.eprint stderr
    pure (UInt32.ofNat code)
  | .served _ => pure 0
  | .listensOnNetwork => pure 0
