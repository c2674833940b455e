import FloatingIp.Startup

/-!
# The program

The outer layer: it reads arguments, the environment and files, and prints.  What it prints and how
it ends is decided by `Startup`.  With settings in hand it tells what is going to be managed;
leading the conversations with the host and with the store is up to the service around it.
-/

namespace FloatingIp.Main

/-- Why the system refuses to read a file. -/
def faultOf : IO.Error → Files.Fault
  | .noFileOrDirectory .. => .notFound
  | .noSuchThing .. => .notFound
  | .inappropriateType _ code _ => if code = 20 then .notDirectory else .isDirectory
  | .invalidArgument .. => .nameTooLong
  | _ => .denied

/-- The content of the file at a path, or why there is none. -/
def lookAt (path : String) : IO (Except Files.Fault (List UInt8)) := do
  try
    let content ← IO.FS.readBinFile path
    return .ok content.toList
  catch e => return .error (faultOf e)

/-- A way to look at files that have been looked at. -/
def lookAmong (seen : List (String × Except Files.Fault (List UInt8))) : Settings.Look :=
  fun path => (seen.lookup path).getD (.error .notFound)

/-- The files that a command line asks to look at. -/
def paths (home : Option String) (args : List String) : List String :=
  match CommandLine.parse args with
  | .ok (.run file) => Settings.candidates home file
  | _ => []

/-- What is going to be managed, in words. -/
def summary (s : Settings) : String :=
  s.vip.cidr ++ " on " ++ s.vip.interface ++ " for " ++ s.vip.node ++ ", led by " ++
    s.vip.key ++ "\n"

end FloatingIp.Main

open FloatingIp in
/-- The program. -/
def main (args : List String) : IO UInt32 := do
  let home ← IO.getEnv "HOME"
  let seen ← (Main.paths home args).mapM fun path => return (path, ← Main.lookAt path)
  match Startup.start (Main.lookAmong seen) home args with
  | .error ending =>
    IO.print ending.stdout
    IO.eprint ending.stderr
    return UInt32.ofNat ending.code
  | .ok settings =>
    IO.print (Main.summary settings)
    return 0
