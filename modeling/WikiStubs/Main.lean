import WikiStubs.Command.Run

/-!
# The program

Runs on the files of the machine that it is started on. Logs and reports go to standard error.
-/
namespace WikiStubs

/-- The fault behind a failed operation on files. System codes may come negated. -/
def FileFault.ofError : IO.Error → FileFault
  | .noFileOrDirectory .. => .missing
  | .alreadyExists .. => .exists
  | .inappropriateType _ code _ => if code = 21 ∨ code = -21 then .isDirectory else .notDirectory
  | .invalidArgument _ code _ => if code = 22 ∨ code = -22 then .nulInPath else .nameTooLong
  | _ => .denied

def attempt {α : Type} (work : IO α) : IO (Except FileFault α) := do
  try
    return .ok (← work)
  catch e =>
    return .error (FileFault.ofError e)

/-- The operations on the machine that the program runs on. No transfer is at hand. -/
def machineHost : Host IO where
  readFile path := do
    match ← attempt (IO.FS.readBinFile (String.ofList path)) with
    | .error e => return .error e
    | .ok bytes =>
      match String.fromUTF8? bytes with
      | some s => return .ok s.toList
      | none => return .error .notText
  transfer address := return .error (Address.refusal address)
  makeDirs path := attempt (IO.FS.createDirAll (String.ofList path))
  writeFile path text := attempt (IO.FS.writeFile (String.ofList path) (String.ofList text))
  print t := do (← IO.getStdout).putStr (String.ofList t)
  log l := do (← IO.getStderr).putStrLn (String.ofList l)
  report l := do (← IO.getStderr).putStrLn (String.ofList l)

def environment : IO (Text → Option Text) := do
  let vars ← [Setting.baseUrl, Setting.wikiDir].mapM fun s => do
    let name := (s.envName?).getD []
    return (name, (← IO.getEnv (String.ofList name)).map (·.toList))
  return fun name => (vars.find? (·.1 = name)).bind (·.2)

end WikiStubs

/-- Runs the program with the arguments of the command line. -/
def main (args : List String) : IO UInt32 := do
  let status ← WikiStubs.Run.program WikiStubs.machineHost (args.map (·.toList))
    (← WikiStubs.environment)
  return status.toUInt32
