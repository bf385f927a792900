import FlagBoard.Command.Run
import FlagBoard.Http.Redirect

/-!
The command line, where no server can be reached.
-/

open FlagBoard

def main (words : List String) : IO UInt32 := do
  let baseUrl ← IO.getEnv Environment.baseUrlVariable
  let session ← IO.getEnv Environment.sessionVariable
  match Arguments.read ⟨baseUrl, session⟩ words with
  | .error refusal => return refusal.exitCode.toUInt32
  | .ok arguments =>
      let report := Command.run ⟨Http.Network.server fun _ => none, [], .blank⟩ arguments
      (← IO.getStdout).putStr report.output
      (← IO.getStderr).putStr (Command.errorOutput report)
      for (name, content) in report.disk.homeFiles do
        IO.FS.writeFile name content
      return (Command.exitCode report).toUInt32
