import MarkupAudit.Command.Basic

namespace MarkupAudit.Command

/-- What stands under a path on disk. -/
def fileOnDisk (path : String) : IO FileState := do
  try
    let bytes ← IO.FS.readBinFile path
    return match String.fromUTF8? bytes with
      | some content => .text content
      | none => .unreadable
  catch _ =>
    try
      let _ ← IO.FS.Handle.mk path .read
      return .directory
    catch _ => return .missing

/-- The surroundings of a call. -/
def surroundings (args : List String) : IO Surroundings := do
  let environment ← variableNames.mapM fun name => do return (name, ← IO.getEnv name)
  let envVar? := fun name => (environment.lookup name).join
  let held ← (paths args envVar?).mapM fun path => do return (path, ← fileOnDisk path)
  return { files := fun path => (held.lookup path).getD .missing, envVar? }

/-- Puts out what a call comes to. -/
def Outcome.putOut (o : Outcome) : IO UInt32 := do
  for line in o.log do
    IO.eprintln line.display
  if let some content := o.written then
    IO.FS.writeFile configName content
  IO.print o.output
  if let some message := o.error then
    IO.eprintln ("Error: " ++ message)
  if o.exit = 2 then
    IO.eprint usageText
  return o.exit.toUInt32

end MarkupAudit.Command

/-- Runs the command, with checks of its own work, on the arguments of the program. -/
def main (args : List String) : IO UInt32 := do
  (MarkupAudit.Command.run .checked args (← MarkupAudit.Command.surroundings args)).putOut
