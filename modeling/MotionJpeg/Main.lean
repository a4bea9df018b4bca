import MotionJpeg.Command

/-!
# Command line

Reads a command line and tells where the streams of the server it asks for are to be found. The
server itself is a value of the library and runs wherever its host hands it connections.
-/

/-- Prints advice on a command that asks for help or cannot be followed, and otherwise the
addresses of its streams. -/
def main (words : List String) : IO UInt32 := do
  let command := MotionJpeg.Command.ofWords words
  for line in command.advice do
    IO.eprintln line
  if let .stream _ config := command then
    match MotionJpeg.Command.streamAddresses .isolated config with
    | .ok addresses =>
      for address in addresses do
        IO.println address
    | .error failure =>
      IO.eprintln ("Error: " ++ failure.message)
      return 1
  return if command.isSound then 0 else 1
