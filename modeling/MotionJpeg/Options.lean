import MotionJpeg.Network.AddressParser

/-!
# Command-line options

A command line names a directory of images, perhaps an address to listen on, and options that each
take the word after them. An option given again replaces the value before.

* `Options.parse` reads a command line.
* `Options.bindAddress?` reads an address, which may be written `localhost`.
-/

namespace MotionJpeg

/-- What a command line asks for. -/
structure Options where
  imageDirectory : Option String := none
  bindAddress : Option SocketAddress := none
  /-- The directory of static files. -/
  www : Option String := none
  /-- The credentials of clients. -/
  auth : Option String := none
  cert : Option String := none
  key : Option String := none
  fps : Option Nat := none
  deriving DecidableEq, Repr, Inhabited

namespace Options

/-- An option that takes a value. -/
inductive Flag where
  | www
  | auth
  | cert
  | key
  | fps
  deriving DecidableEq, Repr

/-- How an option is written. -/
def Flag.text : Flag → String
  | www => "--www"
  | auth => "--auth"
  | cert => "--cert"
  | key => "--key"
  | fps => "--fps"

/-- The option that is written so. -/
def Flag.ofText? (text : String) : Option Flag :=
  [www, auth, cert, key, fps].find? fun flag => flag.text == text

/-- What is wrong with a command line. -/
inductive Fault where
  | missingValue (flag : Flag)
  | invalidFps (value : String)
  | unknownOption (word : String)
  | unexpectedArgument (word : String)
  | invalidBindAddress (word : String)
  /-- Only one of certificate and key is given. -/
  | unpairedTlsFile
  deriving DecidableEq, Repr

/-- The words for a fault. -/
def Fault.message : Fault → String
  | missingValue flag => "Missing value for " ++ flag.text
  | invalidFps value => "Invalid fps: '" ++ value ++ "'"
  | unknownOption word => "Unknown option: " ++ word
  | unexpectedArgument word => "Unexpected argument: " ++ word
  | invalidBindAddress word =>
    "Invalid bind address: '" ++ word ++ "'. Expected format: IP:PORT or IP or 'localhost'"
  | unpairedTlsFile => "--cert and --key must be given together"

/-- The port where none is given. -/
def defaultPort : UInt16 := 8000

/-- The text with `new` in place of every occurrence of `old`, from the left, after the next `skip`
characters, which are left out. -/
def replaceAll (old new : List Char) (skip : Nat) : List Char → List Char
  | [] => []
  | c :: rest =>
    match skip with
    | skip + 1 => replaceAll old new skip rest
    | 0 =>
      if old.isPrefixOf (c :: rest) then new ++ replaceAll old new (old.length - 1) rest
      else c :: replaceAll old new 0 rest

/-- The address that a text names: a socket address, or a host address with the usual port. The
word `localhost` stands for the loopback address. -/
def bindAddress? (text : String) : Option SocketAddress :=
  let text := String.ofList
    (replaceAll "localhost".toList IPv4.loopback.text.toList 0 text.toList)
  (SocketAddress.parse? text).or
    ((HostAddress.parse? text).map fun host => .ofHost host defaultPort)

/-- The rate that a text names: decimal digits, with a plus sign before them or not, for a number
of at most thirty-two bits. -/
def fps? (text : String) : Option Nat :=
  let digits :=
    match text.toList with
    | '+' :: rest => rest
    | chars => chars
  Reader.whole? (Reader.number 10 4294967296 none true) (String.ofList digits)

/-- The options with a value for one of them. -/
def withValue (options : Options) (flag : Flag) (value : String) : Except Fault Options :=
  match flag with
  | .www => .ok { options with www := some value }
  | .auth => .ok { options with auth := some value }
  | .cert => .ok { options with cert := some value }
  | .key => .ok { options with key := some value }
  | .fps =>
    match fps? value with
    | some fps => .ok { options with fps := some fps }
    | none => .error (.invalidFps value)

/-- The word is written like an option. -/
def isOption (word : String) : Bool := ['-', '-'].isPrefixOf word.toList

/-- The options with a word that belongs to no option: the directory, then the address. -/
def withPositional (options : Options) (word : String) : Except Fault Options :=
  if options.imageDirectory.isNone then .ok { options with imageDirectory := some word }
  else if options.bindAddress.isNone then
    match bindAddress? word with
    | some address => .ok { options with bindAddress := some address }
    | none => .error (.invalidBindAddress word)
  else .error (.unexpectedArgument word)

/-- The options with the rest of a command line. -/
def withWords (options : Options) : List String → Except Fault Options
  | [] => .ok options
  | word :: rest =>
    match Flag.ofText? word with
    | some flag =>
      match rest with
      | [] => .error (.missingValue flag)
      | value :: rest =>
        match options.withValue flag value with
        | .ok options => withWords options rest
        | .error fault => .error fault
    | none =>
      if isOption word then .error (.unknownOption word)
      else
        match options.withPositional word with
        | .ok options => withWords options rest
        | .error fault => .error fault

/-- Reads a command line. A certificate and a key come together or not at all. -/
def parse (words : List String) : Except Fault Options := do
  let options ← withWords {} words
  if options.cert.isSome != options.key.isSome then throw .unpairedTlsFile
  return options

end Options

end MotionJpeg
