import Greeter.Address.Endpoint

/-! # Configuration

Where the server listens. Unless told otherwise it listens on port 8080 of the
machine itself.
-/

namespace Greeter

/-- Where the server listens. Port 0 asks for any free port. -/
structure Config where
  host : Host
  port : UInt16
  deriving DecidableEq, Repr

namespace Config

/-- The host used unless told otherwise. -/
def defaultHost : Host := .v4 Ipv4.localhost

/-- The port used unless told otherwise. -/
def defaultPort : UInt16 := 8080

/-- The configuration used unless told otherwise. -/
protected def default : Config := ⟨defaultHost, defaultPort⟩

instance : Inhabited Config := ⟨Config.default⟩

/-- The endpoint to bind. -/
def endpoint (config : Config) : Endpoint := ⟨config.host, config.port⟩

/-- The configuration with its fields named. -/
def debugChars (config : Config) : List Char :=
  "ServerConfig \x7b host: ".toList ++ config.host.chars ++ ", port: ".toList ++
    Nat.toDigits 10 config.port.toNat ++ " \x7d".toList

/-- The configuration with its fields named. -/
def debugText (config : Config) : String := String.ofList config.debugChars

end Config

end Greeter
