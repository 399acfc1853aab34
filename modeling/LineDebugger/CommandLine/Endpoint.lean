import LineDebugger.Text.Numeral
import LineDebugger.Text.Quoted

namespace LineDebugger
namespace CommandLine

/-!
# Endpoints

An endpoint is a host and a port with a colon between them.  The last colon counts, so
hosts may have colons of their own.
-/

/-- Where a virtual machine listens. -/
structure Endpoint where
  host : String
  port : UInt16
  deriving DecidableEq, Repr

namespace Endpoint

/-- The written form of an endpoint. -/
def render (endpoint : Endpoint) : String :=
  endpoint.host ++ ":" ++ toString endpoint.port.toNat

/-- What stands before and after the last colon. -/
def splitLast : List Char -> Option (List Char × List Char)
  | [] => none
  | c :: rest =>
      match splitLast rest with
      | some (before, after) => some (c :: before, after)
      | none => if c = ':' then some ([], rest) else none

/-- The endpoint that a text stands for, or what is wrong with the text. -/
def parse (text : String) : Except String Endpoint :=
  match splitLast text.toList with
  | none => .error ("expected HOST:PORT, got " ++ Text.quoted text)
  | some (host, port) =>
      if host.isEmpty then .error ("missing host in " ++ Text.quoted text)
      else
        let port := String.ofList port
        match Text.Numeral.word16? port with
        | some number => .ok ⟨String.ofList host, number⟩
        | none => .error ("invalid port " ++ Text.quoted port)

end Endpoint
end CommandLine
end LineDebugger
