import NodeAtlas.Error
import NodeAtlas.Text.Blank
import NodeAtlas.Text.Numeral

/-!
# Port numbers

A port is a number from 1 to 65535.
-/

namespace NodeAtlas.Net

open NodeAtlas.Text

/-- The port of an endpoint for which none is configured. -/
def defaultPort : UInt16 := 443

/-- Port 0 is refused. -/
def validatePort (port : UInt16) : Except ValidationError Unit :=
  if port = 0 then .error (.field "port" "Port cannot be 0") else .ok ()

/-- Reads a port from a text, ignoring blank characters around it. -/
def parsePort (s : String) : Except ValidationError UInt16 :=
  match readNumeral 10 65535 (trimChars s.toList) with
  | .error fault => .error (.format ("Invalid port '" ++ s ++ "': " ++ fault.message))
  | .ok n =>
    match validatePort (.ofNat n) with
    | .error e => .error e
    | .ok () => .ok (.ofNat n)

end NodeAtlas.Net
